import DriverHub.Number.Binary64
import DriverHub.Number.Digits

/-! Reading a decimal as the nearest double. -/

namespace DriverHub.Binary64

/-- The double nearest to `digits * 10^exp`. Beyond four hundred places either way the result is
settled without computing the power. -/
def ofDecimal (negative : Bool) (digits : List Char) (exp : Int) : Binary64 :=
  let significant := digits.dropWhile (· = '0')
  let magnitude : Int := significant.length + exp
  if significant.isEmpty ∨ magnitude < -400 then ofMagnitude negative 0
  else if 400 < magnitude then infinity negative
  else
    let n := Digits.value significant
    ofRatio negative (n * Nat.pow 10 exp.toNat) (Nat.pow 10 (-exp).toNat)

/-- Reads an optional exponent up to the end of the text. -/
def exponent? (cs : List Char) : Option Int :=
  match cs with
  | [] => some 0
  | c :: rest =>
    if c = 'e' ∨ c = 'E' then
      match rest with
      | '-' :: digits => (Digits.parse? digits).map fun n => -(n : Int)
      | '+' :: digits => (Digits.parse? digits).map fun n => (n : Int)
      | digits => (Digits.parse? digits).map fun n => (n : Int)
    else none

/-- Reads digits with an optional point and exponent; at least one digit is there. -/
def magnitude? (negative : Bool) (cs : List Char) : Option Binary64 :=
  let whole := cs.takeWhile Digits.isDigit
  let (fraction, rest) := match cs.dropWhile Digits.isDigit with
    | '.' :: rest => (rest.takeWhile Digits.isDigit, rest.dropWhile Digits.isDigit)
    | rest => ([], rest)
  if whole.isEmpty ∧ fraction.isEmpty then none
  else
    (exponent? rest).map fun e => ofDecimal negative (whole ++ fraction) (e - fraction.length)

/-- Reads a number: a decimal, an infinity or NaN, with an optional sign. -/
def parse? (text : String) : Option Binary64 :=
  let (negative, body) := match text.toList with
    | '-' :: rest => (true, rest)
    | '+' :: rest => (false, rest)
    | cs => (false, cs)
  match String.ofList body with
  | "NaN" => some (if negative then nan.neg else nan)
  | "inf" => some (infinity negative)
  | _ => magnitude? negative body

end DriverHub.Binary64
