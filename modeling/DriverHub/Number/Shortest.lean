import DriverHub.Number.Binary64
import DriverHub.Number.Digits

/-! The shortest decimal that reads back as a given double. Of the decimals with the fewest digits
inside the interval of reals that round to the number, the nearest one is taken. -/

namespace DriverHub

/-- The decimal `digits * 10^exp`. -/
structure Decimal where
  digits : Nat
  exp : Int
deriving DecidableEq, Repr

/-- What becomes of two candidates that are equally near. -/
inductive Tie where
  | up
  | even

namespace Decimal

/-- Compares `a * 10^i` with `n * 2^j`. -/
def compareScaled (a : Nat) (i : Int) (n : Nat) (j : Int) : Ordering :=
  compare (a * Nat.pow 10 i.toNat * Nat.pow 2 (-j).toNat)
    (n * Nat.pow 2 j.toNat * Nat.pow 10 (-i).toNat)

/-- Whether the decimal lies among the reals that round to `x`. The gap below a power of two is half
as wide as the gap above. -/
def readsBack (x : Binary64) (d : Decimal) : Bool :=
  let m := x.significand
  let narrow := x.fractionField = 0 ∧ 1 < x.exponentField
  let low := if narrow then 4 * m - 1 else 4 * m - 2
  let high := 4 * m + 2
  let closed := m % 2 = 0
  let below := compareScaled d.digits d.exp low (x.scale - 2)
  let above := compareScaled d.digits d.exp high (x.scale - 2)
  (below = .gt || (closed && below = .eq)) && (above = .lt || (closed && above = .eq))

/-- The exponent of ten of the leading digit of a nonzero number. -/
def leading (x : Binary64) : Int :=
  let (num, den) := x.ratio
  let guess : Int := ((Nat.log2 num : Int) - Nat.log2 den) * 30103 / 100000
  let reaches (e : Int) : Bool := den * Nat.pow 10 e.toNat ≤ num * Nat.pow 10 (-e).toNat
  if reaches (guess + 2) then guess + 2
  else if reaches (guess + 1) then guess + 1
  else if reaches guess then guess
  else if reaches (guess - 1) then guess - 1
  else guess - 2

/-- The better of the two neighbours of the number on the grid `10^e`, if one reads back. -/
def onGrid (tie : Tie) (x : Binary64) (e : Int) : Option Decimal :=
  let (num, den) := x.ratio
  let n := num * Nat.pow 10 (-e).toNat
  let d := den * Nat.pow 10 e.toNat
  let low := n / d
  let below : Decimal := ⟨low, e⟩
  let above : Decimal := ⟨low + 1, e⟩
  match readsBack x below, readsBack x above with
  | true, false => some below
  | false, true => some above
  | false, false => none
  | true, true =>
    match compare (2 * n) ((2 * low + 1) * d) with
    | .lt => some below
    | .gt => some above
    | .eq => match tie with
      | .up => some above
      | .even => some (if low % 2 = 0 then below else above)

/-- Drops trailing zeros of at most `fuel` digits. -/
def stripZeros : Nat → Decimal → Decimal
  | 0, d => d
  | fuel + 1, d =>
    if d.digits ≠ 0 ∧ d.digits % 10 = 0 then stripZeros fuel ⟨d.digits / 10, d.exp + 1⟩ else d

/-- The exact value, for a number on which no grid of at most seventeen digits succeeds. -/
def exact (x : Binary64) : Decimal :=
  let (num, den) := x.ratio
  ⟨num * Nat.pow 5 (-x.scale).toNat / (den / Nat.pow 2 (-x.scale).toNat), min x.scale 0⟩

/-- The shortest decimal of a finite number other than zero. -/
def shortest (tie : Tie) (x : Binary64) : Decimal :=
  let top := leading x
  match (List.range 17).findSome? fun (n : Nat) => onGrid tie x (top - n) with
  | some d => stripZeros 20 d
  | none => exact x

end Decimal

/-- How a shortest decimal is laid out. -/
structure FloatLayout where
  /-- Exponents of the leading digit from here on are written positionally. -/
  plainFrom : Int
  /-- Exponents of the leading digit from here on are written with an exponent. -/
  plainBelow : Int
  /-- Whether an exponent of zero or more carries a sign. -/
  plus : Bool
  tie : Tie

namespace FloatLayout

/-- Lays out a decimal: positionally with at least one digit after the point, or as one digit, the
other digits after a point if there are any, and the exponent. -/
def layOut (layout : FloatLayout) (d : Decimal) : List Char :=
  let digits := Digits.ofNat d.digits
  let point : Int := digits.length + d.exp
  if layout.plainFrom ≤ point - 1 ∧ point - 1 < layout.plainBelow then
    if d.exp ≥ 0 then digits ++ List.replicate d.exp.toNat '0' ++ ['.', '0']
    else if point > 0 then digits.take point.toNat ++ '.' :: digits.drop point.toNat
    else '0' :: '.' :: (List.replicate (-point).toNat '0' ++ digits)
  else
    let mantissa := match digits with
      | first :: second :: rest => first :: '.' :: second :: rest
      | short => short
    let sign := if layout.plus ∧ point ≥ 1 then ['+'] else []
    mantissa ++ 'e' :: sign ++ (Digits.intText (point - 1)).toList

/-- The text of a number. -/
def render (layout : FloatLayout) (x : Binary64) : String :=
  if x.isNaN then "NaN"
  else
    let magnitude :=
      if ¬ x.isFinite then "inf"
      else if x.isZero then "0.0"
      else String.ofList (layout.layOut (Decimal.shortest layout.tie x))
    if x.negative then "-" ++ magnitude else magnitude

/-- Numbers shown to people: positional from `0.0001` up to `10^16`. -/
def display : FloatLayout := ⟨-4, 16, false, .up⟩

/-- Numbers written into JSON text: positional from `0.00001` up to `10^16`. -/
def json : FloatLayout := ⟨-5, 16, true, .even⟩

end FloatLayout

end DriverHub
