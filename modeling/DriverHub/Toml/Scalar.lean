import DriverHub.Number.Reading
import DriverHub.Toml.Basic

/-! Numbers, booleans and dates in TOML. -/

namespace DriverHub.Toml.Scalar

/-! ### Numbers -/

/-- Digits without the underscores between them; each underscore stands between two digits. -/
def ungroup (isDigit : Char → Bool) : List Char → Option (List Char)
  | [] => none
  | [d] => if isDigit d then some [d] else none
  | d :: '_' :: rest => if isDigit d then (ungroup isDigit rest).map (d :: ·) else none
  | d :: rest => if isDigit d then (ungroup isDigit rest).map (d :: ·) else none

def decimal? (cs : List Char) : Option (List Char) := ungroup Digits.isDigit cs

/-- Decimal digits without leading zeros. -/
def whole? (cs : List Char) : Option (List Char) := do
  let digits ← decimal? cs
  if digits.head? = some '0' ∧ 1 < digits.length then none else some digits

def digitValue (c : Char) : Nat :=
  if Digits.isDigit c then Digits.digitValue c
  else if 'a' ≤ c ∧ c ≤ 'f' then c.toNat - 'a'.toNat + 10
  else if 'A' ≤ c ∧ c ≤ 'F' then c.toNat - 'A'.toNat + 10
  else 16

/-- A number written in digits of the given base. -/
def based? (base : Nat) (cs : List Char) : Option Int := do
  let digits ← ungroup (fun c => digitValue c < base) cs
  return (digits.foldl (fun n c => base * n + digitValue c) 0 : Nat)

/-- Integers have at most 128 bits. -/
def int? (i : Int) : Option Toml :=
  if -0x80000000000000000000000000000000 ≤ i ∧ i < 0x100000000000000000000000000000000 then some (.int i)
  else none

/-- The digits of an exponent with its sign. -/
def exponent? (cs : List Char) : Option (List Char) :=
  match cs with
  | '-' :: digits => (decimal? digits).map ('-' :: ·)
  | '+' :: digits => decimal? digits
  | digits => decimal? digits

/-- A float that its text does not carry beyond the largest double. -/
def float? (text : List Char) : Option Toml := do
  if (← Binary64.magnitude? false text).isFinite then some .float else none

/-- The part of a float after its whole digits: a fraction, an exponent, or both. -/
def floatTail? (whole cs : List Char) : Option Toml :=
  match cs with
  | '.' :: rest => do
    let fraction ← decimal? (rest.takeWhile fun c => Digits.isDigit c ∨ c = '_')
    match rest.dropWhile fun c => Digits.isDigit c ∨ c = '_' with
    | [] => float? (whole ++ '.' :: fraction)
    | mark :: rest =>
      if mark = 'e' ∨ mark = 'E' then float? (whole ++ '.' :: fraction ++ 'e' :: (← exponent? rest))
      else none
  | mark :: rest => do
    if mark = 'e' ∨ mark = 'E' then float? (whole ++ 'e' :: (← exponent? rest)) else none
  | [] => none

def unsigned? (negative : Bool) (cs : List Char) : Option Toml := do
  match cs with
  | ['i', 'n', 'f'] => return .float
  | ['n', 'a', 'n'] => return .float
  | _ =>
    let whole ← whole? (cs.takeWhile fun c => Digits.isDigit c ∨ c = '_')
    match cs.dropWhile fun c => Digits.isDigit c ∨ c = '_' with
    | [] =>
      let n := Digits.value whole
      int? (if negative then -(n : Int) else n)
    | rest => floatTail? whole rest

/-- A number or a boolean that is the whole text. -/
def plain? (cs : List Char) : Option Toml :=
  match cs with
  | ['t', 'r', 'u', 'e'] => some (.bool true)
  | ['f', 'a', 'l', 's', 'e'] => some (.bool false)
  | '0' :: 'x' :: digits => (based? 16 digits).bind int?
  | '0' :: 'o' :: digits => (based? 8 digits).bind int?
  | '0' :: 'b' :: digits => (based? 2 digits).bind int?
  | '-' :: rest => unsigned? true rest
  | '+' :: rest => unsigned? false rest
  | rest => unsigned? false rest

/-! ### Dates and times -/

/-- Exactly `count` digits. -/
def field? (count : Nat) (cs : List Char) : Option (Nat × List Char) :=
  (Digits.parse? (cs.take count)).bind fun n =>
    if (cs.take count).length = count then some (n, cs.drop count) else none

def expect (c : Char) : List Char → Option (List Char)
  | d :: rest => if c = d then some rest else none
  | [] => none

def daysIn (year month : Nat) : Nat :=
  if month = 2 then
    if year % 4 = 0 ∧ (year % 100 ≠ 0 ∨ year % 400 = 0) then 29 else 28
  else if month ∈ [4, 6, 9, 11] then 30 else 31

def day? (cs : List Char) : Option (List Char) := do
  let (year, rest) ← field? 4 cs
  let (month, rest) ← field? 2 (← expect '-' rest)
  let (day, rest) ← field? 2 (← expect '-' rest)
  if 1 ≤ month ∧ month ≤ 12 ∧ 1 ≤ day ∧ day ≤ daysIn year month then some rest else none

/-- The seconds of a time and their fraction, each of which may be missing. -/
def seconds? (cs : List Char) : Option (List Char) :=
  match cs with
  | ':' :: rest => do
    let (second, rest) ← field? 2 rest
    if 60 < second then none
    else
      match rest with
      | '.' :: rest =>
        if (rest.takeWhile Digits.isDigit).isEmpty then none else some (rest.dropWhile Digits.isDigit)
      | rest => some rest
  | cs => some cs

def clock? (cs : List Char) : Option (List Char) := do
  let (hour, rest) ← field? 2 cs
  let (minute, rest) ← field? 2 (← expect ':' rest)
  if hour < 24 ∧ minute < 60 then some rest else none

def time? (cs : List Char) : Option (List Char) := do seconds? (← clock? cs)

/-- A time with the distance to Greenwich, which may be missing. -/
def zoned? (cs : List Char) : Option (List Char) := do
  match ← time? cs with
  | 'Z' :: rest => return rest
  | 'z' :: rest => return rest
  | '+' :: rest => clock? rest
  | '-' :: rest => clock? rest
  | rest => return rest

/-- A day, and a time after `T` or a space. -/
def dated? (cs : List Char) : Option (List Char) := do
  match ← day? cs with
  | 'T' :: rest => zoned? rest
  | 't' :: rest => zoned? rest
  | ' ' :: d :: rest => if Digits.isDigit d then zoned? (d :: rest) else some (' ' :: d :: rest)
  | rest => some rest

/-- Characters of which numbers and names of values are made. -/
def isPart (c : Char) : Bool :=
  c.isAlphanum || c = '+' || c = '-' || c = '_' || c = '.'

/-- Reads a value that is no string, array or table. -/
def read? (cs : List Char) : Option (Toml × List Char) :=
  let digits := (cs.takeWhile Digits.isDigit).length
  if digits = 4 ∧ cs[4]? = some '-' then (dated? cs).map (.date, ·)
  else if digits = 2 ∧ cs[2]? = some ':' then (time? cs).map (.date, ·)
  else (plain? (cs.takeWhile isPart)).map (·, cs.dropWhile isPart)

end DriverHub.Toml.Scalar
