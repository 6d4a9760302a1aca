/-! Decimal digits of natural numbers, and integers written with them. -/

namespace DriverHub.Digits

def digitChar (d : Nat) : Char :=
  Char.ofNat ('0'.toNat + d)

/-- Writes the digits of `n` in front of `rest`, the last digit first. -/
def render (n : Nat) (rest : List Char) : List Char :=
  if n < 10 then digitChar n :: rest
  else render (n / 10) (digitChar (n % 10) :: rest)
termination_by n

/-- The decimal digits of a number, without leading zeros. -/
def ofNat (n : Nat) : List Char := render n []

def natText (n : Nat) : String := String.ofList (ofNat n)

def intText (i : Int) : String :=
  if i < 0 then "-" ++ natText i.natAbs else natText i.natAbs

def isDigit (c : Char) : Bool := '0' ≤ c && c ≤ '9'

def digitValue (c : Char) : Nat := c.toNat - '0'.toNat

/-- The number a run of digits stands for. -/
def value (digits : List Char) : Nat :=
  digits.foldl (fun n c => 10 * n + digitValue c) 0

/-- Reads one or more digits and nothing else. -/
def parse? (text : List Char) : Option Nat :=
  if text.isEmpty then none
  else if text.all isDigit then some (value text)
  else none

end DriverHub.Digits
