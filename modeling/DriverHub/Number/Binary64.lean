/-! Double-precision numbers as 64-bit words, with every operation in exact integer arithmetic: a
finite word stands for `m * 2^q`, and a result that no word holds goes to the nearest one, a half to
the even neighbour. -/

namespace DriverHub

/-- A double-precision number, held as its bits. -/
structure Binary64 where
  bits : UInt64
deriving DecidableEq, Inhabited

namespace Binary64

def negative (x : Binary64) : Bool :=
  x.bits.toNat / 0x8000000000000000 = 1

def exponentField (x : Binary64) : Nat :=
  x.bits.toNat / 0x10000000000000 % 0x800

def fractionField (x : Binary64) : Nat :=
  x.bits.toNat % 0x10000000000000

def isFinite (x : Binary64) : Bool :=
  x.exponentField ≠ 2047

def isNaN (x : Binary64) : Bool :=
  x.exponentField = 2047 ∧ x.fractionField ≠ 0

/-- The `m` of the magnitude `m * 2^q` of a finite number. -/
def significand (x : Binary64) : Nat :=
  if x.exponentField = 0 then x.fractionField else 0x10000000000000 + x.fractionField

/-- The `q` of the magnitude `m * 2^q` of a finite number. -/
def scale (x : Binary64) : Int :=
  if x.exponentField = 0 then -1074 else (x.exponentField : Int) - 1075

def isZero (x : Binary64) : Bool :=
  x.exponentField = 0 ∧ x.fractionField = 0

/-- The magnitude of a finite number as a quotient. -/
def ratio (x : Binary64) : Nat × Nat :=
  (x.significand * Nat.pow 2 x.scale.toNat, Nat.pow 2 (-x.scale).toNat)

/-- Assembles a number from its sign and the word of its magnitude. -/
def ofMagnitude (negative : Bool) (magnitude : Nat) : Binary64 :=
  ⟨UInt64.ofNat (if negative then 0x8000000000000000 + magnitude else magnitude)⟩

def zero : Binary64 := ofMagnitude false 0

def infinity (negative : Bool) : Binary64 :=
  ofMagnitude negative (0x7FF0000000000000)

def nan : Binary64 := ofMagnitude false (0x7FF8000000000000)

def neg (x : Binary64) : Binary64 :=
  ofMagnitude (!x.negative) (x.bits.toNat % 0x8000000000000000)

/-- `num / den` to the nearest integer, a half to the even one. -/
def divEven (num den : Nat) : Nat :=
  let q := num / den
  let r := num % den
  if 2 * r < den then q
  else if 2 * r = den then q + q % 2
  else q + 1

/-- The double nearest to `num / den`, with the given sign. -/
def ofRatio (negative : Bool) (num den : Nat) : Binary64 :=
  if num = 0 then ofMagnitude negative 0
  else
    let l : Int := (Nat.log2 num : Int) - Nat.log2 den - 53
    let fits := num * Nat.pow 2 (-(l + 53)).toNat < den * Nat.pow 2 (l + 53).toNat
    let q := max (if fits then l else l + 1) (-1074)
    let m := divEven (num * Nat.pow 2 (-q).toNat) (den * Nat.pow 2 q.toNat)
    let magnitude := (q + 1074).toNat * 0x10000000000000 + m
    if magnitude < 0x7FF0000000000000 then ofMagnitude negative magnitude else infinity negative

def ofInt (i : Int) : Binary64 :=
  ofRatio (i < 0) i.natAbs 1

def ofNat (n : Nat) : Binary64 :=
  ofRatio false n 1

/-- The product of two finite numbers, rounded. -/
def mul (x y : Binary64) : Binary64 :=
  let (a, b) := x.ratio
  let (c, d) := y.ratio
  ofRatio (x.negative != y.negative) (a * c) (b * d)

/-- The quotient of two finite numbers, rounded; the divisor is not zero. -/
def div (x y : Binary64) : Binary64 :=
  let (a, b) := x.ratio
  let (c, d) := y.ratio
  ofRatio (x.negative != y.negative) (a * d) (b * c)

/-- The integer that a finite number without fractional part stands for. -/
def integer? (x : Binary64) : Option Int :=
  if x.isFinite then
    let (num, den) := x.ratio
    if num % den = 0 then
      some (if x.negative then -(num / den : Nat) else (num / den : Nat))
    else none
  else none

/-- Reads `significand * 10^exp` in double arithmetic: the significand is rounded to a double first,
then multiplied with or divided by the double nearest to the power of ten, in steps of at most
`10^308`. Nothing is returned for a number beyond the largest double. -/
def ofScientific (negative : Bool) (significand : Nat) (exp : Int) : Option Binary64 :=
  go 3 (ofRatio negative significand 1) exp
where
  go : Nat → Binary64 → Int → Option Binary64
    | 0, _, _ => some (ofMagnitude negative 0)
    | fuel + 1, f, e =>
      if e.natAbs ≤ 308 then
        if 0 ≤ e then
          let scaled := f.mul (ofNat (Nat.pow 10 e.toNat))
          if scaled.isFinite then some scaled else none
        else some (f.div (ofNat (Nat.pow 10 (-e).toNat)))
      else if f.isZero then some f
      else if 0 ≤ e then none
      else go fuel (f.div (ofNat (Nat.pow 10 308))) (e + 308)

/-- Equality of numbers: the two zeros are equal, and NaN equals nothing. -/
def same (x y : Binary64) : Bool :=
  !x.isNaN && !y.isNaN && (x.bits = y.bits || (x.isZero && y.isZero))

end Binary64

end DriverHub
