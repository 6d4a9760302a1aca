import DriverHub.Number.Digits
import DriverHub.Text.Split

/-! Semantic versions: three numbers of 64 bits between points. -/

namespace DriverHub

structure Version where
  major : UInt64
  minor : UInt64
  patch : UInt64
deriving DecidableEq, Inhabited

namespace Version

/-- A number of 64 bits: digits after an optional plus sign. -/
def segment? (cs : List Char) : Option UInt64 :=
  let digits := match cs with
    | '+' :: rest => rest
    | _ => cs
  (Digits.parse? digits).bind fun n => if n < 0x10000000000000000 then some (UInt64.ofNat n) else none

def parse? (text : String) : Option Version :=
  match (Text.split '.' text.toList).map segment? with
  | [some major, some minor, some patch] => some { major, minor, patch }
  | _ => none

def text (v : Version) : String :=
  Digits.natText v.major.toNat ++ "." ++ Digits.natText v.minor.toNat ++ "." ++
    Digits.natText v.patch.toNat

/-- The message about a text that is no version. -/
def invalidText (text : String) : String :=
  "Invalid semantic version `" ++ text ++ "`: expected `major.minor.patch`"

protected def compare (v w : Version) : Ordering :=
  (compare v.major w.major).then ((compare v.minor w.minor).then (compare v.patch w.patch))

end Version

end DriverHub
