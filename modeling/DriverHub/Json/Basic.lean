import DriverHub.Dict
import DriverHub.Number.Binary64

/-! JSON trees. A number is an integer of at most 64 bits, signed or unsigned, or a finite double.
Objects are kept in order of their keys. -/

namespace DriverHub

/-- An integer that fits a signed or an unsigned 64-bit word. -/
structure JsonInt where
  val : Int
  lower : -0x8000000000000000 ≤ val := by omega
  upper : val < 0x10000000000000000 := by omega
deriving DecidableEq

/-- A finite double. -/
structure JsonFloat where
  val : Binary64
  finite : val.isFinite = true
deriving DecidableEq

inductive Json where
  | null
  | bool (b : Bool)
  | int (i : JsonInt)
  | float (x : JsonFloat)
  | str (s : String)
  | arr (items : List Json)
  | obj (fields : List (String × Json))
deriving BEq, Inhabited

namespace JsonInt

def ofInt? (i : Int) : Option JsonInt :=
  if h : -0x8000000000000000 ≤ i ∧ i < 0x10000000000000000 then some ⟨i, h.1, h.2⟩ else none

def ofInt64 (i : Int64) : JsonInt where
  val := i.toInt
  lower := i.le_toInt
  upper := Int.lt_trans i.toInt_lt (by decide)

def ofUInt64 (n : UInt64) : JsonInt where
  val := n.toNat
  lower := by omega
  upper := by have := n.toNat_lt; omega

end JsonInt

namespace Json

/-- A number for a finite double; nothing stands for the others. -/
def ofBinary64? (x : Binary64) : Option Json :=
  if h : x.isFinite = true then some (.float ⟨x, h⟩) else none

def ofInt64 (i : Int64) : Json := .int (.ofInt64 i)

def ofUInt64 (n : UInt64) : Json := .int (.ofUInt64 n)

mutual

/-- Sorts the members of every object by key; of members under one key the last is kept. -/
def canonical : Json → Json
  | .arr items => .arr (canonicalItems items)
  | .obj fields => .obj (Dict.ofList (canonicalMembers fields))
  | other => other

def canonicalItems : List Json → List Json
  | [] => []
  | j :: rest => j.canonical :: canonicalItems rest

def canonicalMembers : List (String × Json) → List (String × Json)
  | [] => []
  | (k, j) :: rest => (k, j.canonical) :: canonicalMembers rest

end

mutual

/-- The number of values in a tree, itself included. -/
def size : Json → Nat
  | .arr items => 1 + sizeItems items
  | .obj fields => 1 + sizeMembers fields
  | _ => 1

def sizeItems : List Json → Nat
  | [] => 0
  | j :: rest => j.size + sizeItems rest

def sizeMembers : List (String × Json) → Nat
  | [] => 0
  | (_, j) :: rest => j.size + sizeMembers rest

end

def object (members : List (String × Json)) : Json :=
  .obj (Dict.ofList members)

/-- The member of an object under `key`. -/
def member? (key : String) : Json → Option Json
  | .obj fields => Dict.find? key fields
  | _ => none

end Json

end DriverHub
