import DriverHub.Json.Basic

/-! Records in JSON trees as written. A record is an object whose known members are not repeated, or
the list of its fields in order; unknown members are ignored. -/

namespace DriverHub.Json

/-- The fields of a record under the given names, in that order. -/
def recordFields? (names : List String) : Json → Option (List (Option Json))
  | .obj members =>
    if names.all fun name => (members.filter (·.1 = name)).length ≤ 1 then
      some (names.map fun name => Dict.find? name members)
    else none
  | .arr items =>
    if items.length ≤ names.length then
      some (items.map some ++ List.replicate (names.length - items.length) none)
    else none
  | _ => none

/-- The name of a choice without contents: a string, or an object with the name as its only key and
null under it. -/
def choice? : Json → Option String
  | .str s => some s
  | .obj [(name, .null)] => some name
  | _ => none

/-- A choice marked by the member `tag`: its name and the rest of the record. -/
def tagged? (tag : String) : Json → Option (String × Json)
  | .obj members =>
    match members.filter (·.1 = tag) with
    | [(_, .str name)] => some (name, .obj (members.filter (·.1 ≠ tag)))
    | _ => none
  | .arr (.str name :: rest) => some (name, .arr rest)
  | _ => none

def str? : Json → Option String
  | .str s => some s
  | _ => none

def bool? : Json → Option Bool
  | .bool b => some b
  | _ => none

def int64? : Json → Option Int64
  | .int i => if i.val < 0x8000000000000000 then some (Int64.ofInt i.val) else none
  | _ => none

def nat? : Json → Option Nat
  | .int i => if 0 ≤ i.val then some i.val.toNat else none
  | _ => none

def items? : Json → Option (List Json)
  | .arr items => some items
  | _ => none

/-- Reads a list whose items are read by `read`. -/
def listOf? {α : Type} (read : Json → Option α) (j : Json) : Option (List α) :=
  j.items?.bind (·.mapM read)

end DriverHub.Json
