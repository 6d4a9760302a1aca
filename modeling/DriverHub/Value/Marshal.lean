import DriverHub.Json.Basic
import DriverHub.Value.Basic

/-! Values as JSON trees. Writing forgets options, which become null or the value they hold, and
turns ranges into objects; a float that is no number becomes null. Reading back without a schema
yields numbers, strings, lists and objects only. -/

namespace DriverHub.Value

def rangeJson (r : Range) : Json :=
  .object [("start", .ofInt64 r.start), ("end", .ofInt64 r.stop), ("end_inclusive", .bool r.inclusive)]

mutual

def toJson : Value → Json
  | .null => .null
  | .int i => .ofInt64 i
  | .float x => (Json.ofBinary64? x).getD .null
  | .bool b => .bool b
  | .str s => .str s
  | .range r => rangeJson r
  | .list items => .arr (toJsonItems items)
  | .absent => .null
  | .present held => held.toJson
  | .object fields => .obj (toJsonFields fields)

def toJsonItems : List Value → List Json
  | [] => []
  | v :: rest => v.toJson :: toJsonItems rest

def toJsonFields : List (String × Value) → List (String × Json)
  | [] => []
  | (name, v) :: rest => (name, v.toJson) :: toJsonFields rest

end

/-- The value of a JSON integer: an `int` where it fits, a float elsewhere. -/
def ofJsonInt (i : JsonInt) : Value :=
  if i.val < 0x8000000000000000 then .int (Int64.ofInt i.val) else .float (Binary64.ofInt i.val)

mutual

/-- The plain reading of a JSON tree, with no schema to guide it. -/
def ofJson : Json → Value
  | .null => .null
  | .bool b => .bool b
  | .int i => ofJsonInt i
  | .float x => .float x.val
  | .str s => .str s
  | .arr items => .list (ofJsonItems items)
  | .obj fields => .object (ofJsonFields fields)

def ofJsonItems : List Json → List Value
  | [] => []
  | j :: rest => ofJson j :: ofJsonItems rest

def ofJsonFields : List (String × Json) → List (String × Value)
  | [] => []
  | (name, j) :: rest => (name, ofJson j) :: ofJsonFields rest

end

end DriverHub.Value
