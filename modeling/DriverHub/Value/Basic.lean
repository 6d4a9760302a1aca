import DriverHub.Dict
import DriverHub.Number.Binary64
import DriverHub.Value.Range

/-! Values that drivers exchange with the hub: singletons, arguments and results of calls. -/

namespace DriverHub

inductive Value where
  | null
  | int (i : Int64)
  | float (x : Binary64)
  | bool (b : Bool)
  | str (s : String)
  | range (r : Range)
  | list (items : List Value)
  /-- An option that holds nothing. -/
  | absent
  /-- An option that holds a value. -/
  | present (held : Value)
  | object (fields : List (String × Value))
deriving Inhabited

/-- The kind of a value, without its contents. -/
inductive ValueKind where
  | null | int | float | bool | string | range | list | option | object
deriving DecidableEq

namespace ValueKind

def name : ValueKind → String
  | null => "NULL"
  | int => "INT"
  | float => "FLOAT"
  | bool => "BOOL"
  | string => "STRING"
  | range => "RANGE"
  | list => "LIST"
  | option => "OPTION"
  | object => "OBJECT"

end ValueKind

namespace Value

def kind : Value → ValueKind
  | null => .null
  | int _ => .int
  | float _ => .float
  | bool _ => .bool
  | str _ => .string
  | range _ => .range
  | list _ => .list
  | absent => .option
  | present _ => .option
  | object _ => .object

/-- An object with the given fields; of fields under one name the last is kept. -/
def ofFields (fields : List (String × Value)) : Value := .object (Dict.ofList fields)

def isPrimitive : Value → Bool
  | int _ | float _ | bool _ | str _ => true
  | _ => false

def bool? : Value → Option Bool
  | bool b => some b
  | _ => none

def int? : Value → Option Int64
  | int i => some i
  | _ => none

def str? : Value → Option String
  | str s => some s
  | _ => none

def range? : Value → Option Range
  | range r => some r
  | _ => none

def list? : Value → Option (List Value)
  | list items => some items
  | _ => none

/-- The field of an object under `name`. -/
def field? (name : String) : Value → Option Value
  | object fields => Dict.find? name fields
  | _ => none

mutual

/-- Equality of values; floats are compared as numbers. -/
def same : Value → Value → Bool
  | null, null => true
  | int i, int j => i = j
  | float x, float y => x.same y
  | bool a, bool b => a = b
  | str s, str t => s = t
  | range r, range s => r = s
  | list xs, list ys => sameItems xs ys
  | absent, absent => true
  | present v, present w => same v w
  | object fs, object gs => sameFields fs gs
  | _, _ => false

def sameItems : List Value → List Value → Bool
  | [], [] => true
  | v :: vs, w :: ws => same v w && sameItems vs ws
  | _, _ => false

def sameFields : List (String × Value) → List (String × Value) → Bool
  | [], [] => true
  | (k, v) :: fs, (l, w) :: gs => k = l && same v w && sameFields fs gs
  | _, _ => false

end

end Value

end DriverHub
