import DriverHub.Value.Basic

/-! Schemas: the shapes that the singletons of a driver may have. -/

namespace DriverHub

inductive AtomKind where
  | int | float | bool | string
deriving DecidableEq

def AtomKind.name : AtomKind → String
  | int => "INT"
  | float => "FLOAT"
  | bool => "BOOL"
  | string => "STRING"

/-- The value that a new atom starts with. -/
def AtomKind.zero : AtomKind → Value
  | int => .int 0
  | float => .float .zero
  | bool => .bool false
  | string => .str ""

inductive Schema where
  | atom (kind : AtomKind)
  | list (inner : Schema)
  | option (inner : Schema)
  /-- Objects with exactly these fields. -/
  | struct (fields : List (String × Schema))
deriving BEq, Inhabited

namespace Schema

/-- The name of the outermost kind. -/
def kindName : Schema → String
  | atom kind => kind.name
  | list _ => "LIST"
  | option _ => "OPTION"
  | struct _ => "STRUCT"

/-- The schema of the first field of that name. -/
def field? (name : String) : Schema → Option Schema
  | struct fields => Dict.find? name fields
  | _ => none

/-- Whether the value is of the outermost kind of the schema. -/
def matchesKind : Schema → Value → Bool
  | atom .int, .int _ => true
  | atom .float, .float _ => true
  | atom .bool, .bool _ => true
  | atom .string, .str _ => true
  | list _, .list _ => true
  | option _, .absent => true
  | option _, .present _ => true
  | struct _, .object _ => true
  | _, _ => false

mutual

/-- The value that a new singleton of this shape starts with. -/
def zero : Schema → Value
  | .atom kind => kind.zero
  | .list _ => .list []
  | .option _ => .absent
  | .struct fields => .ofFields (zeroFields fields)

def zeroFields : List (String × Schema) → List (String × Value)
  | [] => []
  | (name, schema) :: rest => (name, schema.zero) :: zeroFields rest

end

mutual

def text : Schema → String
  | .atom kind => kind.name
  | .list inner => "[" ++ inner.text ++ "]"
  | .option inner => "?" ++ inner.text
  | .struct fields => "\x7b" ++ String.intercalate "," (fieldTexts fields) ++ " \x7d"

def fieldTexts : List (String × Schema) → List String
  | [] => []
  | (name, schema) :: rest => (" " ++ name ++ ": " ++ schema.text) :: fieldTexts rest

end

end Schema

end DriverHub
