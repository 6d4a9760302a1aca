/-! Types of the driver language, as the analyzer reports them. -/

namespace DriverHub

inductive ScriptType where
  | null
  | int
  | float
  | bool
  | str
  | range
  | any
  | never
  /-- The analyzer could not resolve the type. -/
  | unknown
  | list (inner : ScriptType)
  | option (inner : ScriptType)
  | object (fields : List (String × ScriptType))
  | function (params : List ScriptType) (returns : ScriptType)
  | union (variants : List ScriptType)
deriving BEq, Inhabited

namespace ScriptType

mutual

/-- The type as it is written in a script. -/
def text : ScriptType → String
  | .null => "null"
  | .int => "int"
  | .float => "float"
  | .bool => "bool"
  | .str => "str"
  | .range => "range"
  | .any => "any"
  | .never => "!"
  | .unknown => "unknown"
  | .list inner => "[" ++ inner.text ++ "]"
  | .option inner => "?" ++ inner.text
  | .object fields => "\x7b" ++ String.intercalate "," (fieldTexts fields) ++ " \x7d"
  | .function params returns =>
    "fn(" ++ String.intercalate ", " (texts params) ++ ") -> " ++ returns.text
  | .union variants => String.intercalate " | " (texts variants)

def texts : List ScriptType → List String
  | [] => []
  | t :: rest => t.text :: texts rest

def fieldTexts : List (String × ScriptType) → List String
  | [] => []
  | (name, t) :: rest => (" " ++ name ++ ": " ++ t.text) :: fieldTexts rest

end

end ScriptType

end DriverHub
