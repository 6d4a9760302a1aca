import DriverHub.Number.Shortest
import DriverHub.Value.Basic

/-! How values are shown in messages. Strings are shown bare. -/

namespace DriverHub.Value

mutual

def text : Value → String
  | .null => "null"
  | .int i => Digits.intText i.toInt
  | .float x => FloatLayout.display.render x
  | .bool true => "true"
  | .bool false => "false"
  | .str s => s
  | .range r => r.text
  | .list items => "[" ++ String.intercalate ", " (itemTexts items) ++ "]"
  | .absent => "none"
  | .present held => "?" ++ held.text
  | .object fields => "\x7b" ++ String.intercalate "," (fieldTexts fields) ++ " \x7d"

def itemTexts : List Value → List String
  | [] => []
  | v :: rest => v.text :: itemTexts rest

def fieldTexts : List (String × Value) → List String
  | [] => []
  | (name, v) :: rest => (" " ++ name ++ ": " ++ v.text) :: fieldTexts rest

end

end DriverHub.Value
