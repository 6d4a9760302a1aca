import DriverHub.Schema.Basic
import DriverHub.Script.Diagnostic
import DriverHub.Script.Type

/-! Schemas of script types. Only data types have one. -/

namespace DriverHub.ScriptType

def noSchema (type : ScriptType) (span : Span) : Diagnostic :=
  .error ("Cannot derive user configuration from type `" ++ type.text ++ "`") span
    ["Singleton types may only contain int, float, bool, str, lists, options and objects"]

mutual

/-- The schema of a type, or the first type inside it, in field order, that has none. -/
def lower : ScriptType → Except ScriptType Schema
  | .int => .ok (.atom .int)
  | .float => .ok (.atom .float)
  | .bool => .ok (.atom .bool)
  | .str => .ok (.atom .string)
  | .list inner =>
    match inner.lower with
    | .ok schema => .ok (.list schema)
    | .error type => .error type
  | .option inner =>
    match inner.lower with
    | .ok schema => .ok (.option schema)
    | .error type => .error type
  | .object fields =>
    match lowerFields fields with
    | .ok schemas => .ok (.struct schemas)
    | .error type => .error type
  | other => .error other

def lowerFields : List (String × ScriptType) → Except ScriptType (List (String × Schema))
  | [] => .ok []
  | (name, type) :: rest =>
    match type.lower with
    | .error type => .error type
    | .ok schema =>
      match lowerFields rest with
      | .error type => .error type
      | .ok schemas => .ok ((name, schema) :: schemas)

end

/-- The schema of a type, or the diagnostic about it. -/
def schema (type : ScriptType) (span : Span) : Except Diagnostic Schema :=
  match type.lower with
  | .ok schema => .ok schema
  | .error offending => .error (offending.noSchema span)

end DriverHub.ScriptType
