import DriverHub.Json.Basic
import DriverHub.Number.Digits
import DriverHub.Schema.Basic

/-! Reading configuration as a schema says. A tree is accepted only if it matches the schema
everywhere; otherwise the first fault in reading order is reported with its place. -/

namespace DriverHub

/-- One step into a value. -/
inductive PathStep where
  | member (name : String)
  | index (i : Nat)
deriving DecidableEq

inductive ConfigProblem where
  | mismatch (expected found : String)
  | missing (field : String)
  | extra (field : String)
deriving DecidableEq

structure ConfigError where
  path : List PathStep := []
  problem : ConfigProblem
deriving DecidableEq

def PathStep.text : PathStep → String
  | member name => "." ++ name
  | index i => "[" ++ Digits.natText i ++ "]"

def ConfigProblem.text : ConfigProblem → String
  | mismatch expected found => "Expected " ++ expected ++ ", got " ++ found
  | missing field => "Missing object field `" ++ field ++ "`"
  | extra field => "Illegal additional field `" ++ field ++ "`"

namespace ConfigError

def pathText (e : ConfigError) : String := String.join (e.path.map PathStep.text)

def text (e : ConfigError) : String :=
  if e.path.isEmpty then "Invalid new configuration: " ++ e.problem.text
  else "Invalid new configuration: field `" ++ e.pathText ++ "`: " ++ e.problem.text

/-- The error as seen from outside the step. -/
def under (step : PathStep) (e : ConfigError) : ConfigError := { e with path := step :: e.path }

end ConfigError

namespace Json

/-- The integer that a number stands for, if it has no fractional part and fits a signed word. -/
def integral? : Json → Option Int64
  | .int i => if i.val < 0x8000000000000000 then some (Int64.ofInt i.val) else none
  | .float x =>
    x.val.integer?.bind fun i =>
      if -0x8000000000000000 ≤ i ∧ i < 0x8000000000000000 then some (Int64.ofInt i) else none
  | _ => none

/-- The double nearest to a number. -/
def double? : Json → Option Binary64
  | .int i => some (Binary64.ofInt i.val)
  | .float x => some x.val
  | _ => none

/-- The kind of a tree in error messages: a number without fractional part is an integer. -/
def kindName : Json → String
  | .null => "NULL"
  | .bool _ => "BOOL"
  | .int i => if (integral? (.int i)).isSome then "INT" else "FLOAT"
  | .float x => if (integral? (.float x)).isSome then "INT" else "FLOAT"
  | .str _ => "STRING"
  | .arr _ => "LIST"
  | .obj _ => "OBJECT"

end Json

namespace Schema

def mismatch (schema : Schema) (j : Json) : ConfigError :=
  { problem := .mismatch schema.kindName j.kindName }

def decodeAtom (kind : AtomKind) (j : Json) : Option Value :=
  match kind, j with
  | .string, .str s => some (.str s)
  | .bool, .bool b => some (.bool b)
  | .int, j => j.integral?.map .int
  | .float, j => j.double?.map .float
  | _, _ => none

/-- Reads the items of a list, the first of which has the index `start`. -/
def decodeItems (decode : Json → Except ConfigError Value) (start : Nat) :
    List Json → Except ConfigError (List Value)
  | [] => .ok []
  | j :: rest =>
    match decode j with
    | .error e => .error (e.under (.index start))
    | .ok v =>
      match decodeItems decode (start + 1) rest with
      | .error e => .error e
      | .ok vs => .ok (v :: vs)

mutual

/-- Reads a tree as the schema says. An option reads null as absent and all else as its inner
schema; a struct reads its fields in order and then refuses the smallest key that is no field. -/
def decode : Schema → Json → Except ConfigError Value
  | .atom kind, j =>
    match decodeAtom kind j with
    | some v => .ok v
    | none => .error (mismatch (.atom kind) j)
  | .option inner, j =>
    match j with
    | .null => .ok .absent
    | j =>
      match inner.decode j with
      | .error e => .error e
      | .ok v => .ok (.present v)
  | .list inner, j =>
    match j with
    | .arr items =>
      match decodeItems inner.decode 0 items with
      | .error e => .error e
      | .ok vs => .ok (.list vs)
    | j => .error (mismatch (.list inner) j)
  | .struct fields, j =>
    match j with
    | .obj members =>
      match decodeFields fields members with
      | .error e => .error e
      | .ok decoded =>
        match members.find? fun m => !(Dict.contains m.1 fields) with
        | some extra => .error { problem := .extra extra.1 }
        | none => .ok (.ofFields decoded)
    | j => .error (mismatch (.struct fields) j)

def decodeFields : List (String × Schema) → List (String × Json) →
    Except ConfigError (List (String × Value))
  | [], _ => .ok []
  | (name, schema) :: rest, members =>
    match Dict.find? name members with
    | none => .error { problem := .missing name }
    | some j =>
      match schema.decode j with
      | .error e => .error (e.under (.member name))
      | .ok v =>
        match decodeFields rest members with
        | .error e => .error e
        | .ok decoded => .ok ((name, v) :: decoded)

end

/-- Checks a tree without keeping the value. -/
def validate (schema : Schema) (j : Json) : Except ConfigError Unit :=
  match schema.decode j with
  | .error e => .error e
  | .ok _ => .ok ()

end Schema

end DriverHub
