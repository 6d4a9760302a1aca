import DriverHub.Script.Call

/-! Scripts made of a few statements, to try a hub out without a script engine. -/

namespace DriverHub.Rehearsal

inductive Expr where
  | const (v : Value)
  /-- An argument of the call; null where there is none. -/
  | arg (i : Nat)
  | singleton (name : String)
  | field (singleton name : String)
  | differ (a b : Expr)
  | list (items : List Expr)
  | object (fields : List (String × Expr))

inductive Statement where
  | give (e : Expr)
  | throw (message : String)
  | fail (diagnostics : List Diagnostic)
  /-- Fails as a broken engine does. -/
  | host (message : String)
  /-- The same, during the first `runs` runs of the function. -/
  | hostFirst (runs : Nat) (message : String)
  | throwFirst (runs : Nat) (message : String)
  | set (singleton field : String) (e : Expr)
  | put (singleton : String) (e : Expr)
  | drop (singleton : String)
  | sleep (ms : Nat)

/-- What a source text stands for. -/
structure ScriptedProgram where
  program : Program := {}
  functions : Dict String (List Statement) := []
  warnings : List Diagnostic := []
  reject : Option (List Diagnostic) := none
  analyzeError : Option String := none
  compileError : Option String := none

/-- What an expression can see. -/
structure Scope where
  args : List Value
  singletons : Dict String Value

namespace Expr

mutual

def eval (scope : Scope) : Expr → Value
  | const v => v
  | arg i => (scope.args[i]?).getD .null
  | singleton name => (Dict.find? name scope.singletons).getD .null
  | field name member =>
    ((Dict.find? name scope.singletons).bind (·.field? member)).getD .null
  | differ a b => .bool (!(eval scope a).same (eval scope b))
  | list items => .list (evalItems scope items)
  | object fields => .ofFields (evalFields scope fields)

def evalItems (scope : Scope) : List Expr → List Value
  | [] => []
  | e :: rest => eval scope e :: evalItems scope rest

def evalFields (scope : Scope) : List (String × Expr) → List (String × Value)
  | [] => []
  | (name, e) :: rest => (name, eval scope e) :: evalFields scope rest

end

end Expr

/-- Sets a field of a singleton, if that is an object. -/
def setField (singleton field : String) (v : Value) (singletons : Dict String Value) :
    Dict String Value :=
  Dict.modify singleton (fun old => match old with
    | .object fields => .object (Dict.insert field v fields)
    | other => other) singletons

/-- The fault of a script that throws. -/
def thrown (message : String) : Diagnostic := .fault "throw" message {}

def unknownSource : Diagnostic where
  severity := .error
  phase := .syntactic
  message := "unknown source"
  span := {}

def cancelled : Diagnostic := .fault "timeout" "Execution was cancelled" {}

end DriverHub.Rehearsal
