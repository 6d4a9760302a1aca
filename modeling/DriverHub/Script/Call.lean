import DriverHub.Dict
import DriverHub.Script.Program
import DriverHub.Value.Basic

/-! Calls of script functions and what the script engine answers. -/

namespace DriverHub

structure Signature where
  params : List (String × ScriptType) := []
  returns : ScriptType

def Signature.text (s : Signature) : String :=
  "(" ++ String.intercalate ", " (s.params.map fun (name, type) => name ++ ": " ++ type.text) ++
    ") -> " ++ s.returns.text

structure Call where
  function : String
  /-- Whether `function` is the name in the source, and not one that the analyzer made. -/
  literal : Bool := true
  signature : Signature
  args : List Value := []

/-- A compiled program. Only the engine looks at the artifact. -/
structure CompiledUnit where
  program : String
  artifact : String
deriving DecidableEq

/-- What analyzing a source yields. -/
inductive Analysis where
  | analyzed (program : Program) (warnings : List Diagnostic)
  | rejected (diagnostics : List Diagnostic)

/-- How one run of a function ended. A completed run hands back its singletons. -/
inductive RunOutcome where
  | completed (value : Value) (singletons : Dict String Value)
  | failed (diagnostics : List Diagnostic)

/-- A failure of the engine itself. -/
inductive EngineError where
  | compile (program message : String)
  | host (program message : String)
  | missingSingleton (program singleton : String)
deriving DecidableEq

def EngineError.text : EngineError → String
  | compile program message => "Failed to compile `" ++ program ++ "`: " ++ message
  | host program message => "Script engine failure while running `" ++ program ++ "`: " ++ message
  | missingSingleton program singleton =>
    "Singleton `" ++ singleton ++ "` missing from the result of `" ++ program ++ "`"

/-- What a call came to: a value, or the diagnostics about the run. -/
inductive Outcome (α : Type) where
  | returned (value : α)
  | failed (diagnostics : List Diagnostic)

namespace Outcome

def map {α β : Type} (f : α → β) : Outcome α → Outcome β
  | returned value => .returned (f value)
  | failed diagnostics => .failed diagnostics

def isSuccess {α : Type} : Outcome α → Bool
  | returned _ => true
  | failed _ => false

def diagnostics {α : Type} : Outcome α → List Diagnostic
  | returned _ => []
  | failed diagnostics => diagnostics

end Outcome

end DriverHub
