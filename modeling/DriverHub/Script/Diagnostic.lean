/-! Diagnostics about scripts: errors, warnings and hints, each with a place in a source text. -/

namespace DriverHub

/-- A byte range inside a named source. -/
structure Span where
  filename : String := ""
  start : Nat := 0
  stop : Nat := 0
deriving DecidableEq, Inhabited

inductive Severity where
  | error | warning | hint
deriving DecidableEq

def Severity.name : Severity → String
  | error => "error"
  | warning => "warning"
  | hint => "hint"

/-- When in the life of a script a diagnostic arose. -/
inductive Phase where
  | syntactic
  | semantic
  /-- A fault while the script ran; `interrupt` names its class. -/
  | runtime (interrupt : String)
deriving DecidableEq

structure Diagnostic where
  severity : Severity
  phase : Phase
  message : String
  notes : List String := []
  span : Span
deriving DecidableEq

namespace Diagnostic

/-- An error found while analyzing a script. -/
def error (message : String) (span : Span) (notes : List String := []) : Diagnostic :=
  { severity := .error, phase := .semantic, message, span, notes }

def fault (interrupt message : String) (span : Span) : Diagnostic :=
  { severity := .error, phase := .runtime interrupt, message, span }

/-- A fault of a driver function that broke its contract. -/
def driverFault (message : String) (span : Span) : Diagnostic := fault "driver" message span

def isError (d : Diagnostic) : Bool := d.severity = .error

def headline (d : Diagnostic) : String :=
  match d.phase with
  | .syntactic => "syntax " ++ d.severity.name ++ ": " ++ d.message
  | .semantic => d.severity.name ++ ": " ++ d.message
  | .runtime interrupt =>
    "runtime " ++ d.severity.name ++ " (" ++ interrupt ++ "): " ++ d.message

/-- The headline, and each note on a line of its own. -/
def text (d : Diagnostic) : String :=
  d.headline ++ String.join (d.notes.map ("\n  note: " ++ ·))

end Diagnostic

def hasErrors (diagnostics : List Diagnostic) : Bool := diagnostics.any (·.isError)

end DriverHub
