/-! The log: lines, their levels, and the levels that pass. -/

namespace DriverHub

inductive LogLevel where
  | trace | debug | info | warn | error
deriving DecidableEq, Inhabited

namespace LogLevel

/-- The name of a level in the log. -/
def name : LogLevel → String
  | trace => "TRACE"
  | debug => "DEBUG"
  | info => "INFO"
  | warn => "WARN"
  | error => "ERROR"

/-- The name of a level as a heading. -/
def title : LogLevel → String
  | trace => "Trace"
  | debug => "Debug"
  | info => "Info"
  | warn => "Warn"
  | error => "Error"

/-- The word for a level in a configuration. -/
def word : LogLevel → String
  | trace => "trace"
  | debug => "debug"
  | info => "info"
  | warn => "warn"
  | error => "error"

def ofWord? : String → Option LogLevel
  | "trace" => some trace
  | "debug" => some debug
  | "info" => some info
  | "warn" => some warn
  | "error" => some error
  | _ => none

theorem ofWord?_word (l : LogLevel) : ofWord? l.word = some l := by cases l <;> rfl

/-- How much a line of the level weighs. -/
def weight : LogLevel → Nat
  | trace => 0
  | debug => 1
  | info => 2
  | warn => 3
  | error => 4

/-- Whether lines of a level pass a limit. -/
def admits (limit level : LogLevel) : Bool := limit.weight ≤ level.weight

end LogLevel

structure LogLine where
  level : LogLevel
  text : String
deriving DecidableEq

namespace LogLine

def error (text : String) : LogLine := ⟨.error, text⟩

def warn (text : String) : LogLine := ⟨.warn, text⟩

def info (text : String) : LogLine := ⟨.info, text⟩

end LogLine

end DriverHub
