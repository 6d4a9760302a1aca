import DriverHub.Config.Sections
import DriverHub.Report.Layout

/-! What may be wrong with a configuration, and how it is told. -/

namespace DriverHub.Config

/-- A field that two files set. -/
structure Conflict where
  field : Field
  first : Place
  later : Place
deriving DecidableEq

/-- What the value of a field has to satisfy. -/
inductive Requirement where
  | oneSecond
  | once
  | present
deriving DecidableEq

def Requirement.text : Requirement → String
  | oneSecond => "must be at least 1 second"
  | once => "must be at least 1"
  | present => "required when [mqtt] is present"

inductive Problem where
  /-- A file that sets and imports nothing. -/
  | emptyFile (path : String)
  | conflict (c : Conflict)
  /-- A field that falls short of a requirement, and where it was set. -/
  | invalid (field : Field) (requirement : Requirement) (place : Option Place)
deriving DecidableEq

/-- An empty file is worth a warning only. -/
def Problem.isError : Problem → Bool
  | emptyFile _ => false
  | _ => true

def Conflict.text (c : Conflict) : String :=
  "'" ++ c.field.path ++ "' is defined in multiple config files"

def Place.quote (place : Place) (message : String) : Quote where
  file := place.source.path
  text := place.source.text
  range := place.range
  message := message

def Conflict.report (c : Conflict) : Report where
  kind := .error
  headline := "Merge conflict in field '" ++ c.field.path ++ "'"
  quotes := [c.first.quote "first definition here", c.later.quote "conflicts with this definition"]
  notes := [c.text]

namespace Problem

def text : Problem → String
  | emptyFile path => "Warning: Config file '" ++ path ++ "' is empty and has no effect\n"
  | conflict c => c.report.text
  | invalid field requirement none =>
    "Validation error in '" ++ field.path ++ "': " ++ requirement.text ++ "\n"
  | invalid field requirement (some place) =>
    Report.text
      { kind := .error
        headline := "Invalid value for '" ++ field.path ++ "'"
        quotes := [place.quote requirement.text] }

end Problem

def problemsText (problems : List Problem) : String := String.join (problems.map Problem.text)

end DriverHub.Config
