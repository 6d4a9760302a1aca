/-! Reports: a headline, and the stretches of text that it is about. -/

namespace DriverHub

/-- A stretch of a text, from the character at `start` to the one before `stop`. -/
structure TextRange where
  start : Nat
  stop : Nat
deriving DecidableEq, Inhabited

/-- A range cut at the end of a text of the given size. -/
def TextRange.within (size : Nat) (range : TextRange) : TextRange :=
  let stop := min range.stop size
  ⟨min range.start stop, stop⟩

inductive ReportKind where
  | error | warning | advice
deriving DecidableEq

def ReportKind.name : ReportKind → String
  | error => "Error"
  | warning => "Warning"
  | advice => "Advice"

/-- A stretch of a file, with what is to be said about it. -/
structure Quote where
  file : String
  text : String
  range : TextRange
  message : String

structure Report where
  kind : ReportKind
  headline : String
  quotes : List Quote
  notes : List String := []

end DriverHub
