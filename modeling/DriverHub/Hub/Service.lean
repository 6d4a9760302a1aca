import DriverHub.Flow
import DriverHub.Log
import DriverHub.Records.Store
import DriverHub.Script.UnitCache

/-! What the hub asks of its surroundings to run scripts: the kept records, the script engine, tokens
that cancel a run, and the log. -/

namespace DriverHub

abbrev TokenId := Nat

abbrev DeadlineId := Nat

inductive Service where
  | record (op : RecordOp)
  | analyze (program source : String)
  | compile (program : Program)
  /-- Runs a function until it ends or the token is cancelled. -/
  | run (unit : CompiledUnit) (call : Call) (singletons : Dict String Value) (token : TokenId)
  | newToken
  /-- Cancels the token after a time, unless it is stopped before. -/
  | startDeadline (token : TokenId) (ms : Nat)
  | stopDeadline (deadline : DeadlineId)
  | log (line : LogLine)

namespace Service

@[reducible]
def Answer : Service → Type
  | record op => Except RecordError op.Result
  | analyze .. => Except EngineError Analysis
  | compile _ => Except EngineError CompiledUnit
  | run .. => Except EngineError RunOutcome
  | newToken => TokenId
  | startDeadline .. => DeadlineId
  | stopDeadline _ => Unit
  | log _ => Unit

end Service

@[reducible]
def services : Interface := ⟨Service, Service.Answer⟩

namespace Service

variable {σ : Type}

def request (q : Service) : Flow services σ q.Answer := .ask q .done

def report (line : LogLine) : Flow services σ Unit := request (.log line)

end Service

/-- Writes a line to the log. -/
def Attempt.report {σ ε : Type} (line : LogLine) : Attempt services σ ε Unit :=
  Attempt.lift (Service.report line)

/-- The unit of a program at a revision: the kept one, or else a new one, which is kept. Two flows that
miss at once both compile, and the later unit stays. -/
def UnitCache.getOrCompile (program : Program) (revision : String) :
    Attempt services UnitCache EngineError CompiledUnit := do
  match ← .look (get? program.id revision) with
  | some unit => return unit
  | none =>
    let unit ← Attempt.of id (Service.request (.compile program))
    .change (put program.id revision unit)
    return unit

end DriverHub
