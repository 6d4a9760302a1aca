import DriverHub.Dispatch.Table
import DriverHub.Flow
import DriverHub.Hub.Error
import DriverHub.Log
import DriverHub.Text.Split

/-! The state of the dispatcher, why it may fail, and what it asks of its surroundings. -/

namespace DriverHub

structure DispatchSettings where
  /-- How often a delivery is tried. -/
  attempts : Nat := 3
  /-- The milliseconds between two attempts. -/
  retryDelay : Nat := 500
  /-- The milliseconds between two sweeps over the queued registrations. -/
  pendingInterval : Nat := 30000
deriving DecidableEq, Inhabited

structure DispatchState where
  table : RegistrationTable := {}
  nextId : RegistrationId := 1
  /-- The requests that wait for the next sweep, the oldest first. -/
  pending : List RegisterRequest := []
  /-- The registrations with a timer that is armed. -/
  timers : List RegistrationId := []
  /-- Whether there is a message broker. -/
  broker : Bool := false
  /-- The jobs that are alive, with their programs. -/
  jobs : Dict JobId String := []
  settings : DispatchSettings := {}
deriving Inhabited

inductive DispatchError where
  | noTopics
  | notRegistered (id : RegistrationId)
  | jobNotAlive (job : JobId)
  | noBroker
  | broker (reason : String)
  | hub (e : HubError)
  | engine (e : EngineError)

namespace DispatchError

def text : DispatchError → String
  | noTopics => "Message trigger has no topics"
  | notRegistered id => "Registration " ++ Digits.natText id ++ " not found"
  | jobNotAlive job => "Job " ++ Digits.natText job ++ " is not alive"
  | noBroker => "No message broker configured"
  | broker reason => "Message broker unavailable: " ++ reason
  | hub e => e.text
  | engine e => e.text

/-- Whether the failure may clear up on its own. -/
def isTransient : DispatchError → Bool
  | noBroker => true
  | broker _ => true
  | _ => false

end DispatchError

/-- The oldest job of a program that is alive. -/
def DispatchState.jobOf? (program : String) (s : DispatchState) : Option JobId :=
  (List.find? (fun job => job.2 = program) s.jobs).map (·.1)

/-- What the dispatcher asks. The broker answers a failure with its reason. -/
inductive DispatchService where
  | subscribe (topic : String)
  | unsubscribe (topic : String)
  | now
  /-- Has the dispatcher told, after a time, that the timer of a registration fired. -/
  | armTimer (id : RegistrationId) (ms : Nat)
  | disarmTimer (id : RegistrationId)
  /-- Runs a callback to its end, and answers whether it returned a value. -/
  | deliver (registration : Registration) (call : Call)
  | record (op : RecordOp)
  | prepare (driver : DriverRecord)
  | invoke (target : Target) (call : Call)
  | log (line : LogLine)

namespace DispatchService

@[reducible]
def Answer : DispatchService → Type
  | subscribe _ => Except String Unit
  | unsubscribe _ => Except String Unit
  | now => Int
  | armTimer .. => Unit
  | disarmTimer _ => Unit
  | deliver .. => Bool
  | record op => Except RecordError op.Result
  | prepare _ => Except HubError Program
  | invoke .. => Except HubError (Outcome Value)
  | log _ => Unit

end DispatchService

@[reducible]
def dispatchServices : Interface := ⟨DispatchService, DispatchService.Answer⟩

/-- Operations of the dispatcher. -/
abbrev Dispatching := Flow dispatchServices DispatchState

/-- Operations of the dispatcher that may fail. -/
abbrev DispatchAttempt := Attempt dispatchServices DispatchState DispatchError

namespace Dispatching

def ask (q : DispatchService) : Dispatching q.Answer := Flow.ask q .done

def look {α : Type} (f : DispatchState → α) : Dispatching α := Flow.look f

def warn (text : String) : Dispatching Unit := ask (.log (.warn text))

def info (text : String) : Dispatching Unit := ask (.log (.info text))

end Dispatching

end DriverHub
