import DriverHub.Hub.Hub
import DriverHub.Rehearsal.Script

/-! The surroundings of a hub in a rehearsal: scripted programs in place of an engine, a broker that
fails on demand, jobs, and a clock that moves only when all have to wait. -/

namespace DriverHub.Rehearsal

/-- Something that the surroundings were asked. -/
inductive Asked where
  | analyzed (program source : String)
  | compiled (program : String)
  | ran (program : String) (call : Call) (singletons : Dict String Value)
  | calledBack (job : JobId) (call : Call)
  | subscribed (topic : String) (succeeded : Bool)
  | unsubscribed (topic : String) (succeeded : Bool)

/-- How a job answers its callbacks. -/
structure JobScript where
  program : String
  /-- How many callbacks the job still fails for. -/
  failures : Nat := 0
  /-- What the job throws, if it does; the empty text stands for a fault without diagnostics. -/
  fault : Option String := none

/-- Something that is to happen beside what goes on now. -/
inductive Errand where
  | deadline (id : DeadlineId) (token : TokenId) (ms : Nat)
  | timer (id : RegistrationId) (ms : Nat)
  | handle (event : DispatchEvent)

structure World where
  hub : Hub := {}
  store : RecordStore := {}
  files : FileTree := {}
  /-- The time that has passed, in milliseconds. -/
  clock : Nat := 0
  programs : Dict String ScriptedProgram := []
  /-- The source that each program was last analyzed from. -/
  analyzed : Dict String String := []
  /-- How often each function of each program ran. -/
  runs : List ((String × String) × Nat) := []
  hostDown : Bool := false
  /-- The topics and requests that the broker fails for. -/
  failing : List String := []
  jobs : Dict JobId JobScript := []
  tokens : Nat := 0
  cancelled : List TokenId := []
  deadlines : Nat := 0
  /-- The deadlines that are not stopped. -/
  pendingDeadlines : List DeadlineId := []
  armed : List RegistrationId := []
  /-- The events that the event loop has not taken yet. -/
  events : List DispatchEvent := []
  /-- What was started and has not run yet. -/
  errands : List Errand := []
  asked : List Asked := []
  log : List LogLine := []
deriving Inhabited

/-- Waiting up to a time, or until a token is cancelled. -/
structure Wait where
  due : Nat
  token : Option TokenId := none

/-- A wait is answered with whether the token was cancelled. -/
@[reducible]
def waits : Interface := ⟨Wait, fun _ => Bool⟩

abbrev Task := Flow waits World

namespace World

def note (a : Asked) (w : World) : World := { w with asked := w.asked ++ [a] }

def isCancelled (w : World) (token : Option TokenId) : Bool :=
  match token with
  | none => false
  | some token => token ∈ w.cancelled

def start (errand : Errand) (w : World) : World := { w with errands := w.errands ++ [errand] }

def cancel (token : TokenId) (w : World) : World :=
  { w with cancelled := token :: w.cancelled }

def runsOf (program function : String) (w : World) : Nat :=
  (Dict.find? (program, function) w.runs).getD 0

def countRun (program function : String) (w : World) : World :=
  { w with runs := ((program, function), w.runsOf program function + 1) ::
      Dict.erase (program, function) w.runs }

/-- Whether the broker fails a request. -/
def fails (w : World) (request topic : String) : Bool :=
  w.failing.any fun f => f = topic || f = "*" || f = request ++ " " ++ topic

/-! What may be done to the surroundings from outside. -/

def define (source : String) (program : ScriptedProgram) (w : World) : World :=
  { w with programs := Dict.insert source program w.programs }

def forget (source : String) (w : World) : World :=
  { w with programs := Dict.erase source w.programs }

def follow (w : World) : World := { w with hub := { w.hub with following := true } }

def changeDispatch (f : DispatchState → DispatchState) (w : World) : World :=
  { w with hub := { w.hub with dispatch := f w.hub.dispatch } }

def changeLive (f : LiveState → LiveState) (w : World) : World :=
  { w with hub := { w.hub with live := f w.hub.live } }

def changeSingletons (f : Singletons → Singletons) (w : World) : World :=
  w.changeLive fun live => { live with singletons := f live.singletons }

def connectBroker (w : World) : World := w.changeDispatch fun d => { d with broker := true }

/-- Brings a job to life. -/
def addJob (id : JobId) (script : JobScript) (w : World) : World :=
  let w := w.changeDispatch fun d => { d with jobs := Dict.insert id script.program d.jobs }
  { w with jobs := Dict.insert id script w.jobs }

def removeJob (id : JobId) (w : World) : World :=
  w.changeDispatch fun d => { d with jobs := Dict.erase id d.jobs }

/-- Puts a new hub in place of the old one, with whatever that had going on. -/
def restart (hub : Hub) (store : RecordStore) (lines : List LogLine) (w : World) : World :=
  { w with hub, store, log := w.log ++ lines, events := [], armed := [], errands := [] }

/-- Leaves an event for the event loop. -/
def send (event : DispatchEvent) (w : World) : World := { w with events := w.events ++ [event] }

end World

namespace Task

def wait (ms : Nat) (token : Option TokenId := none) : Task Bool :=
  .access id fun w => .ask { due := w.clock + ms, token } .done

def look {α : Type} (f : World → α) : Task α := Flow.look f

def change (f : World → World) : Task Unit := Flow.change f

end Task

/-! ### Scripts -/

namespace Script

/-- How the body of a function ended, or the singletons with which it goes on. -/
abbrev Step := Except (Except EngineError RunOutcome) (Dict String Value)

def ended (outcome : RunOutcome) : Step := .error (.ok outcome)

/-- Performs one statement of run number `run` of a function. -/
def perform (program : String) (run : Nat) (args : List Value) (token : TokenId)
    (singletons : Dict String Value) : Statement → Task Step
  | .give e => return ended (.completed (e.eval { args, singletons }) singletons)
  | .throw message => return ended (.failed [thrown message])
  | .fail diagnostics => return ended (.failed diagnostics)
  | .host message => return .error (.error (.host program message))
  | .hostFirst runs message =>
    return if run ≤ runs then .error (.error (.host program message)) else .ok singletons
  | .throwFirst runs message =>
    return if run ≤ runs then ended (.failed [thrown message]) else .ok singletons
  | .set name field e => return .ok (setField name field (e.eval { args, singletons }) singletons)
  | .put name e => return .ok (Dict.insert name (e.eval { args, singletons }) singletons)
  | .drop name => return .ok (Dict.erase name singletons)
  | .sleep ms => do
    if ← Task.wait ms (some token) then return ended (.failed [Rehearsal.cancelled])
    else return .ok singletons

/-- Performs the body of a function; one that falls off the end gives null. -/
def performAll (program : String) (run : Nat) (args : List Value) (token : TokenId)
    (singletons : Dict String Value) : List Statement → Task (Except EngineError RunOutcome)
  | [] => return .ok (.completed .null singletons)
  | statement :: rest => do
    match ← perform program run args token singletons statement with
    | .ok singletons => performAll program run args token singletons rest
    | .error outcome => return outcome

end Script

/-! ### The host -/

namespace World

def analyze (program source : String) (w : World) : Except EngineError Analysis × World :=
  let w := w.note (.analyzed program source)
  match Dict.find? source w.programs with
  | none =>
    (.ok (.rejected [unknownSource]), w)
  | some scripted =>
    match scripted.analyzeError, scripted.reject with
    | some message, _ => (.error (.host program message), w)
    | none, some diagnostics => (.ok (.rejected diagnostics), w)
    | none, none =>
      (.ok (.analyzed { scripted.program with id := program } scripted.warnings),
        { w with analyzed := Dict.insert program source w.analyzed })

def compile (program : String) (w : World) : Except EngineError CompiledUnit × World :=
  let w := w.note (.compiled program)
  match Dict.find? program w.analyzed with
  | none => (.error (.compile program "program was never analyzed"), w)
  | some source =>
    match (Dict.find? source w.programs).bind (·.compileError) with
    | some message => (.error (.compile program message), w)
    | none => (.ok { program, artifact := source }, w)

/-- The body of a function as the source of a unit has it now. -/
def body? (unit : CompiledUnit) (function : String) (w : World) : Option (List Statement) :=
  (Dict.find? unit.artifact w.programs).bind fun scripted => Dict.find? function scripted.functions

/-- How a job answers a callback. -/
def callBack (job : JobId) (w : World) : Except EngineError (Outcome Value) × World :=
  match Dict.find? job w.jobs with
  | none => (.ok (.returned .null), w)
  | some script =>
    match script.failures, script.fault with
    | failures + 1, _ =>
      (.error (.host script.program "vm crashed"),
        { w with jobs := Dict.insert job { script with failures } w.jobs })
    | 0, none => (.ok (.returned .null), w)
    | 0, some "" => (.ok (.failed []), w)
    | 0, some fault => (.ok (.failed [thrown fault]), w)

def subscribe (topic : String) (w : World) : Except String Unit × World :=
  if w.fails "subscribe" topic then
    (.error ("cannot subscribe " ++ topic), w.note (.subscribed topic false))
  else (.ok (), w.note (.subscribed topic true))

def unsubscribe (topic : String) (w : World) : Except String Unit × World :=
  if w.fails "unsubscribe" topic then
    (.error ("cannot unsubscribe " ++ topic), w.note (.unsubscribed topic false))
  else (.ok (), w.note (.unsubscribed topic true))

def record (op : RecordOp) (w : World) : Except RecordError op.Result × World :=
  let (answer, store, files) := w.store.perform op w.files
  (answer, { w with store, files })

end World

namespace Task

def run (unit : CompiledUnit) (call : Call) (singletons : Dict String Value) (token : TokenId) :
    Task (Except EngineError RunOutcome) := do
  change (·.note (.ran unit.program call singletons))
  if ← look (·.hostDown) then return .error (.host unit.program "simulated host failure")
  match ← look (·.body? unit call.function) with
  | none => return .ok (.failed [thrown ("Function `" ++ call.function ++ "` not found")])
  | some body =>
    change (·.countRun unit.program call.function)
    let run ← look (·.runsOf unit.program call.function)
    Script.performAll unit.program run call.args token singletons body

def answerService : (q : Service) → Task q.Answer
  | .record op => .exchange (·.record op)
  | .analyze program source => .exchange (·.analyze program source)
  | .compile program => .exchange (·.compile program.id)
  | .run unit call singletons token => run unit call singletons token
  | .newToken => .exchange fun w => (w.tokens, { w with tokens := w.tokens + 1 })
  | .startDeadline token ms =>
    .exchange fun w =>
      let w' := w.start (.deadline w.deadlines token ms)
      (w.deadlines,
        { w' with deadlines := w.deadlines + 1, pendingDeadlines := w.deadlines :: w.pendingDeadlines })
  | .stopDeadline id =>
    change fun w => { w with pendingDeadlines := w.pendingDeadlines.filter (· ≠ id) }
  | .log line => change fun w => { w with log := w.log ++ [line] }

def answer : (q : HostService) → Task q.Answer
  | .service q => answerService q
  | .subscribe topic => .exchange (·.subscribe topic)
  | .unsubscribe topic => .exchange (·.unsubscribe topic)
  | .now => return 0
  | .armTimer id ms => change fun w => { w.start (.timer id ms) with armed := id :: w.armed }
  | .disarmTimer id => change fun w => { w with armed := w.armed.filter (· ≠ id) }
  | .callback job call => do
    change (·.note (.calledBack job call))
    Flow.exchange (·.callBack job)
  | .pause ms => discard (wait ms)

/-- Lets the hub of the world do something. -/
def host {α : Type} (flow : Hosted α) : Task α :=
  flow.embed World.hub (fun hub w => { w with hub }) answer

def ofErrand : Errand → Task Unit
  | .deadline id token ms => do
    let _ ← wait ms
    change fun w => if id ∈ w.pendingDeadlines then w.cancel token else w
  | .timer id ms => do
    let _ ← wait ms
    change fun w =>
      if id ∈ w.armed then
        { w with armed := w.armed.filter (· ≠ id), events := w.events ++ [.timer id] }
      else w
  | .handle event => host (Hosted.dispatching (Dispatching.handle event))

end Task

end DriverHub.Rehearsal
