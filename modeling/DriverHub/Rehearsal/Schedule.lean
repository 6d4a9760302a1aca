import DriverHub.Rehearsal.World

/-! Running a rehearsal. One flow is the rehearsal itself; the tasks that it starts take turns in the
order in which they became ready, whenever the rehearsal waits. Once all wait, the clock moves to the
next time at which one of them goes on. -/

namespace DriverHub.Rehearsal

structure Sleeper where
  wait : Wait
  next : Bool → Task Unit

inductive Turn where
  | task (flow : Task Unit)
  | eventLoop

/-- The event loop of the dispatcher: it hands events on, and sweeps from time to time over the queued
registrations. -/
inductive EventLoop where
  | off
  /-- Started, with no turn so far. -/
  | fresh
  /-- The next sweep is at the given time. -/
  | waiting (sweep : Nat)
deriving DecidableEq, Inhabited

structure Schedule where
  world : World := {}
  ready : List Turn := []
  /-- The tasks that wait, the longest waiting first. -/
  sleeping : List Sleeper := []
  eventLoop : EventLoop := .off
  /-- Whether the event loop is to end. -/
  stopping : Bool := false

namespace World

/-- How a wait is over, if it is. -/
def over? (wait : Wait) (w : World) : Option Bool :=
  if w.isCancelled wait.token then some true
  else if wait.due ≤ w.clock then some false
  else none

def report (line : LogLine) (w : World) : World := { w with log := w.log ++ [line] }

end World

/-- Performs a task up to the next wait that is not over. -/
def Task.advance : Task Unit → World → Option Sleeper × World
  | .done _, w => (none, w)
  | .access f next, w => advance (next w) (f w)
  | .ask wait next, w =>
    match w.over? wait with
    | some cancelled => advance (next cancelled) w
    | none => (some ⟨wait, next⟩, w)

namespace Schedule

def isLoopReady (s : Schedule) : Bool :=
  s.ready.any fun turn => match turn with
    | .eventLoop => true
    | .task _ => false

def enqueue (turns : List Turn) (s : Schedule) : Schedule := { s with ready := s.ready ++ turns }

/-- Makes the event loop ready, if it waits. -/
def wakeLoop (s : Schedule) : Schedule :=
  if s.eventLoop = .off ∨ s.isLoopReady then s else s.enqueue [.eventLoop]

/-- Makes the tasks ready whose wait is over. -/
def wakeSleepers (s : Schedule) : Schedule :=
  let isDone (sleeper : Sleeper) : Bool := (s.world.over? sleeper.wait).isSome
  { s with
    ready := s.ready ++ ((s.sleeping.filter isDone).map fun sleeper =>
      .task (sleeper.next ((s.world.over? sleeper.wait).getD false)))
    sleeping := s.sleeping.filter fun sleeper => !isDone sleeper }

/-- Starts what was asked for, and wakes whoever has something to do. -/
def settle (s : Schedule) : Schedule :=
  let started := s.world.errands.map fun errand => Turn.task (Task.ofErrand errand)
  let s := { s.enqueue started with world := { s.world with errands := [] } }
  let s := s.wakeSleepers
  if s.world.events.isEmpty then s else s.wakeLoop

def handling (events : List DispatchEvent) : List Turn :=
  events.map fun event => .task (Task.ofErrand (.handle event))

/-- A turn of the event loop, with the next sweep at the given time. -/
def loopFrom (sweep : Nat) (s : Schedule) : Schedule :=
  let interval := max s.world.hub.dispatch.settings.pendingInterval 1
  let events := s.world.events
  let due := decide (sweep ≤ s.world.clock)
  let s := { s with world := { s.world with events := [] } }
  let s := s.enqueue (handling (events ++ if due then [.retryPending] else []))
  if s.stopping then
    { s with
      eventLoop := .off
      world := s.world.report (.info "Dispatcher shutting down") }
  else { s with eventLoop := .waiting (if due then sweep + interval else sweep) }

def takeTurn (s : Schedule) : Turn → Schedule
  | .task flow =>
    let (left, world) := flow.advance s.world
    settle { s with world, sleeping := s.sleeping ++ left.toList }
  | .eventLoop =>
    match s.eventLoop with
    | .off => s
    | .fresh =>
      let interval := max s.world.hub.dispatch.settings.pendingInterval 1
      loopFrom (s.world.clock + interval)
        { s with world := s.world.report (.info "Dispatcher starting") }
    | .waiting sweep => loopFrom sweep s

/-- The next time at which someone goes on. -/
def nextDue (due : Nat) (s : Schedule) : Nat :=
  let sleepers := (s.sleeping.map (·.wait.due)).foldl min due
  match s.eventLoop with
  | .waiting sweep => min sleepers sweep
  | _ => sleepers

/-- Moves the clock. -/
def moveTo (time : Nat) (s : Schedule) : Schedule :=
  let s := wakeSleepers { s with world := { s.world with clock := max s.world.clock time } }
  match s.eventLoop with
  | .waiting sweep => if sweep ≤ s.world.clock then s.wakeLoop else s
  | _ => s

/-- Lets the tasks take turns until none is ready. -/
def drain : Nat → Schedule → Schedule
  | 0, s => s
  | fuel + 1, s =>
    match s.ready with
    | [] => s
    | turn :: rest => drain fuel (takeTurn { s with ready := rest } turn)

/-- Lets the tasks take turns until a wait is over. -/
def await : Nat → Wait → Schedule → Bool × Schedule
  | 0, _, s => (false, s)
  | fuel + 1, wait, s =>
    match s.ready with
    | turn :: rest => await fuel wait (takeTurn { s with ready := rest } turn)
    | [] =>
      match s.world.over? wait with
      | some cancelled => (cancelled, s)
      | none =>
        let s := s.moveTo (s.nextDue wait.due)
        if wait.due ≤ s.world.clock then (false, s) else await fuel wait s

/-- How many turns a rehearsal may take between two of its steps. -/
def patience : Nat := 0x10000000000

/-- Performs a flow as the rehearsal itself, which goes on before all tasks. -/
def perform {α : Type} : Task α → Schedule → α × Schedule
  | .done a, s => (a, s)
  | .access f next, s => perform (next s.world) { s with world := f s.world }
  | .ask wait next, s =>
    match s.world.over? wait with
    | some cancelled => perform (next cancelled) s
    | none =>
      let (cancelled, s) := await patience wait s.settle
      perform (next cancelled) s

/-- Starts the event loop, unless it runs. -/
def runLoop (s : Schedule) : Schedule :=
  if s.eventLoop = .off then { s with eventLoop := .fresh, stopping := false }.wakeLoop else s

/-- Ends the event loop and waits for that; answers whether it ran. -/
def stopLoop (s : Schedule) : Bool × Schedule :=
  if s.eventLoop = .off then (false, s)
  else (true, drain patience { s with stopping := true }.settle.wakeLoop)

/-- Restarts the hub; what the old one had going on ends. -/
def restart (hub : Hub) (store : RecordStore) (lines : List LogLine) (s : Schedule) : Schedule :=
  { world := s.stopLoop.2.world.restart hub store lines }

end Schedule

end DriverHub.Rehearsal
