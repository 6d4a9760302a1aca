import DriverHub.Dispatch.Register

/-! Events, and the callbacks that they lead to. A registration that fires once is removed before its
callback runs. -/

namespace DriverHub

inductive DispatchEvent where
  | timer (id : RegistrationId)
  | message (topic payload : String)
  | jobTerminated (job : JobId)
  | deviceEvent (driver : DriverId) (device : DeviceId) (topic : String) (data : Value)
  | brokerConnected
  | retryPending

/-- The call of a callback; callbacks return nothing. -/
def CalledFunction.call (f : CalledFunction) (params : List (String × ScriptType))
    (args : List Value) : Call where
  function := f.name
  literal := f.literal
  signature := { params, returns := .null }
  args

namespace Dispatching

def deliver (r : Registration) (params : List (String × ScriptType)) (args : List Value) :
    Dispatching Unit := do
  let _ ← ask (.deliver r (r.request.function.call params args))

/-- Fires a timer, and answers how many callbacks ran. -/
def fireTimer (id : RegistrationId) : Dispatching Nat := do
  let trigger : Option Trigger ← look fun s => (s.table.get? id).map (·.request.trigger)
  match trigger with
  | none => return 0
  | some (.atTime time) =>
    match ← detach id with
    | none => return 0
    | some (r, _) =>
      let now ← ask .now
      deliver r [("elapsed", .int)] [.int (Int64.ofNat (time.elapsedSeconds now))]
      return 1
  | some _ =>
    warn ("[" ++ Digits.natText id ++ "] Timer fired for a registration without a time trigger")
    return 0

def deliverEach (params : Registration → List (String × ScriptType))
    (args : Registration → List Value) : List Registration → Dispatching Unit
  | [] => return
  | r :: rest => do
    deliver r (params r) (args r)
    deliverEach params args rest

/-- Delivers a message to all who listen on its topic, and answers how many they are. -/
def deliverMessage (topic payload : String) : Dispatching Nat := do
  let listeners ← look (·.table.listeners topic)
  deliverEach (fun _ => [("topic", .str), ("payload", .str)]) (fun _ => [.str topic, .str payload])
    listeners
  return listeners.length

/-- Whether a registration listens to all devices of a driver. -/
def listensToClass (r : Registration) : Bool :=
  match r.request.trigger with
  | .deviceEvent { filter := .class _, .. } => true
  | _ => false

/-- Delivers an event of a device. Who listens to a whole class is told which device it was. -/
def emit (driver : DriverId) (device : DeviceId) (topic : String) (data : Value) :
    Dispatching Nat := do
  let listeners ← look (·.table.deviceListeners driver device topic)
  deliverEach
    (fun r => [("topic", .str), ("data", .any)] ++
      if listensToClass r then [("device_id", .str)] else [])
    (fun r => [.str topic, data] ++ if listensToClass r then [.str device] else [])
    listeners
  return listeners.length

/-- Runs the callbacks that wait for the end of a job, and answers how many ran. -/
def deliverKills : List RegistrationId → Dispatching Nat
  | [] => return 0
  | id :: rest => do
    match ← detach id with
    | none => deliverKills rest
    | some (r, _) =>
      deliver r [] []
      return (← deliverKills rest) + 1

/-- Ends a job, after the callbacks that wait for it. -/
def jobTerminated (job : JobId) : Dispatching Nat := do
  let fired ← deliverKills (← look (·.table.waitingFor job))
  Flow.change fun s => { s with jobs := Dict.erase job s.jobs }
  return fired

def handle : DispatchEvent → Dispatching Unit
  | .timer id => discard (fireTimer id)
  | .message topic payload => discard (deliverMessage topic payload)
  | .jobTerminated job => discard (jobTerminated job)
  | .deviceEvent driver device topic data => discard (emit driver device topic data)
  | .brokerConnected => resubscribe
  | .retryPending => discard retryPending

end Dispatching

end DriverHub
