import DriverHub.Dispatch.State

/-! Registering callbacks and taking registrations back. A topic is subscribed at the broker when it
gets its first listener, and unsubscribed when it loses its last. -/

namespace DriverHub

/-- The trigger without blank topics, or none if it named topics and all are blank. -/
def Trigger.admitted? : Trigger → Option Trigger
  | message topics => (kept? topics).map message
  | deviceEvent e =>
    match e.topics with
    | none => some (deviceEvent e)
    | some topics => (kept? topics).map fun topics => deviceEvent { e with topics := some topics }
  | other => some other
where
  kept? (topics : List String) : Option (List String) :=
    let kept := topics.filter fun t => !Text.isBlankText t
    if kept.isEmpty then none else some kept

namespace Dispatching

/-- Unsubscribes from topics; a failure is only logged, after the words `failed`. -/
def unsubscribeEach (failed : String) : List String → Dispatching Unit
  | [] => return
  | topic :: rest => do
    match ← ask (.unsubscribe topic) with
    | .ok () => unsubscribeEach failed rest
    | .error reason =>
      warn ("[" ++ topic ++ "] " ++ failed ++ ": " ++ (DispatchError.broker reason).text)
      unsubscribeEach failed rest

/-- Unsubscribes from topics, if there is a broker. -/
def unsubscribeAll (topics : List String) : Dispatching Unit := do
  if topics.isEmpty then return
  if ← look (·.broker) then unsubscribeEach "Failed to unsubscribe" topics

def takeId : Dispatching RegistrationId :=
  Flow.exchange fun s => (s.nextId, { s with nextId := s.nextId + 1 })

/-- Adds a registration to the table, and answers the topics that have their first listener now. -/
def insertEntry (r : Registration) : Dispatching (List String) :=
  Flow.exchange fun s =>
    let (fresh, table) := s.table.insert r
    (fresh, { s with table })

/-- Removes a registration from the table, with the topics that lost their last listener. -/
def removeEntry (id : RegistrationId) : Dispatching (Option (Registration × List String)) :=
  Flow.exchange fun s =>
    let (removed, table) := s.table.remove id
    (removed, { s with table })

/-- Removes a registration and its timer. Of several that try at once, one gets the registration. -/
def detach (id : RegistrationId) : Dispatching (Option (Registration × List String)) := do
  match ← removeEntry id with
  | none => return none
  | some removed =>
    let armed ← Flow.exchange fun s =>
      (decide (id ∈ s.timers), { s with timers := s.timers.filter (· ≠ id) })
    if armed then ask (.disarmTimer id)
    return some removed

/-- Takes a registration back, and answers whether there was one. -/
def unregister (id : RegistrationId) : Dispatching Bool := do
  match ← detach id with
  | none => return false
  | some (_, orphaned) =>
    unsubscribeAll orphaned
    return true

/-- Takes registrations back, and answers how many there were. -/
def unregisterAll : List RegistrationId → Dispatching Nat
  | [] => return 0
  | id :: rest => do
    let found ← unregister id
    let count ← unregisterAll rest
    return if found then count + 1 else count

def unregisterProgram (program : String) : Dispatching Nat := do
  unregisterAll (← look (·.table.ofProgram program))

/-- Drops the registrations, queued ones too, that come from annotations of the driver on the
device. -/
def dropAnnotations (driver : Option DriverId) (device : Option DeviceId) : Dispatching Nat := do
  Flow.change fun s => { s with pending := s.pending.filter fun r => !r.annotates driver device }
  unregisterAll (← look (·.table.annotating driver device))

/-- Subscribes to topics that a registration listens on first, after it did to those in `subscribed`.
If the broker fails, the registration is removed again. -/
def subscribeAll (id : RegistrationId) (subscribed : List String) :
    List String → Dispatching (Except DispatchError Unit)
  | [] => return .ok ()
  | topic :: rest => do
    match ← ask (.subscribe topic) with
    | .ok () => subscribeAll id (subscribed ++ [topic]) rest
    | .error reason =>
      match ← removeEntry id with
      | none => return .error (.broker reason)
      | some (_, orphaned) =>
        unsubscribeEach "Failed to unsubscribe during rollback"
          (orphaned.filter (· ∈ subscribed))
        return .error (.broker reason)

/-- Arms the timer of a registration. -/
def armTimer (id : RegistrationId) : Trigger → Dispatching Unit
  | .atTime time => do
    let now ← ask .now
    ask (.armTimer id (time.delayFrom .eastern now))
    Flow.change fun s => { s with timers := s.timers ++ [id] }
  | _ => return

end Dispatching

namespace DispatchAttempt

/-- Makes sure that what a trigger needs is there: a broker for messages, and a job that is alive. -/
def checkReady : Trigger → DispatchAttempt Unit
  | .message _ => do if !(← .look (·.broker)) then .fail .noBroker
  | .kill job => do if !(← .look (Dict.contains job ·.jobs)) then .fail (.jobNotAlive job)
  | _ => return

/-- Enters a request in the table. Once it is in place it takes the place of others, if it is to. -/
def enter (request : RegisterRequest) : DispatchAttempt RegistrationId := do
  let trigger ← .some .noTopics request.trigger.admitted?
  let request := { request with trigger }
  checkReady trigger
  let replaced ← .look (·.table.replacedBy request)
  let id ← Dispatching.takeId
  let fresh ← Dispatching.insertEntry { id, request }
  .of (fun e => e) (Dispatching.subscribeAll id [] fresh)
  Dispatching.armTimer id trigger
  let _ ← Dispatching.unregisterAll replaced
  Dispatching.info ("[" ++ Digits.natText id ++ "] Registered `" ++ request.function.name ++ "` of `" ++
    request.program ++ "`")
  return id

end DispatchAttempt

namespace Dispatching

/-- Enters a request. Where retrying is asked for, a request that failed for a transient reason is
queued. -/
def register (request : RegisterRequest) : Dispatching (Except DispatchError RegistrationId) := do
  match ← (DispatchAttempt.enter request).run with
  | .ok id => return .ok id
  | .error e =>
    if e.isTransient ∧ request.tolerance = .retry then
      warn ("[" ++ request.program ++ "] Registering `" ++ request.function.name ++
        "` failed, queued for retry: " ++ e.text)
      Flow.change fun s => { s with pending := s.pending ++ [request] }
    return .error e

/-- Registers requests one after another, and answers how many succeeded. -/
def registerQueued : List RegisterRequest → Dispatching Nat
  | [] => return 0
  | request :: rest => do
    match ← register request with
    | .ok _ => return (← registerQueued rest) + 1
    | .error e =>
      if !e.isTransient then warn ("Dropping pending registration: " ++ e.text)
      registerQueued rest

/-- Tries all queued requests again; those that fail once more are queued anew. -/
def retryPending : Dispatching Nat := do
  let queued ← Flow.exchange fun s => (s.pending, { s with pending := [] })
  if queued.isEmpty then return 0
  let count ← registerQueued queued
  info ("Retried pending registrations, " ++ Digits.natText count ++ " succeeded")
  return count

def resubscribeEach : List String → Dispatching Unit
  | [] => return
  | topic :: rest => do
    match ← ask (.subscribe topic) with
    | .ok () => resubscribeEach rest
    | .error reason =>
      warn ("[" ++ topic ++ "] Failed to resubscribe: " ++ (DispatchError.broker reason).text)
      resubscribeEach rest

/-- After the broker came back: renews every subscription and tries the queued requests. -/
def resubscribe : Dispatching Unit := do
  if ← look (·.broker) then
    resubscribeEach (← look (·.table.topics))
  let _ ← retryPending

end Dispatching

end DriverHub
