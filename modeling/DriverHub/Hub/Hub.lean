import DriverHub.Dispatch.Annotations
import DriverHub.Dispatch.Delivery
import DriverHub.Dispatch.Event
import DriverHub.Hub.Loading
import DriverHub.Hub.Overview

/-! The hub: drivers and devices together with the dispatcher. What the dispatcher leaves open, such
as how a callback is called, is filled in here. -/

namespace DriverHub

structure Hub where
  live : LiveState := {}
  dispatch : DispatchState := {}
  /-- Whether annotations are registered anew when a driver or device changes. -/
  following : Bool := false
deriving Inhabited

/-- What the hub asks of its host. -/
inductive HostService where
  | service (q : Service)
  | subscribe (topic : String)
  | unsubscribe (topic : String)
  | now
  | armTimer (id : RegistrationId) (ms : Nat)
  | disarmTimer (id : RegistrationId)
  /-- Runs a callback inside a job. -/
  | callback (job : JobId) (call : Call)
  | pause (ms : Nat)

namespace HostService

@[reducible]
def Answer : HostService → Type
  | service q => q.Answer
  | subscribe _ => Except String Unit
  | unsubscribe _ => Except String Unit
  | now => Int
  | armTimer .. => Unit
  | disarmTimer _ => Unit
  | callback .. => Except EngineError (Outcome Value)
  | pause _ => Unit

end HostService

@[reducible]
def hostServices : Interface := ⟨HostService, HostService.Answer⟩

/-- Operations of the whole hub. -/
abbrev Hosted := Flow hostServices Hub

namespace Hosted

def ask (q : HostService) : Hosted q.Answer := Flow.ask q .done

/-- Runs an operation on drivers and devices. -/
def work {α : Type} (w : Work α) : Hosted (Except HubError α) :=
  w.run.embed Hub.live (fun live hub => { hub with live }) fun q => ask (.service q)

/-- Runs an operation with a token of its own. -/
def workAlone {α : Type} (w : TokenId → Work α) : Hosted (Except HubError α) := do
  work (w (← ask (.service .newToken)))

/-- Calls a callback in its context. -/
def callIn (context : ExecutionContext) (program : String) (call : Call) :
    Hosted (Except DispatchError (Outcome Value)) := do
  let outcome ← workAlone fun token =>
    match context with
    | .driver driver device => Target.invoke { driver, device } call token
    | .user _ => Work.invokeScript program call token
  return outcome.mapError .hub

def callInside (job : JobId) (call : Call) : Hosted (Except DispatchError (Outcome Value)) := do
  return (← ask (.callback job call)).mapError .engine

/-- Calls the callback of a registration as its mode says. -/
def callBack (r : Registration) (call : Call) : Hosted (Except DispatchError (Outcome Value)) := do
  match r.request.function.mode with
  | .allocate context => callIn context r.request.program call
  | .attach job =>
    if ← Flow.look fun hub => Dict.contains job hub.dispatch.jobs then callInside job call
    else return .error (.jobNotAlive job)
  | .adaptive fallback =>
    match ← Flow.look fun hub => hub.dispatch.jobOf? r.request.program with
    | some job => callInside job call
    | none => callIn fallback r.request.program call

def answerDelivery : (q : DeliveryService) → Hosted q.Answer
  | .call r call => callBack r call
  | .pause ms => ask (.pause ms)
  | .log line => ask (.service (.log line))

def delivery {α : Type} (flow : Delivering α) : Hosted α :=
  flow.embed (fun _ => ()) (fun _ hub => hub) answerDelivery

def answerDispatch : (q : DispatchService) → Hosted q.Answer
  | .subscribe topic => ask (.subscribe topic)
  | .unsubscribe topic => ask (.unsubscribe topic)
  | .now => ask .now
  | .armTimer id ms => ask (.armTimer id ms)
  | .disarmTimer id => ask (.disarmTimer id)
  | .deliver r call => do
    let settings ← Flow.look fun hub => hub.dispatch.settings
    delivery (Delivering.deliver settings r call)
  | .record op => ask (.service (.record op))
  | .prepare driver => do
    return (← work (Lookup.inHub driver.prepare)).map (·.program)
  | .invoke target call => workAlone (target.invoke call)
  | .log line => ask (.service (.log line))

/-- Runs an operation of the dispatcher. -/
def dispatching {α : Type} (flow : Dispatching α) : Hosted α :=
  flow.embed Hub.dispatch (fun dispatch hub => { hub with dispatch }) answerDispatch

/-- Tells the dispatcher, if it follows changes, that a driver changed. -/
def driverChanged (id : DriverId) : Hosted Unit := do
  if ← Flow.look (·.following) then dispatching (Dispatching.driverChanged id)

def deviceChanged (id : DeviceId) : Hosted Unit := do
  if ← Flow.look (·.following) then dispatching (Dispatching.deviceChanged id)

def driversChanged : List DriverId → Hosted Unit
  | [] => return
  | id :: rest => do
    driverChanged id
    driversChanged rest

/-- Does something that follows a success. -/
def afterwards {α : Type} (flow : Hosted (Except HubError α)) (next : α → Hosted Unit) :
    Hosted (Except HubError α) := do
  match ← flow with
  | .ok a =>
    next a
    return .ok a
  | .error e => return .error e

end Hosted

namespace Hub

def createDriver (driver : DriverRecord) : Hosted (Except HubError Extraction) :=
  .work (.createDriver driver)

def applyCode (id : DriverId) (source : String) : Hosted (Except HubError Extraction) :=
  (Hosted.work (.applyCode id source)).afterwards fun _ => .driverChanged id

def deleteDriver (id : DriverId) : Hosted (Except HubError Unit) := .work (.deleteDriver id)

def createDevice (device : DeviceRecord) : Hosted (Except HubError Unit) :=
  (Hosted.work (.createDevice device)).afterwards fun _ => .deviceChanged device.id

def deleteDevice (id : DeviceId) : Hosted (Except HubError Unit) :=
  (Hosted.work (.deleteDevice id)).afterwards fun _ => .deviceChanged id

def load : Hosted (Except HubError (LoadReport × List DriverId)) :=
  (Hosted.work .load).afterwards fun (_, drivers) => .driversChanged drivers

end Hub

end DriverHub
