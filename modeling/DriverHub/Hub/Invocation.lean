import DriverHub.Hub.Catalog
import DriverHub.Value.Marshal

/-! Calls into driver scripts. A call of a driver works on a snapshot of its singletons; the singletons
that it leaves behind are saved and then replace the old ones. -/

namespace DriverHub

/-- What the hub holds while it runs. -/
structure LiveState where
  singletons : Singletons := {}
  catalog : Catalog := {}
  /-- The compiled scripts of users. -/
  scripts : UnitCache := []
  /-- The milliseconds that a call may take. -/
  timeout : Nat := 10000
deriving Inhabited

/-- Operations of the hub, which may fail. -/
abbrev Work := Attempt services LiveState HubError

/-- A lookup as an operation of the hub. -/
def Lookup.inHub {α : Type} (lookup : Lookup α) : Work α :=
  ⟨lookup.run.embed LiveState.catalog (fun catalog s => { s with catalog }) Service.request⟩

instance : MonadLift Lookup Work := ⟨Lookup.inHub⟩

namespace Work

def ask (q : Service) : Work q.Answer := .lift q.request

def record (op : RecordOp) : Work op.Result := Attempt.of .record (Service.request (.record op))

def driverRecord (id : DriverId) : Work DriverRecord := do
  .some (.driverNotFound id) (← record (.driver id))

def deviceRecord (id : DeviceId) : Work DeviceRecord := do
  .some (.deviceNotFound id) (← record (.device id))

/-- Runs a unit; the token is cancelled if that takes too long. -/
def runUnit (unit : CompiledUnit) (call : Call) (singletons : Dict String Value) (token : TokenId) :
    Work RunOutcome := do
  let timeout ← .look (·.timeout)
  let deadline ← ask (.startDeadline token timeout)
  let outcome ← ask (.run unit call singletons token)
  ask (.stopDeadline deadline)
  .of .engine (.done outcome)

end Work

namespace Target

/-- Looks up the driver, which has to be valid, and makes sure that the device is one of its. -/
def prepare (t : Target) : Work PreparedDriver := do
  let driver ← Work.driverRecord t.driver
  match t.device with
  | none => driver.prepare
  | some id =>
    let device ← Work.deviceRecord id
    if device.driver = t.driver then driver.prepare else .fail (.foreignDevice id t.driver)

/-- The singletons of a target by the names that its script knows them by. -/
def injected (driver : Value) (device : Option Value) : Dict String Value :=
  match device with
  | none => [(Template.driver.singleton, driver)]
  | some v => [(Template.device.singleton, v), (Template.driver.singleton, driver)]

/-- Takes the singletons of a target out of those that a run of `program` left behind. -/
def leftBy (t : Target) (program : String) (left : Dict String Value) :
    Except EngineError (Value × Option (DeviceId × Value)) :=
  match Dict.find? Template.driver.singleton left, t.device with
  | none, _ => .error (.missingSingleton program Template.driver.singleton)
  | some driver, none => .ok (driver, none)
  | some driver, some id =>
    match Dict.find? Template.device.singleton left with
    | none => .error (.missingSingleton program Template.device.singleton)
    | some device => .ok (driver, some (id, device))

/-- Calls a function of a prepared driver. The new singletons are kept only if the run completes and
its value passes the check. -/
def invokeChecked {β : Type} (t : Target) (prepared : PreparedDriver) (call : Call)
    (token : TokenId) (check : Value → Except Diagnostic β) : Work (Outcome β) := do
  let (driver, device) ← .of .singleton (Flow.look (·.singletons.load t))
  match ← Work.runUnit prepared.unit call (injected driver device) token with
  | .failed diagnostics =>
    .report (.info ("[" ++ t.text ++ "] `" ++ call.function ++ "` failed with " ++
      Digits.natText diagnostics.length ++ " diagnostic(s)"))
    return .failed diagnostics
  | .completed value left =>
    match check value with
    | .error d =>
      .report (.info ("[" ++ t.text ++ "] `" ++ call.function ++ "` violated its contract: " ++
        d.message))
      return .failed [d]
    | .ok result =>
      let (driver, device) ← .of .engine (.done (t.leftBy prepared.unit.program left))
      Work.record (.putSingletons t.driver driver.toJson (device.map fun (id, v) => (id, v.toJson)))
      .change fun s => { s with singletons := s.singletons.commit t.driver driver device }
      return .returned result

/-- Calls a function of a driver. -/
def invoke (t : Target) (call : Call) (token : TokenId) : Work (Outcome Value) := do
  t.invokeChecked (← t.prepare) call token .ok

end Target

namespace Work

/-- The unit of a user's program at a revision. -/
def scriptUnit (program : Program) (revision : String) : Work CompiledUnit :=
  .of .engine ((UnitCache.getOrCompile program revision).run.embed LiveState.scripts
    (fun scripts s => { s with scripts }) Service.request)

/-- The unit of a user's script, or what is wrong with the script. -/
def unitOf (script : ScriptRecord) : Work (Except (List Diagnostic) CompiledUnit) := do
  match ← .look (·.scripts.get? script.id script.source) with
  | some unit => return .ok unit
  | none =>
    match ← .of .engine (Service.request (.analyze script.id script.source)) with
    | .rejected diagnostics => return .error diagnostics
    | .analyzed program _ => return .ok (← scriptUnit program script.source)

/-- Calls a function of a user's script, which has no singletons. -/
def invokeScript (id : String) (call : Call) (token : TokenId) : Work (Outcome Value) := do
  let script ← .some (.scriptNotFound id) (← record (.script id))
  match ← unitOf script with
  | .error diagnostics => return .failed diagnostics
  | .ok unit =>
    match ← runUnit unit call [] token with
    | .completed value _ => return .returned value
    | .failed diagnostics => return .failed diagnostics

end Work

end DriverHub
