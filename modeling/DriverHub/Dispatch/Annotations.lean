import DriverHub.Dispatch.Register

/-! Annotations in the code of drivers. Each annotation of a valid driver is registered once for each
of its devices, on the topics that the script names for that device, and anew whenever the driver or
the device changed. -/

namespace DriverHub

namespace Dispatching

/-- The strings in a list of values, if all are strings. -/
def strings? : List Value → Option (List String)
  | [] => some []
  | .str s :: rest => (strings? rest).map (s :: ·)
  | _ :: _ => none

/-- The topics that an annotation names for a device. -/
def annotationTopics (t : Target) (annotated : AnnotatedCallback) :
    Dispatching (Option (List String)) := do
  let mark := "[" ++ t.text ++ "] "
  let name := "`" ++ annotated.topics ++ "`"
  let call : Call := { function := annotated.topics, signature := { returns := .list .str } }
  match ← ask (.invoke t call) with
  | .ok (.returned (.list items)) =>
    match strings? items with
    | some topics => return some topics
    | none =>
      warn (mark ++ name ++ " returned a non-string topic")
      return none
  | .ok (.returned other) =>
    warn (mark ++ name ++ " returned " ++ other.kind.name ++ " instead of a topic list")
    return none
  | .ok (.failed diagnostics) =>
    warn (mark ++ name ++ " failed: " ++ firstMessage diagnostics)
    return none
  | .error e =>
    warn (mark ++ "Could not run " ++ name ++ ": " ++ e.text)
    return none

/-- The request that an annotation stands for. -/
def annotationRequest (driver : DriverId) (device : DeviceId) (annotated : AnnotatedCallback)
    (topics : List String) : RegisterRequest where
  program := driver.programId
  function :=
    { name := annotated.callback, mode := .allocate (.driver driver (some device)) }
  trigger := .message topics
  tolerance := .retry
  origin := .annotated

/-- Registers annotations for a device, and answers how many are in the table. -/
def registerAnnotations (driver : DriverId) (device : DeviceId) :
    List AnnotatedCallback → Dispatching Nat
  | [] => return 0
  | annotated :: rest => do
    match ← annotationTopics { driver, device := some device } annotated with
    | none => registerAnnotations driver device rest
    | some topics =>
      match ← register (annotationRequest driver device annotated topics) with
      | .ok _ => return (← registerAnnotations driver device rest) + 1
      | .error e =>
        if !e.isTransient then
          warn ("[" ++ device ++ "] Trigger annotation on `" ++ annotated.callback ++
            "` rejected: " ++ e.text)
        registerAnnotations driver device rest

def registerForDevices (driver : DriverId) (annotations : List AnnotatedCallback) :
    List DeviceRecord → Dispatching Nat
  | [] => return 0
  | device :: rest => do
    if device.driver = driver then
      let count ← registerAnnotations driver device.id annotations
      return count + (← registerForDevices driver annotations rest)
    else registerForDevices driver annotations rest

end Dispatching

namespace DispatchAttempt

def ask (q : DispatchService) : DispatchAttempt q.Answer := .lift (Dispatching.ask q)

def record (op : RecordOp) : DispatchAttempt op.Result :=
  .of (fun e => .hub (.record e)) (Dispatching.ask (.record op))

/-- The annotations in the code of a driver; an invalid driver has none. -/
def annotationsOf (driver : DriverRecord) : DispatchAttempt (List AnnotatedCallback) := do
  match ← ask (.prepare driver) with
  | .ok program => return program.triggers
  | .error (.driverInvalid ..) => return []
  | .error e => .fail (.hub e)

/-- Registers the annotations of a driver anew, and answers how many are in the table. -/
def reloadDriver (id : DriverId) : DispatchAttempt Nat := do
  let _ ← Dispatching.dropAnnotations (some id) none
  match ← record (.driver id) with
  | none => return 0
  | some driver =>
    let annotations ← annotationsOf driver
    if annotations.isEmpty then return 0
    let devices ← record .devices
    Dispatching.registerForDevices id annotations devices

/-- Registers the annotations for a device anew, and answers how many are in the table. -/
def reloadDevice (id : DeviceId) : DispatchAttempt Nat := do
  let _ ← Dispatching.dropAnnotations none (some id)
  match ← record (.device id) with
  | none => return 0
  | some device =>
    match ← record (.driver device.driver) with
    | none => return 0
    | some driver =>
      let annotations ← annotationsOf driver
      Dispatching.registerAnnotations device.driver id annotations

def reloadEach : List DriverRecord → DispatchAttempt Nat
  | [] => return 0
  | driver :: rest => do
    let count ← reloadDriver driver.id
    return count + (← reloadEach rest)

/-- Registers the annotations of all drivers. -/
def reloadAll : DispatchAttempt Nat := do
  reloadEach (← record .drivers)

end DispatchAttempt

namespace Dispatching

/-- What the hub does after it changed a driver. -/
def driverChanged (id : DriverId) : Dispatching Unit := do
  match ← (DispatchAttempt.reloadDriver id).run with
  | .ok count =>
    info ("[" ++ id.text ++ "] Registered " ++ Digits.natText count ++ " trigger annotation(s)")
  | .error e => warn ("[" ++ id.text ++ "] Failed to reload trigger annotations: " ++ e.text)

/-- What the hub does after it changed a device. -/
def deviceChanged (id : DeviceId) : Dispatching Unit := do
  match ← (DispatchAttempt.reloadDevice id).run with
  | .ok _ => return
  | .error e => warn ("[" ++ id ++ "] Failed to reload trigger annotations: " ++ e.text)

end Dispatching

end DriverHub
