import DriverHub.Dispatch.Trigger

/-! Registrations: a callback, the trigger it waits for, and how it is called. -/

namespace DriverHub

abbrev RegistrationId := Nat

/-- Whose functions a callback runs among: a user's script, or a driver with perhaps one device. -/
inductive ExecutionContext where
  | user (name : String)
  | driver (driver : DriverId) (device : Option DeviceId)
deriving DecidableEq

inductive CallMode where
  /-- Run inside a job that is alive. -/
  | attach (job : JobId)
  /-- Run inside the oldest job of the program, or in the context if there is none. -/
  | adaptive (fallback : ExecutionContext)
  /-- Run in the context. -/
  | allocate (context : ExecutionContext)
deriving DecidableEq

def CallMode.isAdaptive : CallMode → Bool
  | adaptive _ => true
  | _ => false

structure CalledFunction where
  name : String
  literal : Bool := true
  mode : CallMode
deriving DecidableEq

/-- What happens when registering or delivering fails. -/
inductive Tolerance where
  /-- It is dropped. -/
  | bestEffort
  /-- A failed registration is queued, and a failed delivery is tried again. -/
  | retry
deriving DecidableEq

/-- Who asked for a registration: a script, or an annotation in the code of a driver. -/
inductive Origin where
  | script
  | annotated
deriving DecidableEq

structure RegisterRequest where
  program : String
  function : CalledFunction
  trigger : Trigger
  tolerance : Tolerance := .bestEffort
  origin : Origin := .script

structure Registration where
  id : RegistrationId
  request : RegisterRequest

namespace RegisterRequest

/-- Whether a request comes from an annotation of the driver on the device; either may be left open. -/
def annotates (driver : Option DriverId) (device : Option DeviceId) (r : RegisterRequest) : Bool :=
  match r.origin, r.function.mode with
  | .annotated, .allocate (.driver target targetDevice) =>
    driver.all (· = target) && device.all fun d => some d = targetDevice
  | _, _ => false

/-- Whether the registration of `request` takes the place of one of `old`. -/
def replaces (request old : RegisterRequest) : Bool :=
  request.function.mode.isAdaptive && old.function.mode.isAdaptive &&
    old.program = request.program && old.trigger.same request.trigger

end RegisterRequest

end DriverHub
