import DriverHub.Dict
import DriverHub.Driver.Identity
import DriverHub.Value.Basic

/-! The current singletons of all drivers and devices. Each operation sees and leaves a whole
snapshot. -/

namespace DriverHub

structure Singletons where
  drivers : Dict DriverId Value := []
  devices : Dict DeviceId Value := []
deriving Inhabited

inductive SingletonError where
  | missingDriver (id : DriverId)
  | missingDevice (id : DeviceId)
deriving DecidableEq

def SingletonError.text : SingletonError → String
  | missingDriver id => "No singleton stored for driver `" ++ id.text ++ "`"
  | missingDevice id => "No singleton stored for device `" ++ id ++ "`"

namespace Singletons

def driver (s : Singletons) (id : DriverId) : Except SingletonError Value :=
  match Dict.find? id s.drivers with
  | some v => .ok v
  | none => .error (.missingDriver id)

def device (s : Singletons) (id : DeviceId) : Except SingletonError Value :=
  match Dict.find? id s.devices with
  | some v => .ok v
  | none => .error (.missingDevice id)

/-- The singletons of a target: that of the driver, and that of the device if there is one. -/
def load (s : Singletons) (t : Target) : Except SingletonError (Value × Option Value) :=
  match s.driver t.driver with
  | .error e => .error e
  | .ok v =>
    match t.device with
    | none => .ok (v, none)
    | some id =>
      match s.device id with
      | .error e => .error e
      | .ok w => .ok (v, some w)

def setDriver (id : DriverId) (v : Value) (s : Singletons) : Singletons :=
  { s with drivers := Dict.insert id v s.drivers }

def setDevice (id : DeviceId) (v : Value) (s : Singletons) : Singletons :=
  { s with devices := Dict.insert id v s.devices }

def removeDriver (id : DriverId) (s : Singletons) : Singletons :=
  { s with drivers := Dict.erase id s.drivers }

def removeDevice (id : DeviceId) (s : Singletons) : Singletons :=
  { s with devices := Dict.erase id s.devices }

/-- Replaces the singletons that one call left behind. -/
def commit (driver : DriverId) (v : Value) (device : Option (DeviceId × Value)) (s : Singletons) :
    Singletons :=
  match device with
  | none => s.setDriver driver v
  | some (id, w) => (s.setDriver driver v).setDevice id w

end Singletons

end DriverHub
