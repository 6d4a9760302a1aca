import DriverHub.Driver.Capability
import DriverHub.Driver.Singletons
import DriverHub.Records.Store
import DriverHub.Schema.Decode
import DriverHub.Script.Call

/-! Why the hub refuses or fails to do what was asked. -/

namespace DriverHub

inductive HubError where
  | driverNotFound (id : DriverId)
  | deviceNotFound (id : DeviceId)
  | driverExists (id : DriverId)
  | deviceExists (id : DeviceId)
  | driverInvalid (id : DriverId) (diagnostics : List Diagnostic)
  | foreignDevice (device : DeviceId) (driver : DriverId)
  | driverInUse (id : DriverId) (devices : Nat)
  | unsupported (device : DeviceId) (capability : Capability)
  | scriptNotFound (id : String)
  | config (e : ConfigError)
  | singleton (e : SingletonError)
  | engine (e : EngineError)
  | record (e : RecordError)
deriving DecidableEq

/-- The message of the first diagnostic. -/
def firstMessage (diagnostics : List Diagnostic) : String :=
  match diagnostics with
  | [] => "no diagnostics"
  | d :: _ => d.message

def HubError.text : HubError → String
  | driverNotFound id => "Driver `" ++ id.text ++ "` not found"
  | deviceNotFound id => "Device `" ++ id ++ "` not found"
  | driverExists id => "Driver `" ++ id.text ++ "` already exists"
  | deviceExists id => "Device `" ++ id ++ "` already exists"
  | driverInvalid id diagnostics =>
    "Driver `" ++ id.text ++ "` is invalid: " ++ firstMessage diagnostics
  | foreignDevice device driver => "Device `" ++ device ++ "` is not driven by `" ++ driver.text ++ "`"
  | driverInUse id devices =>
    "Driver `" ++ id.text ++ "` is still used by " ++ Digits.natText devices ++ " device(s)"
  | unsupported device capability =>
    "Device `" ++ device ++ "` does not support the `" ++ capability.name ++ "` capability"
  | scriptNotFound id => "Script `" ++ id ++ "` not found"
  | config e => e.text
  | singleton e => e.text
  | engine e => e.text
  | record e => e.text

end DriverHub
