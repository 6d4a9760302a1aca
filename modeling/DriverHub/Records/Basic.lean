import DriverHub.Driver.Identity
import DriverHub.Driver.Version
import DriverHub.Dict
import DriverHub.Json.Basic

/-! The records that outlive a restart: drivers, devices and the scripts of users. The last saved
singleton of a driver or device is part of its record. -/

namespace DriverHub

structure DriverRecord where
  id : DriverId
  name : String
  version : Version
  source : String
  singleton : Option Json := none
deriving Inhabited

structure DeviceRecord where
  id : DeviceId
  name : String
  room : String
  driver : DriverId
  singleton : Option Json := none
deriving Inhabited

structure ScriptRecord where
  id : String
  owner : String
  source : String
deriving DecidableEq, Inhabited

/-- All records, each under its own identity. -/
structure Records where
  drivers : Dict DriverId DriverRecord := []
  devices : Dict DeviceId DeviceRecord := []
  scripts : Dict String ScriptRecord := []
deriving Inhabited

namespace Records

def putDriver (r : DriverRecord) (records : Records) : Records :=
  { records with drivers := Dict.insert r.id r records.drivers }

def putDevice (r : DeviceRecord) (records : Records) : Records :=
  { records with devices := Dict.insert r.id r records.devices }

def putScript (r : ScriptRecord) (records : Records) : Records :=
  { records with scripts := Dict.insert r.id r records.scripts }

def deleteDriver (id : DriverId) (records : Records) : Records :=
  { records with drivers := Dict.erase id records.drivers }

def deleteDevice (id : DeviceId) (records : Records) : Records :=
  { records with devices := Dict.erase id records.devices }

/-- Saves the singletons that one call left behind in the records that exist. -/
def putSingletons (driver : DriverId) (json : Json) (device : Option (DeviceId × Json))
    (records : Records) : Records :=
  { records with
    drivers := Dict.modify driver (fun r => { r with singleton := some json }) records.drivers
    devices := match device with
      | none => records.devices
      | some (id, json) =>
        Dict.modify id (fun r => { r with singleton := some json }) records.devices }

end Records

/-- One operation on the records. -/
inductive RecordOp where
  | driver (id : DriverId)
  | drivers
  | putDriver (record : DriverRecord)
  | deleteDriver (id : DriverId)
  | device (id : DeviceId)
  | devices
  | putDevice (record : DeviceRecord)
  | deleteDevice (id : DeviceId)
  | script (id : String)
  | putScript (record : ScriptRecord)
  | putSingletons (driver : DriverId) (json : Json) (device : Option (DeviceId × Json))

namespace RecordOp

/-- What an operation that succeeds answers; a deletion tells whether there was a record. -/
@[reducible]
def Result : RecordOp → Type
  | driver _ => Option DriverRecord
  | drivers => List DriverRecord
  | putDriver _ => Unit
  | deleteDriver _ => Bool
  | device _ => Option DeviceRecord
  | devices => List DeviceRecord
  | putDevice _ => Unit
  | deleteDevice _ => Bool
  | script _ => Option ScriptRecord
  | putScript _ => Unit
  | putSingletons .. => Unit

/-- Whether an operation only reads. -/
def isRead : RecordOp → Bool
  | driver _ | drivers | device _ | devices | script _ => true
  | _ => false

def result (records : Records) : (op : RecordOp) → op.Result
  | driver id => Dict.find? id records.drivers
  | drivers => Dict.values records.drivers
  | putDriver _ => ()
  | deleteDriver id => Dict.contains id records.drivers
  | device id => Dict.find? id records.devices
  | devices => Dict.values records.devices
  | putDevice _ => ()
  | deleteDevice id => Dict.contains id records.devices
  | script id => Dict.find? id records.scripts
  | putScript _ => ()
  | putSingletons .. => ()

def apply (records : Records) : RecordOp → Records
  | putDriver r => records.putDriver r
  | deleteDriver id => records.deleteDriver id
  | putDevice r => records.putDevice r
  | deleteDevice id => records.deleteDevice id
  | putScript r => records.putScript r
  | putSingletons id json other => records.putSingletons id json other
  | _ => records

end RecordOp

end DriverHub
