import DriverHub.Json.Parser
import DriverHub.Json.Printer
import DriverHub.Json.Record
import DriverHub.Records.Basic

/-! Records as one JSON document. -/

namespace DriverHub

def DriverId.toJson (id : DriverId) : Json :=
  .obj [("vendor_id", .str id.vendor), ("model_id", .str id.model)]

def DriverId.ofJson? (j : Json) : Option DriverId := do
  match ← j.recordFields? ["vendor_id", "model_id"] with
  | [vendor, model] => return ⟨← (← vendor).str?, ← (← model).str?⟩
  | _ => none

/-- The saved singleton of a record; null stands for none. -/
def readSingleton? : Option Json → Option Json
  | some .null => none
  | other => other.map Json.canonical

namespace DriverRecord

def toJson (r : DriverRecord) : Json :=
  .obj [("identity", r.id.toJson), ("name", .str r.name), ("version", .str r.version.text),
    ("source", .str r.source), ("singleton_json", r.singleton.getD .null)]

def ofJson? (j : Json) : Option DriverRecord := do
  match ← j.recordFields? ["identity", "name", "version", "source", "singleton_json"] with
  | [id, name, version, source, singleton] =>
    return { id := ← DriverId.ofJson? (← id)
             name := ← (← name).str?
             version := ← Version.parse? (← (← version).str?)
             source := ← (← source).str?
             singleton := readSingleton? singleton }
  | _ => none

end DriverRecord

namespace DeviceRecord

def toJson (r : DeviceRecord) : Json :=
  .obj [("id", .str r.id), ("name", .str r.name), ("room_id", .str r.room),
    ("driver", r.driver.toJson), ("singleton_json", r.singleton.getD .null)]

def ofJson? (j : Json) : Option DeviceRecord := do
  match ← j.recordFields? ["id", "name", "room_id", "driver", "singleton_json"] with
  | [id, name, room, driver, singleton] =>
    return { id := ← (← id).str?
             name := ← (← name).str?
             room := ← (← room).str?
             driver := ← DriverId.ofJson? (← driver)
             singleton := readSingleton? singleton }
  | _ => none

end DeviceRecord

namespace ScriptRecord

def toJson (r : ScriptRecord) : Json :=
  .obj [("id", .str r.id), ("owner", .str r.owner), ("source", .str r.source)]

def ofJson? (j : Json) : Option ScriptRecord := do
  match ← j.recordFields? ["id", "owner", "source"] with
  | [id, owner, source] =>
    return { id := ← (← id).str?, owner := ← (← owner).str?, source := ← (← source).str? }
  | _ => none

end ScriptRecord

/-- The records as a document lists them. -/
structure RecordLists where
  drivers : List DriverRecord
  devices : List DeviceRecord
  scripts : List ScriptRecord

namespace RecordLists

def toJson (l : RecordLists) : Json :=
  .obj [("drivers", .arr (l.drivers.map (·.toJson))), ("devices", .arr (l.devices.map (·.toJson))),
    ("scripts", .arr (l.scripts.map (·.toJson)))]

/-- Reads a list that may be missing. -/
def listOr? {α : Type} (read : Json → Option α) : Option Json → Option (List α)
  | none => some []
  | some j => j.listOf? read

def ofJson? (j : Json) : Option RecordLists := do
  match ← j.recordFields? ["drivers", "devices", "scripts"] with
  | [drivers, devices, scripts] =>
    return { drivers := ← listOr? DriverRecord.ofJson? drivers
             devices := ← listOr? DeviceRecord.ofJson? devices
             scripts := ← listOr? ScriptRecord.ofJson? scripts }
  | _ => none

/-- The records in order; of records under one identity the last is kept. -/
def records (l : RecordLists) : Records where
  drivers := Dict.ofList (l.drivers.map fun r => (r.id, r))
  devices := Dict.ofList (l.devices.map fun r => (r.id, r))
  scripts := Dict.ofList (l.scripts.map fun r => (r.id, r))

end RecordLists

namespace Records

def lists (records : Records) : RecordLists where
  drivers := Dict.values records.drivers
  devices := Dict.values records.devices
  scripts := Dict.values records.scripts

/-- The document that holds all records. -/
def document (records : Records) : String := records.lists.toJson.pretty

end Records

def RecordLists.ofDocument? (text : String) : Option RecordLists :=
  (Json.read? text).bind RecordLists.ofJson?

end DriverHub
