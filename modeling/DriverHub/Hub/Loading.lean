import DriverHub.Hub.Management

/-! Starting up: bringing the singletons of all recorded drivers and devices back. -/

namespace DriverHub

structure LoadReport where
  drivers : Nat := 0
  devices : Nat := 0
  /-- The drivers whose scripts are not valid. -/
  invalid : List DriverId := []
  /-- How many singletons did not fit their schema any more. -/
  migrated : Nat := 0

/-- Counts one more singleton, if it was migrated. -/
def LoadReport.count (migrated : Bool) (report : LoadReport) : LoadReport :=
  if migrated then { report with migrated := report.migrated + 1 } else report

/-- The schemas of the valid drivers. -/
abbrev KnownInfos := Dict DriverId DriverInfo

namespace Work

/-- The value to start with, for a driver or device named `name` of the given kind, and whether it was
migrated. -/
def bringBack (kind name : String) (schema : Schema) (saved : Option Json) : Work (Value × Bool) := do
  let (v, migrated) := schema.restore saved
  if migrated then
    .report (.warn ("[" ++ name ++ "] Persisted " ++ kind ++
      " singleton did not validate, migrated it"))
  return (v, migrated)

def loadDrivers (infos : KnownInfos) (report : LoadReport) :
    List DriverRecord → Work (KnownInfos × LoadReport)
  | [] => return (infos, report)
  | driver :: rest => do
    let report := { report with drivers := report.drivers + 1 }
    match (← driver.extraction : Extraction).info? with
    | some info =>
      let (v, migrated) ← bringBack "driver" driver.id.text info.driverSchema driver.singleton
      setDriver driver.id v
      loadDrivers (Dict.insert driver.id info infos) (report.count migrated) rest
    | none =>
      .report (.warn ("[" ++ driver.id.text ++ "] Driver is invalid, it will not accept actions"))
      setDriver driver.id (.schemaless driver.singleton)
      loadDrivers infos { report with invalid := report.invalid ++ [driver.id] } rest

def loadDevices (infos : KnownInfos) (report : LoadReport) : List DeviceRecord → Work LoadReport
  | [] => return report
  | device :: rest => do
    let report := { report with devices := report.devices + 1 }
    match Dict.find? device.driver infos with
    | some info =>
      let (v, migrated) ← bringBack "device" device.id info.deviceSchema device.singleton
      setDevice device.id v
      loadDevices infos (report.count migrated) rest
    | none =>
      setDevice device.id (.schemaless device.singleton)
      loadDevices infos report rest

/-- Loads all records; also answers which drivers were found. -/
def load : Work (LoadReport × List DriverId) := do
  let drivers ← record .drivers
  let (infos, report) ← loadDrivers [] {} drivers
  let report ← loadDevices infos report (← record .devices)
  .report (.info ("Loaded " ++ Digits.natText report.drivers ++ " driver(s) (" ++
    Digits.natText report.invalid.length ++ " invalid) and " ++ Digits.natText report.devices ++
    " device(s)"))
  return (report, drivers.map (·.id))

end Work

end DriverHub
