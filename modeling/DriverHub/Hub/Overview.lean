import DriverHub.Hub.Actions
import DriverHub.Hub.Management
import DriverHub.Records.Document

/-! Overviews of drivers and devices, for display. -/

namespace DriverHub

structure DriverOverview where
  driver : DriverRecord
  extraction : Extraction
  configuration : Json

structure DeviceOverview where
  device : DeviceRecord
  configuration : Json
  capabilities : List Capability := []
  power : Option Bool := none
  powerDraw : Option Int64 := none
  dimmables : Option (List DimmableReport) := none
  sensorReadings : Option (List SensorReading) := none
  diagnostics : List Diagnostic := []

def DriverOverview.toJson (o : DriverOverview) : Json :=
  .obj [("driver", o.driver.toJson), ("info", (o.extraction.info?.map (·.toJson)).getD .null),
    ("valid", .bool o.extraction.isValid),
    ("diagnostics", .arr (o.extraction.diagnostics.map (·.toJson))),
    ("configuration", o.configuration)]

def DeviceOverview.toJson (o : DeviceOverview) : Json :=
  .obj [("device", o.device.toJson), ("configuration", o.configuration),
    ("capabilities", .arr (o.capabilities.map fun c => .str c.name)),
    ("power", (o.power.map .bool).getD .null),
    ("power_draw", (o.powerDraw.map .ofInt64).getD .null),
    ("dimmables", (o.dimmables.map fun rs => .arr (rs.map (·.toJson))).getD .null),
    ("sensor_readings", (o.sensorReadings.map fun rs => .arr (rs.map (·.toJson))).getD .null),
    ("diagnostics", .arr (o.diagnostics.map (·.toJson)))]

namespace DeviceOverview

/-- Enters what one report came to. -/
def enter (o : DeviceOverview) : Outcome ActionOutput → DeviceOverview
  | .failed diagnostics => { o with diagnostics := o.diagnostics ++ diagnostics }
  | .returned output =>
    match output with
    | .powerState on => { o with power := some on }
    | .powerDraw draw => { o with powerDraw := some draw }
    | .dimmables reports => { o with dimmables := some reports }
    | .sensorReadings readings => { o with sensorReadings := some readings }
    | _ => o

end DeviceOverview

/-- The reports that a capability offers for the overview. -/
def Capability.reports : Capability → List ActionRequest
  | base => []
  | power => [.reportPower, .reportPowerDraw]
  | dimmable => [.reportDim]
  | sensor => [.reportSensors]

namespace Work

def overviewOf (driver : DriverRecord) : Work DriverOverview := do
  let e ← driver.extraction
  let v ← driverValue driver.id
  return { driver, extraction := e, configuration := v.toJson }

def driverOverview (id : DriverId) : Work DriverOverview := do
  overviewOf (← driverRecord id)

def overviews : List DriverRecord → Work (List DriverOverview)
  | [] => return []
  | driver :: rest => do
    let o ← overviewOf driver
    return o :: (← overviews rest)

def listDrivers : Work (List DriverOverview) := do
  overviews (← record .drivers)

/-- Asks a device for reports, one after another. -/
def collectReports (id : DeviceId) (token : TokenId) (o : DeviceOverview) :
    List ActionRequest → Work DeviceOverview
  | [] => return o
  | request :: rest => do
    collectReports id token (o.enter (← act id request token)) rest

/-- What a device is and what it reports now. The reports of one overview share a token. -/
def deviceOverview (id : DeviceId) (token : TokenId) : Work DeviceOverview := do
  let device ← deviceRecord id
  let v ← deviceValue id
  let o : DeviceOverview := { device, configuration := v.toJson }
  let driver ← driverRecord device.driver
  match (← driver.extraction : Extraction) with
  | .invalid diagnostics => return { o with diagnostics }
  | .valid info _ _ =>
    collectReports id token { o with capabilities := info.deviceCapabilities }
      (info.deviceCapabilities.flatMap (·.reports))

end Work

end DriverHub
