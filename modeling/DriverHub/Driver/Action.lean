import DriverHub.Driver.Capability
import DriverHub.Driver.Contract
import DriverHub.Json.Record
import DriverHub.Script.DiagnosticJson

/-! Actions on a device: what may be asked of it, which capability that needs, which function of the
driver serves it, and the answer. -/

namespace DriverHub

inductive ActionRequest where
  | reportPower
  | reportPowerDraw
  | setPower (on : Bool)
  | reportDim
  | dim (label : String) (value : Int64)
  | reportSensors
  | healthCheck
deriving DecidableEq

namespace ActionRequest

def name : ActionRequest → String
  | reportPower => "report_power"
  | reportPowerDraw => "report_power_draw"
  | setPower _ => "set_power"
  | reportDim => "report_dim"
  | dim _ _ => "dim"
  | reportSensors => "report_sensors"
  | healthCheck => "health_check"

def capability : ActionRequest → Capability
  | reportPower | reportPowerDraw | setPower _ => .power
  | reportDim | dim _ _ => .dimmable
  | reportSensors => .sensor
  | healthCheck => .base

/-- The call that serves a request. -/
def call : ActionRequest → Call
  | reportPower => { function := "report_power", signature := { returns := .bool } }
  | reportPowerDraw => { function := "report_power_draw", signature := { returns := .int } }
  | setPower on =>
    { function := "set_power", signature := { params := [("power", .bool)], returns := .bool },
      args := [.bool on] }
  | reportDim =>
    { function := "report_dim", signature := { returns := .list Contract.dimmableType } }
  | dim label value =>
    { function := "dim",
      signature := { params := [("label", .str), ("value", .int)], returns := .bool },
      args := [.str label, .int value] }
  | reportSensors =>
    { function := "report_sensor_readings",
      signature := { returns := .list Contract.sensorType } }
  | healthCheck => { function := "validate_device", signature := { returns := .null } }

def toJson (request : ActionRequest) : Json :=
  .obj (("action", .str request.name) :: match request with
    | setPower on => [("on", .bool on)]
    | dim label value => [("label", .str label), ("value", .ofInt64 value)]
    | _ => [])

def ofJson? (j : Json) : Option ActionRequest := do
  let (name, rest) ← j.tagged? "action"
  match name with
  | "report_power" => bare rest reportPower
  | "report_power_draw" => bare rest reportPowerDraw
  | "report_dim" => bare rest reportDim
  | "report_sensors" => bare rest reportSensors
  | "health_check" => bare rest healthCheck
  | "set_power" =>
    match ← rest.recordFields? ["on"] with
    | [on] => return setPower (← (← on).bool?)
    | _ => none
  | "dim" =>
    match ← rest.recordFields? ["label", "value"] with
    | [label, value] => return dim (← (← label).str?) (← (← value).int64?)
    | _ => none
  | _ => none
where
  bare (rest : Json) (request : ActionRequest) : Option ActionRequest :=
    (rest.recordFields? []).map fun _ => request

end ActionRequest

/-- What a device answered. -/
inductive ActionOutput where
  | none
  | powerState (on : Bool)
  | powerDraw (draw : Int64)
  | changed (changed : Bool)
  | dimmables (reports : List DimmableReport)
  | sensorReadings (readings : List SensorReading)

structure ActionResponse where
  success : Bool
  diagnostics : List Diagnostic
  output : ActionOutput

/-- Checks the value that the call of a request returned. -/
def ActionRequest.check (request : ActionRequest) (span : Span) (value : Value) :
    Except Diagnostic ActionOutput :=
  match request with
  | reportPower => (Contract.bool "report_power" span value).map .powerState
  | reportPowerDraw => (Contract.powerDraw span value).map .powerDraw
  | setPower _ => (Contract.bool "set_power" span value).map .changed
  | reportDim => (Contract.dimmables span value).map .dimmables
  | dim _ _ => (Contract.bool "dim" span value).map .changed
  | reportSensors => (Contract.sensors span value).map .sensorReadings
  | healthCheck => (Contract.null "validate_device" span value).map fun _ => .none

def DimmableReport.toJson (r : DimmableReport) : Json :=
  .obj [("label", .str r.label), ("lower", .ofInt64 r.lower), ("upper", .ofInt64 r.upper),
    ("value", .ofInt64 r.value)]

def SensorReading.toJson (r : SensorReading) : Json :=
  .obj [("label", .str r.label), ("value", r.value), ("unit", .str r.unit)]

def ActionOutput.toJson : ActionOutput → Json
  | none => .obj [("kind", .str "none")]
  | powerState on => tagged "power_state" (.bool on)
  | powerDraw draw => tagged "power_draw" (.ofInt64 draw)
  | changed b => tagged "changed" (.bool b)
  | dimmables reports => tagged "dimmables" (.arr (reports.map (·.toJson)))
  | sensorReadings readings => tagged "sensor_readings" (.arr (readings.map (·.toJson)))
where
  tagged (kind : String) (value : Json) : Json := .obj [("kind", .str kind), ("value", value)]

namespace ActionResponse

def ofOutcome : Outcome ActionOutput → ActionResponse
  | .returned output => { success := true, diagnostics := [], output }
  | .failed diagnostics => { success := false, diagnostics, output := .none }

def toJson (r : ActionResponse) : Json :=
  .obj [("success", .bool r.success), ("diagnostics", .arr (r.diagnostics.map (·.toJson))),
    ("output", r.output.toJson)]

end ActionResponse

end DriverHub
