import DriverHub.Script.Call
import DriverHub.Value.Marshal
import DriverHub.Value.Text

/-! The contracts of the functions that a driver defines for its devices: which values each may
return, and the fault that it is charged with otherwise. -/

namespace DriverHub

/-- One dimmable channel, with the least and the greatest level. -/
structure DimmableReport where
  label : String
  lower : Int64
  upper : Int64
  value : Int64
deriving DecidableEq

structure SensorReading where
  label : String
  value : Json
  unit : String

namespace Contract

def dimmableType : ScriptType := .object [("label", .str), ("range", .range), ("value", .int)]

def sensorType : ScriptType := .object [("label", .str), ("value", .any), ("unit", .str)]

def unexpected (function : String) (expected : ScriptType) (value : Value) (span : Span) :
    Diagnostic :=
  .driverFault ("Device function `" ++ function ++ "` returned `" ++ value.text ++
    "` which is not a valid `" ++ expected.text ++ "`") span

def bool (function : String) (span : Span) (value : Value) : Except Diagnostic Bool :=
  match value with
  | .bool b => .ok b
  | other => .error (unexpected function .bool other span)

def null (function : String) (span : Span) (value : Value) : Except Diagnostic Unit :=
  match value with
  | .null => .ok ()
  | other => .error (unexpected function .null other span)

def powerDraw (span : Span) (value : Value) : Except Diagnostic Int64 :=
  match value with
  | .int draw =>
    if 0 ≤ draw then .ok draw
    else .error (.driverFault ("Device function `report_power_draw` should return positive power " ++
      "consumption but returned " ++ Digits.intText draw.toInt) span)
  | other => .error (unexpected "report_power_draw" .int other span)

/-- A label, a range and a level. -/
def dimmable? (item : Value) : Option (String × Range × Int64) := do
  return (← (← item.field? "label").str?, ← (← item.field? "range").range?,
    ← (← item.field? "value").int?)

/-- Checks the items of the reported list `whole` one after another. -/
def dimmableItems (whole : Value) (span : Span) : List Value → Except Diagnostic (List DimmableReport)
  | [] => .ok []
  | item :: rest =>
    match dimmable? item with
    | none => .error (unexpected "report_dim" (.list dimmableType) whole span)
    | some (label, range, value) =>
      if range.contains value then
        match dimmableItems whole span rest with
        | .error d => .error d
        | .ok reports =>
          .ok ({ label, lower := range.bounds.1, upper := range.bounds.2, value } :: reports)
      else
        .error (.driverFault ("Device function `report_dim` should return value in dimmable range(" ++
          range.text ++ ") but returned " ++ Digits.intText value.toInt ++ " for label `" ++ label ++
          "`") span)

def dimmables (span : Span) (value : Value) : Except Diagnostic (List DimmableReport) :=
  match value with
  | .list items => dimmableItems value span items
  | other => .error (unexpected "report_dim" (.list dimmableType) other span)

/-- A label, a reading and a unit. -/
def sensor? (item : Value) : Option (String × Value × String) := do
  return (← (← item.field? "label").str?, ← item.field? "value", ← (← item.field? "unit").str?)

/-- Checks the items of the reported list `whole` one after another. -/
def sensorItems (whole : Value) (span : Span) : List Value → Except Diagnostic (List SensorReading)
  | [] => .ok []
  | item :: rest =>
    match sensor? item with
    | none => .error (unexpected "report_sensor_readings" (.list sensorType) whole span)
    | some (label, reading, unit) =>
      if reading.isPrimitive then
        match sensorItems whole span rest with
        | .error d => .error d
        | .ok readings => .ok ({ label, value := reading.toJson, unit } :: readings)
      else
        .error (.driverFault ("Device function `report_sensor_readings` should return a primitive " ++
          "value but returned `" ++ reading.text ++ "` for label `" ++ label ++ "`") span)

def sensors (span : Span) (value : Value) : Except Diagnostic (List SensorReading) :=
  match value with
  | .list items => sensorItems value span items
  | other => .error (unexpected "report_sensor_readings" (.list sensorType) other span)

end Contract

end DriverHub
