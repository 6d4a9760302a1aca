import DriverHub.Json.Access
import DriverHub.Number.Reading
import DriverHub.Rehearsal.Script
import DriverHub.Dispatch.Event
import DriverHub.Script.DiagnosticJson

/-! Rehearsals written in JSON. Values are written so that their kinds stay apart: an integer is
`i` with the number, a float `f` with its text, a range `r` with its ends, an option `some` or `none`,
and an object `obj` with its fields. -/

namespace DriverHub.Rehearsal

mutual

/-- Reads a value, if the notation is that of one. -/
def readValue? : Json → Option Value
  | .null => some .null
  | .bool b => some (.bool b)
  | .str s => some (.str s)
  | .arr items => (readValues? items).map .list
  | .obj [("i", i)] => i.int64?.map .int
  | .obj [("f", .str text)] => (Binary64.parse? text).map .float
  | .obj [("r", .arr [a, b, .bool inclusive])] => do return .range ⟨← a.int64?, ← b.int64?, inclusive⟩
  | .obj [("none", .null)] => some .absent
  | .obj [("some", held)] => (readValue? held).map .present
  | .obj [("obj", .obj fields)] => (readFields? fields).map .ofFields
  | _ => none

def readValues? : List Json → Option (List Value)
  | [] => some []
  | j :: rest => do return (← readValue? j) :: (← readValues? rest)

def readFields? : List (String × Json) → Option (List (String × Value))
  | [] => some []
  | (name, j) :: rest => do return (name, ← readValue? j) :: (← readFields? rest)

end

mutual

/-- Reads a type: the name of a plain one, or the parts of one that is made of others. -/
def readType : Json → ScriptType
  | .str "null" => .null
  | .str "int" => .int
  | .str "float" => .float
  | .str "bool" => .bool
  | .str "str" => .str
  | .str "range" => .range
  | .str "any" => .any
  | .str "never" => .never
  | .obj [("list", t)] => .list (readType t)
  | .obj [("option", t)] => .option (readType t)
  | .obj [("object", .arr fields)] => .object (readParams fields)
  | .obj [("fn", .arr ts), ("returns", t)] => .function (readTypes ts) (readType t)
  | .obj [("union", .arr ts)] => .union (readTypes ts)
  | _ => .unknown

def readTypes : List Json → List ScriptType
  | [] => []
  | j :: rest => readType j :: readTypes rest

/-- Reads names with their types. -/
def readParams : List Json → List (String × ScriptType)
  | [] => []
  | .arr [name, t] :: rest => (name.asText, readType t) :: readParams rest
  | _ :: rest => readParams rest

end

def readSpan : Json → Span
  | .arr [file, start, stop] => ⟨file.asText, start.asNat, stop.asNat⟩
  | _ => {}

def readMethod : Json → Method
  | .arr [name, span] => ⟨name.asText, readSpan span⟩
  | name => ⟨name.asText, {}⟩

def readImplementation (j : Json) : TemplateImpl where
  template := (j.get "template").asText
  capabilities := (j.get "capabilities").asList.map Json.asText
  methods := (j.get "methods").asList.map readMethod
  span := readSpan (j.get "span")

def readSingleton (j : Json) : Singleton where
  ident := (j.get "ident").asText
  type := readType (j.get "ty")
  implementations := (j.get "implements").asList.map readImplementation
  span := readSpan (j.get "span")

def readAnnotated (j : Json) : AnnotatedCallback :=
  ⟨(j.get "callback").asText, (j.get "topics_fn").asText⟩

def readProgram (j : Json) : Program where
  id := (j.get "program_id").asText
  singletons := (j.get "singletons").asList.map readSingleton
  triggers := (j.get "triggers").asList.map readAnnotated
  span := readSpan (j.get "span")

def readDiagnostics (j : Json) : List Diagnostic := (j.listOf? Diagnostic.ofJson?).getD []

mutual

def readExpr? : Json → Option Expr
  | .obj [("const", v)] => (readValue? v).map .const
  | .obj [("arg", i)] => i.nat?.map .arg
  | .obj [("singleton", .str name)] => some (.singleton name)
  | .obj [("field", .arr [.str name, .str field])] => some (.field name field)
  | .obj [("ne", .arr [a, b])] => do return .differ (← readExpr? a) (← readExpr? b)
  | .obj [("list", .arr items)] => (readExprs? items).map .list
  | .obj [("object", .obj fields)] => (readNamed? fields).map .object
  | _ => none

def readExprs? : List Json → Option (List Expr)
  | [] => some []
  | j :: rest => do return (← readExpr? j) :: (← readExprs? rest)

def readNamed? : List (String × Json) → Option (List (String × Expr))
  | [] => some []
  | (name, j) :: rest => do return (name, ← readExpr? j) :: (← readNamed? rest)

end

def readStatement? : Json → Option Statement
  | .arr [.str "return", e] => (readExpr? e).map .give
  | .arr [.str "throw", .str message] => some (.throw message)
  | .arr [.str "fail", diagnostics] => (diagnostics.listOf? Diagnostic.ofJson?).map .fail
  | .arr [.str "host", .str message] => some (.host message)
  | .arr [.str "host_first", runs, .str message] => runs.nat?.map (.hostFirst · message)
  | .arr [.str "throw_first", runs, .str message] => runs.nat?.map (.throwFirst · message)
  | .arr [.str "set", .str name, .str field, e] => (readExpr? e).map (.set name field)
  | .arr [.str "put", .str name, e] => (readExpr? e).map (.put name)
  | .arr [.str "drop", .str name] => some (.drop name)
  | .arr [.str "sleep", ms] => ms.nat?.map .sleep
  | _ => none

def readScripted? (j : Json) : Option ScriptedProgram := do
  let functions ← (j.get "functions").asFields.mapM fun (name, body) => do
    return (name, ← body.listOf? readStatement?)
  return {
    program := readProgram j
    functions
    warnings := readDiagnostics (j.get "warnings")
    reject := (j.get "reject").optional readDiagnostics
    analyzeError := (j.get "analyze_error").optional Json.asText
    compileError := (j.get "compile_error").optional Json.asText }

def readCall? (j : Json) : Option Call := do
  return {
    function := (j.get "function").asText
    signature :=
      { params := readParams (j.get "params").asList, returns := readType (j.get "returns") }
    args := ← (j.get "args").asList.mapM readValue? }

def readDriverId : Json → DriverId
  | .arr [vendor, model] => ⟨vendor.asText, model.asText⟩
  | _ => ⟨"", ""⟩

/-- The milliseconds since midnight of a time written as `hh:mm:ss`. -/
def readTimeOfDay (text : String) : Nat :=
  match (Text.split ':' text.toList).map Digits.value with
  | [h, m, s] => ((h * 60 + m) * 60 + s) * 1000
  | _ => 0

def readFilter (j : Json) : DeviceFilter :=
  if j.has "class" then .class (readDriverId (j.get "class"))
  else .individual (j.get "device").asText

def readTime (now : Int) (j : Json) : TimeTrigger :=
  if j.has "minutes" then
    { fireAt := .deadline (now + 60000 * (j.get "minutes").asInt), registeredAt := now }
  else if j.has "time" then
    { fireAt := .timeOfDay (readTimeOfDay (j.get "time").asText),
      registeredAt := ((j.get "registered").optional Json.asInt).getD now }
  else
    { fireAt := .deadline (j.get "deadline").asInt, registeredAt := (j.get "registered").asInt }

/-- Reads a trigger; `now` is the time that a number of minutes counts from. -/
def readTrigger (now : Int) (j : Json) : Trigger :=
  if j.has "message" then .message ((j.get "message").asList.map Json.asText)
  else if j.has "kill" then .kill (j.get "kill").asNat
  else if j.has "device_event" then
    let e := j.get "device_event"
    .deviceEvent
      { filter := readFilter e,
        topics := (e.get "topics").optional fun topics => topics.asList.map Json.asText }
  else .atTime (readTime now j)

def readContext (j : Json) : ExecutionContext :=
  if j.has "user" then .user (j.get "user").asText
  else .driver (readDriverId (j.get "driver")) ((j.get "device").optional Json.asText)

def readMode (j : Json) : CallMode :=
  if j.has "attach" then .attach (j.get "attach").asNat
  else if j.has "adaptive" then .adaptive (readContext (j.get "adaptive"))
  else .allocate (readContext (j.get "allocate"))

def readFunction (j : Json) : CalledFunction where
  name := (j.get "function").asText
  literal := ((j.get "literal").bool?).getD true
  mode := readMode (j.get "mode")

def readRequest (j : Json) : RegisterRequest where
  program := (j.get "program").asText
  function := readFunction j
  trigger := readTrigger 0 (j.get "trigger")
  tolerance := if (j.get "retry").asFlag then .retry else .bestEffort
  origin := if (j.get "annotation").asFlag then .annotated else .script

/-- Reads an event, unless it is one of a device with data that is no value. Whatever is none of the others
has the queued registrations tried again. -/
def readEvent? (j : Json) : Option DispatchEvent :=
  if j.has "timer" then some (.timer (j.get "timer").asNat)
  else if j.has "job_terminated" then some (.jobTerminated (j.get "job_terminated").asNat)
  else if j.has "broker_connected" then some .brokerConnected
  else
    match j.get "message", j.get "device" with
    | .arr [topic, payload], _ => some (.message topic.asText payload.asText)
    | _, .obj fields => do
      let e := Json.obj fields
      let data ← readValue? (e.get "data")
      return .deviceEvent (readDriverId (e.get "driver")) (e.get "device").asText (e.get "topic").asText data
    | _, _ => some .retryPending

/-! ### Malformed steps and requests

What is malformed is found out before anything of it is done, and then nothing is. The last readings are for
steps and requests that are not. -/

/-- Whether the value, call, event or program that a step holds can be read. -/
def isReadableStep (step : Json) : Bool :=
  match (step.get "do").asText with
  | "program" => (readScripted? (step.get "program")).isSome
  | "event" => (readEvent? (step.get "event")).isSome
  | "invoke" | "invoke_script" => (readCall? (step.get "call")).isSome
  | "emit" => (readValue? (step.get "data")).isSome
  | "set" | "set_singleton" | "commit" =>
    (readValue? (step.get "value")).isSome && (readValue? (step.get "device_value")).isSome
  | _ => true

/-- Whether the values and programs of a request can be read, apart from those in its steps. -/
def isReadable (request : Json) : Bool :=
  (request.get "programs").asFields.all (fun p => (readScripted? p.2).isSome) &&
    match (request.get "op").asText with
    | "schema" => (request.get "values").asList.all (readValue? · |>.isSome)
    | "migrate" | "value" =>
      (readValue? (request.get "value")).isSome && (readValue? (request.get "other")).isSome
    | _ => true

/-- Reads a value of a readable step or request. -/
def readValue (j : Json) : Value := (readValue? j).getD .null

def readScripted (j : Json) : ScriptedProgram := (readScripted? j).getD {}

def readCall (j : Json) : Call := (readCall? j).getD { function := "", signature := { returns := .unknown } }

def readEvent (j : Json) : DispatchEvent := (readEvent? j).getD .retryPending

end DriverHub.Rehearsal
