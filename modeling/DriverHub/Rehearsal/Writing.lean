import DriverHub.Number.Shortest
import DriverHub.Rehearsal.World

/-! What a rehearsal shows, in JSON. Floats are written as texts, so that all of their digits count. -/

namespace DriverHub.Rehearsal

def writeNat (n : Nat) : Json := ((JsonInt.ofInt? n).map Json.int).getD .null

def writeInt (i : Int) : Json := ((JsonInt.ofInt? i).map Json.int).getD .null

def writeList {α : Type} (write : α → Json) (items : List α) : Json := .arr (items.map write)

def writeOption {α : Type} (write : α → Json) : Option α → Json
  | none => .null
  | some a => write a

def writeFloat (x : Binary64) : Json := .obj [("f", .str (FloatLayout.display.render x))]

mutual

/-- A tree with each float as text. -/
def writeTree : Json → Json
  | .float x => writeFloat x.val
  | .arr items => .arr (writeTrees items)
  | .obj members => .obj (writeMembers members)
  | other => other

def writeTrees : List Json → List Json
  | [] => []
  | j :: rest => writeTree j :: writeTrees rest

def writeMembers : List (String × Json) → List (String × Json)
  | [] => []
  | (name, j) :: rest => (name, writeTree j) :: writeMembers rest

end

mutual

/-- A value, in the notation that keeps kinds apart. -/
def writeValue : Value → Json
  | .null => .null
  | .bool b => .bool b
  | .str s => .str s
  | .int i => .obj [("i", .ofInt64 i)]
  | .float x => writeFloat x
  | .range r => .obj [("r", .arr [.ofInt64 r.start, .ofInt64 r.stop, .bool r.inclusive])]
  | .list items => .arr (writeValues items)
  | .absent => .obj [("none", .null)]
  | .present held => .obj [("some", writeValue held)]
  | .object fields => .obj [("obj", .obj (writeFields fields))]

def writeValues : List Value → List Json
  | [] => []
  | v :: rest => writeValue v :: writeValues rest

def writeFields : List (String × Value) → List (String × Json)
  | [] => []
  | (name, v) :: rest => (name, writeValue v) :: writeFields rest

end

/-- A value that may be missing, apart from every value. -/
def writeFound (v : Option Value) : Json := writeOption (fun v => .obj [("is", writeValue v)]) v

def writeDiagnostics (ds : List Diagnostic) : Json := writeList (·.toJson) ds

/-- The time of day that lies so many milliseconds after midnight. -/
def writeTimeOfDay (time : Nat) : String :=
  let seconds := time / 1000
  let two (n : Nat) := (if n < 10 then "0" else "") ++ Digits.natText n
  two (seconds / 3600) ++ ":" ++ two (seconds / 60 % 60) ++ ":" ++ two (seconds % 60)

def writeTrigger : Trigger → Json
  | .message topics => .obj [("message", writeList .str topics)]
  | .kill job => .obj [("kill", writeNat job)]
  | .atTime time =>
    match time.fireAt with
    | .timeOfDay time => .obj [("time", .str (writeTimeOfDay time))]
    | .deadline instant =>
      .obj [("minutes", writeInt (Int.tdiv (instant - time.registeredAt) 60000))]
  | .deviceEvent e =>
    let filter := match e.filter with
      | .class driver => ("class", Json.str driver.text)
      | .individual device => ("device", .str device)
    .obj [("device_event", .obj [filter, ("topics", writeOption (writeList .str) e.topics)])]

def writeContext : ExecutionContext → Json
  | .user name => .obj [("user", .str name)]
  | .driver driver device =>
    .obj [("driver", .str driver.text), ("device", writeOption .str device)]

def writeMode : CallMode → Json
  | .attach job => .obj [("attach", writeNat job)]
  | .adaptive context => .obj [("adaptive", writeContext context)]
  | .allocate context => .obj [("allocate", writeContext context)]

def writeTolerance : Tolerance → Json
  | .retry => .str "retry"
  | .bestEffort => .str "best_effort"

def writeRegistration (r : Registration) : Json :=
  .obj [("id", writeNat r.id), ("program", .str r.request.program),
    ("function", .str r.request.function.name), ("literal", .bool r.request.function.literal),
    ("trigger", writeTrigger r.request.trigger), ("mode", writeMode r.request.function.mode),
    ("tolerance", writeTolerance r.request.tolerance),
    ("annotation", .bool (r.request.origin = .annotated))]

def writeCall (c : Call) : Json :=
  .obj [("function", .str c.function), ("literal", .bool c.literal),
    ("signature", .str c.signature.text), ("args", writeList writeValue c.args)]

def writeAsked : Asked → Json
  | .analyzed program source => .arr [.str "analyze", .str program, .str source]
  | .compiled program => .arr [.str "compile", .str program]
  | .ran program call singletons =>
    .arr [.str "invoke", .str program, writeCall call,
      .obj (singletons.map fun (name, v) => (name, writeValue v))]
  | .calledBack job call => .arr [.str "job", writeNat job, writeCall call]
  | .subscribed topic done => .arr [.str "subscribe", .str topic, .bool done]
  | .unsubscribed topic done => .arr [.str "unsubscribe", .str topic, .bool done]

/-- Sorts each run of adjacent items that have a key by that key. -/
def sortRuns {α : Type} (key? : α → Option String) (items : List α) : List α :=
  let sorted (run : List α) := run.mergeSort fun a b => decide ((key? a).getD "" ≤ (key? b).getD "")
  let (out, run) := items.foldl (fun (out, run) a =>
    if (key? a).isSome then (out, run ++ [a]) else (out ++ sorted run ++ [a], [])) ([], [])
  out ++ sorted run

def Asked.unsubscribed? : Asked → Option String
  | .unsubscribed topic _ => some topic
  | _ => none

def Asked.subscribed? : Asked → Option String
  | .subscribed topic _ => some topic
  | _ => none

def writeLine (line : LogLine) : Json :=
  .arr [.str line.level.name, .str ((line.text.splitOn "\n").headD "")]

def writeOutcome {α : Type} (write : α → Json) : Outcome α → Json
  | .returned a => .obj [("returned", write a)]
  | .failed diagnostics => .obj [("failed", writeDiagnostics diagnostics)]

def writeExtraction (e : Extraction) : Json :=
  .obj [("valid", .bool e.isValid), ("info", writeOption (·.toJson) e.info?),
    ("diagnostics", writeDiagnostics e.diagnostics)]

def writeLoadReport (r : LoadReport) : Json :=
  .obj [("drivers", writeNat r.drivers), ("devices", writeNat r.devices),
    ("invalid", writeList (.str ·.text) r.invalid), ("migrated", writeNat r.migrated)]

def writeDriver (singletons : Singletons) (r : DriverRecord) : Json :=
  .obj [("id", .str r.id.text), ("name", .str r.name), ("version", .str r.version.text),
    ("source", .str r.source), ("singleton", writeOption writeTree r.singleton),
    ("value", writeFound (singletons.driver r.id).toOption)]

def writeDevice (singletons : Singletons) (r : DeviceRecord) : Json :=
  .obj [("id", .str r.id), ("name", .str r.name), ("room", .str r.room),
    ("driver", .str r.driver.text), ("singleton", writeOption writeTree r.singleton),
    ("value", writeFound (singletons.device r.id).toOption)]

/-- The records with the singletons in memory, and what the dispatcher holds. -/
def writeState (w : World) : Json :=
  let singletons := w.hub.live.singletons
  let dispatch := w.hub.dispatch
  .obj [("drivers", writeList (writeDriver singletons) w.store.records.drivers.values),
    ("devices", writeList (writeDevice singletons) w.store.records.devices.values),
    ("registrations", writeList writeRegistration dispatch.table.registrations),
    ("pending", writeNat dispatch.pending.length), ("jobs", writeList writeNat dispatch.jobs.keys)]

end DriverHub.Rehearsal
