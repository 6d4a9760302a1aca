import DriverHub.Hub.Management
import DriverHub.Proofs.Hub.Host

/-! Engines that answer each question in one way. With such an engine, and records that are kept in
memory, there is no choice left: every flow has one end, which can be computed. -/

namespace DriverHub

structure Engine where
  analyze : String → String → Except EngineError Analysis
  compile : Program → Except EngineError CompiledUnit
  run : CompiledUnit → Call → Dict String Value → Except EngineError RunOutcome

namespace Engine

/-- The host that such an engine makes; operations on records succeed. -/
def host (engine : Engine) : Host where
  analyzes program source x := x = engine.analyze program source
  compiles program x := x = engine.compile program
  runs unit call injected _ x := x = engine.run unit call injected
  faults _ _ := False
  exists_analyzes _ _ := ⟨_, rfl⟩
  exists_compiles _ := ⟨_, rfl⟩
  exists_runs _ _ _ _ := ⟨_, rfl⟩

theorem host_faultless (engine : Engine) : engine.host.Faultless := fun _ _ => id

/-- All that comes out of an engine. -/
def findings (engine : Engine) : Findings where
  source id source e :=
    ∃ analysis, engine.analyze id.programId source = .ok analysis ∧ analysis.extraction = e
  unit p unit := engine.compile p = .ok unit
  left unit left := ∃ call injected value,
    engine.run unit call injected = .ok (.completed value left)

theorem findings_of (engine : Engine) : engine.findings.Of engine.host :=
  ⟨fun _ _ analysis h => ⟨analysis, h.symm, rfl⟩, fun _ _ h => h.symm,
    fun _ call injected _ value _ h => ⟨call, injected, value, h.symm⟩⟩

/-- The answer to a question, and the records after it. -/
def answer (engine : Engine) (r : Records) : (q : Service) → q.Answer × Records
  | .record op => (.ok (op.result r), op.apply r)
  | .analyze program source => (engine.analyze program source, r)
  | .compile program => (engine.compile program, r)
  | .run unit call injected _ => (engine.run unit call injected, r)
  | .newToken => (0, r)
  | .startDeadline .. => (0, r)
  | .stopDeadline _ => ((), r)
  | .log _ => ((), r)

theorem answers_answer (engine : Engine) (r : Records) (q : Service) :
    engine.host.Answers r q (engine.answer r q).1 (engine.answer r q).2 := by
  cases q with
  | record op => exact .inl ⟨rfl, rfl⟩
  | analyze => exact ⟨rfl, rfl⟩
  | compile => exact ⟨rfl, rfl⟩
  | run => exact ⟨rfl, rfl⟩
  | newToken => rfl
  | startDeadline => rfl
  | stopDeadline => rfl
  | log => rfl

/-- The end of an operation: its result, and what the hub and the records are then. -/
def outcome {α : Type} (engine : Engine) (work : Work α) (l : LiveState) (r : Records) :
    Except HubError α × LiveState × Records :=
  work.run.play engine.answer l r

theorem ends_outcome {α : Type} (engine : Engine) (work : Work α) (l : LiveState) (r : Records) :
    Flow.Ends engine.host.Answers work.run l r (engine.outcome work l r).1
      (engine.outcome work l r).2.1 (engine.outcome work l r).2.2 :=
  Flow.ends_play engine.answers_answer work.run l r

/-- A driver with a counter, whose devices have a level. -/
def lampProgram (id : String) : Program where
  id := id
  singletons :=
    [{ ident := "@Driver", type := .object [("count", .int)],
       implementations := [⟨"Driver", [], [⟨"validate_driver", {}⟩], {}⟩] },
     { ident := "@Device", type := .object [("level", .float)],
       implementations := [⟨"Device", [], [⟨"validate_device", {}⟩], {}⟩] }]

/-- What a lamp declares: a count and a level. -/
def isLamp (info : DriverInfo) : Bool :=
  match info.driverSchema, info.deviceSchema with
  | .struct [("count", .atom .int)], .struct [("level", .atom .float)] => true
  | _, _ => false

/-- An engine that knows the source `lamp` alone. A call leaves behind its two arguments, an integer
and a finite float, as the count and the level. -/
def lamp : Engine where
  analyze program source :=
    .ok (if source = "lamp" then .analyzed (lampProgram program) [] else .rejected [])
  compile program :=
    match program.extract with
    | .ok info =>
      if isLamp info then .ok ⟨program.id, "lamp"⟩ else .error (.compile program.id "not a lamp")
    | .error _ => .error (.compile program.id "not a driver")
  run _ call _ :=
    match call.args with
    | [.int count, .float level] =>
      if level.isFinite then .ok (.completed .null
        [("@Device", .object [("level", .float level)]), ("@Driver", .object [("count", .int count)])])
      else .ok (.failed [])
    | _ => .ok (.failed [])

/-- A call of a lamp with a count and a level. -/
def dim (count : Int64) (level : Binary64) : Call where
  function := "dim"
  signature := { returns := .null }
  args := [.int count, .float level]

def lampDriver : DriverRecord where
  id := ⟨"acme", "lamp"⟩
  name := "Lamp"
  version := default
  source := "lamp"

def deskLamp : DeviceRecord where
  id := "desk"
  name := "Desk"
  room := "study"
  driver := lampDriver.id

/-- A hub with a lamp on the desk, and its records. -/
def lampHub : LiveState × Records :=
  (lamp.outcome (Work.createDriver lampDriver >>= fun _ => Work.createDevice deskLamp) {} {}).2

/-- A driver with a counter, whose devices have these fields. -/
def switchProgram (id : String) (fields : List (String × ScriptType)) : Program where
  id := id
  singletons :=
    [{ ident := "@Driver", type := .object [("count", .int)],
       implementations := [⟨"Driver", [], [⟨"validate_driver", {}⟩], {}⟩] },
     { ident := "@Device", type := .object fields,
       implementations := [⟨"Device", [], [⟨"validate_device", {}⟩], {}⟩] }]

/-- The fields of the devices that a source declares, if it is known. -/
def switchFields (source : String) : Option (List (String × ScriptType)) :=
  if source = "dimmer" then some [("label", .option .str), ("level", .float)]
  else if source = "switch" then some [("label", .option .str)]
  else none

/-- What a switch is compiled to, by what it declares. -/
def switchArtifact? (info : DriverInfo) : Option String :=
  match info.driverSchema, info.deviceSchema with
  | .struct [("count", .atom .int)],
    .struct [("label", .option (.atom .string)), ("level", .atom .float)] => some "dimmer"
  | .struct [("count", .atom .int)], .struct [("label", .option (.atom .string))] => some "switch"
  | _, _ => none

/-- An engine for two revisions of a driver of switches: the devices of the source `dimmer` have a
level and those of the source `switch` have none. A call labels its device and counts to 1. -/
def switches : Engine where
  analyze program source :=
    match switchFields source with
    | some fields => .ok (.analyzed (switchProgram program fields) [])
    | none => .ok (.rejected [])
  compile program :=
    match program.extract with
    | .ok info =>
      match switchArtifact? info with
      | some artifact => .ok ⟨program.id, artifact⟩
      | none => .error (.compile program.id "not a switch")
    | .error _ => .error (.compile program.id "not a driver")
  run unit _ _ :=
    let label := ("label", Value.present (.str "hall"))
    let device := if unit.artifact = "dimmer" then [label, ("level", .float ⟨7⟩)] else [label]
    .ok (.completed .null [("@Device", .object device), ("@Driver", .object [("count", .int 1)])])

/-- What the source `dimmer` declares. -/
def dimmerInfo : DriverInfo where
  driverSchema := .struct [("count", .atom .int)]
  deviceSchema := .struct [("label", .option (.atom .string)), ("level", .atom .float)]
  driverCapabilities := [.base]
  deviceCapabilities := [.base]

/-- What the source `switch` declares. -/
def switchInfo : DriverInfo :=
  { dimmerInfo with deviceSchema := .struct [("label", .option (.atom .string))] }

def switchDriver : DriverRecord where
  id := ⟨"acme", "switch"⟩
  name := "Switch"
  version := default
  source := "dimmer"

def switchIn (room : String) : DeviceRecord where
  id := room
  name := "Switch"
  room := room
  driver := switchDriver.id

/-- A call of a switch. -/
def press : Call where
  function := "press"
  signature := { returns := .null }

/-- An engine that knows the source `bell` alone. It has one annotation, and whatever is called answers
with the topics on which bells are rung, one of them blank. -/
def bells : Engine where
  analyze program source :=
    .ok (if source = "bell" then
      .analyzed { switchProgram program [] with triggers := [⟨"ring", "ringing"⟩] } []
    else .rejected [])
  compile program := .ok ⟨program.id, "bell"⟩
  run _ _ injected := .ok (.completed (.list [.str "", .str "rings"]) injected)

def bellDriver : DriverRecord where
  id := ⟨"acme", "bell"⟩
  name := "Bell"
  version := default
  source := "bell"

def bellIn (room : String) : DeviceRecord where
  id := room
  name := "Bell"
  room := room
  driver := bellDriver.id

end Engine

end DriverHub
