import DriverHub.Command.Arguments
import DriverHub.Config.Import
import DriverHub.Json.Parser
import DriverHub.Records.Store
import DriverHub.Schema.Decode
import DriverHub.Schema.Json

/-! What the commands do, on a tree of files. -/

namespace DriverHub.Command

/-- Why a command failed. -/
structure Fault where
  message : String
  cause : Option String := none

/-- The message, and the cause after a blank line. -/
def Fault.text (f : Fault) : String :=
  "Error: " ++ f.message ++ "\n" ++
    f.cause.elim "" fun cause => "\nCaused by:\n" ++
      String.join ((Text.rows cause.toList).map fun row => "    " ++ String.ofList row ++ "\n")

/-- What a command tells. -/
structure Outcome where
  output : List String := []
  warnings : String := ""
  fault : Option Fault := none

namespace Outcome

def code (o : Outcome) : Nat := if o.fault.isSome then 1 else 0

/-- The text on the error channel. -/
def errors (o : Outcome) : String := o.warnings ++ o.fault.elim "" Fault.text

/-- The outcome of a part that prints lines or fails. -/
def ofExcept (warnings : String) : Except Fault (List String) → Outcome
  | .ok output => { output, warnings }
  | .error fault => { warnings, fault := some fault }

end Outcome

/-- The settings in some files, and the warnings about them. Without files the defaults hold. -/
def loadSettings (tree : FileTree) (files : List String) :
    Except Fault (Config.Settings × String) :=
  if files.isEmpty then .ok ({}, "")
  else
    match Config.settingsOf tree files with
    | .error e => .error { message := "Failed to load configuration", cause := some (e.text tree) }
    | .ok (settings, warnings) => .ok (settings, Config.problemsText warnings)

/-- Goes on with the settings in some files. -/
def withSettings (tree : FileTree) (files : List String)
    (next : Config.Settings → Except Fault (List String)) : Outcome :=
  match loadSettings tree files with
  | .error fault => { fault := some fault }
  | .ok (settings, warnings) => .ofExcept warnings (next settings)

def summary (files : Nat) (s : Config.Settings) : List String :=
  ["Configuration OK (" ++ Digits.natText files ++ " file(s))",
    "  log level: " ++ s.logging.level.title,
    "  record store: " ++ s.store.getD "in memory",
    "  invocation timeout: " ++ s.timeoutText,
    "  mqtt: " ++ s.mqtt.elim "disabled" fun m =>
      m.host ++ ":" ++ Digits.natText m.port ++ " as " ++ m.clientId]

def readJson (tree : FileTree) (path : String) : Except Fault Json :=
  match tree.read path with
  | .error fault =>
    .error { message := "Failed to read '" ++ path ++ "'", cause := some fault.text }
  | .ok text =>
    match Json.parse? text with
    | none => .error { message := "Failed to parse '" ++ path ++ "' as JSON" }
    | some j => .ok j

def validate (tree : FileTree) (schema value : String) : Except Fault (List String) := do
  match Schema.ofJson? (← readJson tree schema) with
  | none => .error { message := "'" ++ schema ++ "' is not a config schema" }
  | some s =>
    match s.validate (← readJson tree value) with
    | .error e => .error { message := e.text }
    | .ok _ => .ok ["Value matches " ++ s.kindName]

def listing (records : Records) : List String :=
  let drivers := Dict.values records.drivers
  let devices := Dict.values records.devices
  ("Drivers (" ++ Digits.natText drivers.length ++ "):") ::
    (drivers.map fun d => "  " ++ d.id.text ++ "  " ++ d.name ++ " v" ++ d.version.text) ++
    ("Devices (" ++ Digits.natText devices.length ++ "):") ::
    (devices.map fun d => "  " ++ d.id ++ "  " ++ d.name ++ " in " ++ d.room ++ " via " ++ d.driver.text)

/-- The record file of an inventory: the one that is asked for, or else the one that is set. -/
def recordFile (asked : Option String) (s : Config.Settings) : Option String := asked <|> s.store

def inventory (tree : FileTree) (store : Option String) : Except Fault (List String) :=
  match store with
  | none => .error { message := "No record store given; pass --store or set store.path" }
  | some path =>
    match (RecordStore.open? tree path).1 with
    | .error e =>
      .error { message := "Failed to open record store '" ++ path ++ "'", cause := some e.text }
    | .ok store => .ok (listing store.records)

namespace CommandLine

def run (tree : FileTree) (line : CommandLine) : Outcome :=
  match line.task with
  | .checkConfig files => withSettings tree files fun s => .ok (summary files.length s)
  | .validate schema value => withSettings tree line.config fun _ => validate tree schema value
  | .inventory store =>
    withSettings tree line.config fun s => inventory tree (recordFile store s)

/-- The configuration files that are read first. -/
def configFiles (line : CommandLine) : List String :=
  match line.task with
  | .checkConfig files => files
  | _ => line.config

/-- The files that are read when the configuration is known. -/
def furtherFiles (tree : FileTree) (line : CommandLine) : List String :=
  match line.task with
  | .checkConfig _ => []
  | .validate schema value => [schema, value]
  | .inventory store =>
    match loadSettings tree line.config with
    | .ok (settings, _) => (recordFile store settings).toList
    | .error _ => []

end CommandLine

def usage : List String :=
  ["Inspect hearthd driver configuration and records",
    "",
    "Usage: hearthd-drivers [OPTIONS] <COMMAND>",
    "",
    "Commands:",
    "  check-config  Load and merge config files, reporting every conflict",
    "  validate      Check a JSON value against a JSON-encoded config schema",
    "  inventory     List the drivers and devices in a record store",
    "  help          Print this message or the help of the given subcommand(s)",
    "",
    "Options:",
    "  -c, --config <CONFIG>  Daemon config files, merged in order",
    "  -h, --help             Print help"]

end DriverHub.Command
