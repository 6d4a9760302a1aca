import DriverHub.Dict
import DriverHub.Log
import DriverHub.Report.Basic

/-! What configuration files set. Every value knows the place where it was written, so that a fault
found later can point at it. -/

namespace DriverHub.Config

/-- A configuration file and its text. -/
structure Source where
  path : String
  text : String
deriving DecidableEq

/-- Where a value was written. -/
structure Place where
  source : Source
  range : TextRange
deriving DecidableEq

structure Placed (α : Type) where
  value : α
  place : Place

/-- The settings that a file may make. -/
inductive Field where
  | level
  /-- The level of the log records of one target. -/
  | override (target : String)
  | storePath
  | timeout
  | attempts
  | retryDelay
  | pendingRetry
  | host
  | port
  | clientId
  | username
  | password
deriving DecidableEq

def Field.path : Field → String
  | level => "logging.level"
  | override target => "logging.overrides." ++ target
  | storePath => "store.path"
  | timeout => "invocation.timeout_secs"
  | attempts => "dispatcher.delivery_attempts"
  | retryDelay => "dispatcher.retry_delay_ms"
  | pendingRetry => "dispatcher.pending_retry_secs"
  | host => "mqtt.host"
  | port => "mqtt.port"
  | clientId => "mqtt.client_id"
  | username => "mqtt.username"
  | password => "mqtt.password"

structure LoggingSection where
  level : Option (Placed LogLevel) := none
  overrides : Dict String (Placed LogLevel) := []

structure StoreSection where
  path : Option (Placed String) := none

structure InvocationSection where
  timeout : Option (Placed Nat) := none

structure DispatcherSection where
  attempts : Option (Placed Nat) := none
  retryDelay : Option (Placed Nat) := none
  pendingRetry : Option (Placed Nat) := none

structure MqttSection where
  host : Option (Placed String) := none
  port : Option (Placed Nat) := none
  clientId : Option (Placed String) := none
  username : Option (Placed String) := none
  password : Option (Placed String) := none

/-- The sections of a file, or of several files taken together. -/
structure Sections where
  logging : Option LoggingSection := none
  store : Option StoreSection := none
  invocation : Option InvocationSection := none
  dispatcher : Option DispatcherSection := none
  mqtt : Option MqttSection := none

def Sections.isEmpty (s : Sections) : Bool :=
  s.logging.isNone && s.store.isNone && s.invocation.isNone && s.dispatcher.isNone && s.mqtt.isNone

/-- A configuration file that was read. -/
structure ConfigFile where
  source : Source
  /-- The paths of further files, as written. -/
  imports : List String := []
  sections : Sections := {}

def ConfigFile.isEmpty (f : ConfigFile) : Bool := f.imports.isEmpty && f.sections.isEmpty

end DriverHub.Config
