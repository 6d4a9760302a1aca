import DriverHub.Config.Merge

/-! The settings of the daemon: what the files set, checked and completed by defaults. -/

namespace DriverHub.Config

structure LoggingSettings where
  level : LogLevel := .info
  overrides : Dict String LogLevel := []

/-- Whether log records of a target are kept at a level. The override whose name is the longest start
of the target decides, or the general level if there is none. -/
def LoggingSettings.admits (s : LoggingSettings) (target : String) (level : LogLevel) : Bool :=
  let limit := (s.overrides.filter fun o => o.1.toList.isPrefixOf target.toList).foldl
    (fun best o => if best.1 ≤ o.1.length then (o.1.length, o.2) else best) (0, s.level)
  limit.2.admits level

structure MqttSettings where
  host : String
  port : Nat := 1883
  clientId : String := "hearthd-drivers"
  username : Option String := none
  password : Option String := none

structure Settings where
  logging : LoggingSettings := {}
  /-- The file of the records; without one they are kept in memory. -/
  store : Option String := none
  /-- Seconds that a script may run. -/
  timeout : Nat := 10
  /-- How often a delivery is tried. -/
  attempts : Nat := 3
  /-- Milliseconds between tries. -/
  retryDelay : Nat := 500
  /-- Seconds between tries of the registrations that wait. -/
  pendingRetry : Nat := 30
  /-- The message broker, if there is one. -/
  mqtt : Option MqttSettings := none

def Settings.timeoutText (s : Settings) : String := Digits.natText s.timeout ++ "s"

/-- The value of a field of a section that may be missing. -/
def valueOf? {α β : Type} (s : Option α) (field : α → Option (Placed β)) : Option β :=
  (s.bind field).map (·.value)

def MqttSection.settings? (s : MqttSection) : Option MqttSettings :=
  let defaults : MqttSettings := { host := "" }
  s.host.map fun host =>
    { host := host.value
      port := (s.port.map (·.value)).getD defaults.port
      clientId := (s.clientId.map (·.value)).getD defaults.clientId
      username := s.username.map (·.value)
      password := s.password.map (·.value) }

def Sections.settings (s : Sections) : Settings :=
  let defaults : Settings := {}
  { logging :=
      { level := (valueOf? s.logging (·.level)).getD defaults.logging.level
        overrides := (s.logging.elim [] (·.overrides)).map fun o => (o.1, o.2.value) }
    store := valueOf? s.store (·.path)
    timeout := (valueOf? s.invocation (·.timeout)).getD defaults.timeout
    attempts := (valueOf? s.dispatcher (·.attempts)).getD defaults.attempts
    retryDelay := (valueOf? s.dispatcher (·.retryDelay)).getD defaults.retryDelay
    pendingRetry := (valueOf? s.dispatcher (·.pendingRetry)).getD defaults.pendingRetry
    mqtt := s.mqtt.bind (·.settings?) }

/-- The problem of a field that is set to zero. -/
def notZero (field : Field) (requirement : Requirement) : Option (Placed Nat) → List Problem
  | some ⟨0, place⟩ => [.invalid field requirement (some place)]
  | _ => []

/-- The problems of values that do not satisfy their requirements. -/
def Sections.violations (s : Sections) : List Problem :=
  notZero .timeout .oneSecond (s.invocation.bind (·.timeout)) ++
    notZero .attempts .once (s.dispatcher.bind (·.attempts)) ++
    notZero .pendingRetry .oneSecond (s.dispatcher.bind (·.pendingRetry)) ++
    (match s.mqtt with
      | some { host := none, .. } => [.invalid .host .present none]
      | _ => [])

/-- The settings with the warnings, or everything that is wrong. -/
def Merged.settings (m : Merged) : Except (List Problem) (Settings × List Problem) :=
  let problems := m.problems ++ m.sections.violations
  if problems.any (·.isError) then .error problems else .ok (m.sections.settings, problems)

end DriverHub.Config
