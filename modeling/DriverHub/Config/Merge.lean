import DriverHub.Config.Problem

/-! Configuration files taken together. Of the values that several files give to a field the first one
holds, and each later one is a conflict with it. -/

namespace DriverHub.Config

/-! ### First values -/

def LoggingSection.orElse (a b : LoggingSection) : LoggingSection where
  level := a.level <|> b.level
  overrides := Dict.union a.overrides b.overrides

def StoreSection.orElse (a b : StoreSection) : StoreSection where
  path := a.path <|> b.path

def InvocationSection.orElse (a b : InvocationSection) : InvocationSection where
  timeout := a.timeout <|> b.timeout

def DispatcherSection.orElse (a b : DispatcherSection) : DispatcherSection where
  attempts := a.attempts <|> b.attempts
  retryDelay := a.retryDelay <|> b.retryDelay
  pendingRetry := a.pendingRetry <|> b.pendingRetry

def MqttSection.orElse (a b : MqttSection) : MqttSection where
  host := a.host <|> b.host
  port := a.port <|> b.port
  clientId := a.clientId <|> b.clientId
  username := a.username <|> b.username
  password := a.password <|> b.password

/-- The fields of both, those of `a` before those of `b`. -/
def Sections.orElse (a b : Sections) : Sections where
  logging := Option.merge LoggingSection.orElse a.logging b.logging
  store := Option.merge StoreSection.orElse a.store b.store
  invocation := Option.merge InvocationSection.orElse a.invocation b.invocation
  dispatcher := Option.merge DispatcherSection.orElse a.dispatcher b.dispatcher
  mqtt := Option.merge MqttSection.orElse a.mqtt b.mqtt

/-! ### Conflicts -/

/-- The conflict over a field, if both sides set it. -/
def clash {α : Type} (field : Field) : Option (Placed α) → Option (Placed α) → List Conflict
  | some a, some b => [⟨field, a.place, b.place⟩]
  | _, _ => []

/-- The conflicts between two sections, if there are both. -/
def between {α : Type} (conflicts : α → α → List Conflict) : Option α → Option α → List Conflict
  | some a, some b => conflicts a b
  | _, _ => []

def LoggingSection.conflicts (a b : LoggingSection) : List Conflict :=
  clash .level a.level b.level ++
    b.overrides.flatMap fun (target, level) =>
      clash (.override target) (Dict.find? target a.overrides) (some level)

def StoreSection.conflicts (a b : StoreSection) : List Conflict := clash .storePath a.path b.path

def InvocationSection.conflicts (a b : InvocationSection) : List Conflict :=
  clash .timeout a.timeout b.timeout

def DispatcherSection.conflicts (a b : DispatcherSection) : List Conflict :=
  clash .attempts a.attempts b.attempts ++ clash .retryDelay a.retryDelay b.retryDelay ++
    clash .pendingRetry a.pendingRetry b.pendingRetry

def MqttSection.conflicts (a b : MqttSection) : List Conflict :=
  clash .host a.host b.host ++ clash .port a.port b.port ++ clash .clientId a.clientId b.clientId ++
    clash .username a.username b.username ++ clash .password a.password b.password

/-- The fields that both set. -/
def Sections.conflicts (a b : Sections) : List Conflict :=
  between LoggingSection.conflicts a.logging b.logging ++
    between StoreSection.conflicts a.store b.store ++
    between InvocationSection.conflicts a.invocation b.invocation ++
    between DispatcherSection.conflicts a.dispatcher b.dispatcher ++
    between MqttSection.conflicts a.mqtt b.mqtt

/-! ### Files -/

/-- What some files set, and what is wrong with them so far. -/
structure Merged where
  sections : Sections := {}
  problems : List Problem := []

def Merged.add (m : Merged) (file : ConfigFile) : Merged where
  sections := m.sections.orElse file.sections
  problems := m.problems ++ (if file.isEmpty then [.emptyFile file.source.path] else []) ++
    (m.sections.conflicts file.sections).map .conflict

def merge (files : List ConfigFile) : Merged := files.foldl Merged.add {}

end DriverHub.Config
