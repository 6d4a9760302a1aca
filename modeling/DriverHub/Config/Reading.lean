import DriverHub.Config.Sections
import DriverHub.Toml.Parser

/-! Reading configuration files. A section is a table, or an array of its values in order; settings
without a meaning are passed over. -/

namespace DriverHub.Config

/-- The settings of a section under the given names, in that order. An array has to hold them all. A
date is a section that sets nothing. -/
def settings? (names : List String) : Toml → Option (List (Option (TextRange × Toml)))
  | .table _ members => some (names.map fun name => Dict.find? name members)
  | .array items => positional items
  | .tables items => positional items
  | .date => some (names.map fun _ => none)
  | _ => none
where
  positional (items : List (TextRange × Toml)) : Option (List (Option (TextRange × Toml))) :=
    if names.length ≤ items.length then some ((items.take names.length).map some) else none

def text? : Toml → Option String
  | .str text => some text
  | _ => none

/-- A number of so many bits. -/
def number? (bits : Nat) : Toml → Option Nat
  | .int i => if 0 ≤ i ∧ i < Nat.pow 2 bits then some i.toNat else none
  | _ => none

def isEmpty : Toml → Bool
  | .array items => items.isEmpty
  | .table _ members => members.isEmpty
  | _ => false

/-- A level by its word, which may also be the only key of a table with nothing under it. -/
def level? : Toml → Option LogLevel
  | .str word => LogLevel.ofWord? word
  | .table _ [(word, _, value)] => if isEmpty value then LogLevel.ofWord? word else none
  | _ => none

/-- Reads a setting that may be missing. -/
def placed? {α : Type} (source : Source) (read : Toml → Option α) :
    Option (TextRange × Toml) → Option (Option (Placed α))
  | none => some none
  | some (range, value) => do return some ⟨← read value, source, range⟩

/-- Reads a section that may be missing. -/
def section? {α : Type} (read : Toml → Option α) (name : String) (top : Toml.Table) :
    Option (Option α) :=
  match Dict.find? name top.members with
  | none => some none
  | some (_, value) => (read value).map some

namespace Source

variable (source : Source)

def overrides? : Option (TextRange × Toml) → Option (Dict String (Placed LogLevel))
  | none => some []
  | some (_, .table _ members) =>
    members.mapM fun (target, range, value) => do
      return (target, ⟨← level? value, source, range⟩)
  | some _ => none

def logging? (t : Toml) : Option LoggingSection := do
  match ← settings? ["level", "overrides"] t with
  | [level, overrides] =>
    return { level := ← placed? source level? level
             overrides := ← source.overrides? overrides }
  | _ => none

def store? (t : Toml) : Option StoreSection := do
  match ← settings? ["path"] t with
  | [path] => return { path := ← placed? source text? path }
  | _ => none

def invocation? (t : Toml) : Option InvocationSection := do
  match ← settings? ["timeout_secs"] t with
  | [timeout] => return { timeout := ← placed? source (number? 64) timeout }
  | _ => none

def dispatcher? (t : Toml) : Option DispatcherSection := do
  match ← settings? ["delivery_attempts", "retry_delay_ms", "pending_retry_secs"] t with
  | [attempts, retryDelay, pendingRetry] =>
    return { attempts := ← placed? source (number? 32) attempts
             retryDelay := ← placed? source (number? 64) retryDelay
             pendingRetry := ← placed? source (number? 64) pendingRetry }
  | _ => none

def mqtt? (t : Toml) : Option MqttSection := do
  match ← settings? ["host", "port", "client_id", "username", "password"] t with
  | [host, port, clientId, username, password] =>
    return { host := ← placed? source text? host
             port := ← placed? source (number? 16) port
             clientId := ← placed? source text? clientId
             username := ← placed? source text? username
             password := ← placed? source text? password }
  | _ => none

def imports? (top : Toml.Table) : Option (List String) :=
  match Dict.find? "imports" top.members with
  | none => some []
  | some (_, .array items) => items.mapM fun item => text? item.2
  | some _ => none

def read? : Option ConfigFile := do
  let top ← Toml.Table.parse? source.text
  return { source
           imports := ← imports? top
           sections :=
             { logging := ← section? source.logging? "logging" top
               store := ← section? source.store? "store" top
               invocation := ← section? source.invocation? "invocation" top
               dispatcher := ← section? source.dispatcher? "dispatcher" top
               mqtt := ← section? source.mqtt? "mqtt" top } }

end Source

end DriverHub.Config
