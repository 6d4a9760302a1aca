import DriverHub.Config.Settings
import DriverHub.Proofs.Dict
import Mathlib.Data.String.Basic

/-! Fields of configurations. Whatever section a field is in, taking files together keeps its first
value, and the conflicts over it are those between the values that it is given. -/

namespace DriverHub.Config

/-! ### The values of fields -/

/-- What values a field has. -/
@[reducible]
def Field.Value : Field → Type
  | level | override _ => LogLevel
  | timeout | attempts | retryDelay | pendingRetry | port => Nat
  | storePath | host | clientId | username | password => String

/-- What the sections set a field to. -/
def Sections.get? (s : Sections) : (field : Field) → Option (Placed field.Value)
  | .level => s.logging.bind (·.level)
  | .override target => s.logging.bind fun l => Dict.find? target l.overrides
  | .storePath => s.store.bind (·.path)
  | .timeout => s.invocation.bind (·.timeout)
  | .attempts => s.dispatcher.bind (·.attempts)
  | .retryDelay => s.dispatcher.bind (·.retryDelay)
  | .pendingRetry => s.dispatcher.bind (·.pendingRetry)
  | .host => s.mqtt.bind (·.host)
  | .port => s.mqtt.bind (·.port)
  | .clientId => s.mqtt.bind (·.clientId)
  | .username => s.mqtt.bind (·.username)
  | .password => s.mqtt.bind (·.password)

/-- What a field is in the settings, if it has a value there. -/
def Settings.get? (s : Settings) : (field : Field) → Option field.Value
  | .level => some s.logging.level
  | .override target => Dict.find? target s.logging.overrides
  | .storePath => s.store
  | .timeout => some s.timeout
  | .attempts => some s.attempts
  | .retryDelay => some s.retryDelay
  | .pendingRetry => some s.pendingRetry
  | .host => s.mqtt.map (·.host)
  | .port => s.mqtt.map (·.port)
  | .clientId => s.mqtt.map (·.clientId)
  | .username => s.mqtt.bind (·.username)
  | .password => s.mqtt.bind (·.password)

/-- What a field is that nothing sets. The broker has a port and a name for its client only if there is
a broker. -/
def Field.default (broker : Bool) : (field : Field) → Option field.Value
  | level => some .info
  | timeout => some (10 : Nat)
  | attempts => some (3 : Nat)
  | retryDelay => some (500 : Nat)
  | pendingRetry => some (30 : Nat)
  | port => if broker then some (1883 : Nat) else none
  | clientId => if broker then some "hearthd-drivers" else none
  | override _ | storePath | host | username | password => none

theorem Field.take_path_override (target : String) :
    ("logging.overrides." ++ target).toList.take 18 = "logging.overrides.".toList := by
  have hlength : "logging.overrides.".toList.length = 18 := by simp
  rw [String.toList_append, List.take_append_of_le_length hlength.ge,
    List.take_of_length_le hlength.le]

theorem Field.path_ne_override {field : Field} (h : ∀ target, field ≠ override target)
    (target : String) : field.path ≠ (override target).path := by
  intro hpath
  have htake : field.path.toList.take 18 = "logging.overrides.".toList :=
    hpath ▸ take_path_override target
  cases field with
  | override t => exact h t rfl
  | _ => exact absurd htake (by decide +kernel)

theorem Field.path_injective : Function.Injective Field.path := by
  intro a b h
  by_cases ha : ∃ target, a = override target
  · obtain ⟨target, rfl⟩ := ha
    by_cases hb : ∃ target, b = override target
    · obtain ⟨other, rfl⟩ := hb
      have happend : "logging.overrides." ++ target = "logging.overrides." ++ other := h
      rw [String.append_right_inj] at happend
      rw [happend]
    · exact absurd h.symm (path_ne_override (not_exists.1 hb) target)
  · cases b with
    | override other => exact absurd h (path_ne_override (not_exists.1 ha) other)
    | _ =>
      cases a with
      | override target => exact absurd ⟨target, rfl⟩ ha
      | _ =>
        revert h
        decide +kernel

/-! ### Two files together -/

namespace Sections

variable {a b : Sections}

theorem get?_orElse (a b : Sections) (field : Field) :
    (a.orElse b).get? field = (a.get? field).or (b.get? field) := by
  obtain ⟨logging, store, invocation, dispatcher, mqtt⟩ := a
  obtain ⟨logging', store', invocation', dispatcher', mqtt'⟩ := b
  cases field with
  | level =>
    cases logging <;> cases logging' <;> simp [get?, orElse, LoggingSection.orElse]
  | override target =>
    cases logging <;> cases logging' <;>
      simp [get?, orElse, LoggingSection.orElse, Dict.find?_union]
  | storePath => cases store <;> cases store' <;> simp [get?, orElse, StoreSection.orElse]
  | timeout =>
    cases invocation <;> cases invocation' <;> simp [get?, orElse, InvocationSection.orElse]
  | attempts | retryDelay | pendingRetry =>
    cases dispatcher <;> cases dispatcher' <;> simp [get?, orElse, DispatcherSection.orElse]
  | host | port | clientId | username | password =>
    cases mqtt <;> cases mqtt' <;> simp [get?, orElse, MqttSection.orElse]

end Sections

theorem filter_clash {α : Type} (field g : Field) (x y : Option (Placed α)) :
    (clash g x y).filter (·.field = field) = if g = field then clash g x y else [] := by
  cases x <;> cases y <;> simp [clash, List.filter_singleton]

theorem filter_between {α : Type} (p : Conflict → Bool) (conflicts : α → α → List Conflict)
    (x y : Option α) :
    (between conflicts x y).filter p = between (fun a b => (conflicts a b).filter p) x y := by
  cases x <;> cases y <;> rfl

theorem between_nil {α : Type} (x y : Option α) : between (fun _ _ => []) x y = [] := by
  cases x <;> cases y <;> rfl

theorem between_clash {α β : Type} (field : Field) (f : α → Option (Placed β)) (x y : Option α) :
    between (fun a b => clash field (f a) (f b)) x y = clash field (x.bind f) (y.bind f) := by
  cases x <;> cases y <;> simp [between, clash]

/-- A section that is a finite map sets no target twice. -/
def Sections.Distinct (s : Sections) : Prop :=
  ∀ l, s.logging = some l → (l.overrides.map (·.1)).Nodup

theorem filter_clash_override {overrides : Dict String (Placed LogLevel)}
    (h : (overrides.map (·.1)).Nodup) (before : Dict String (Placed LogLevel)) (target : String) :
    (overrides.flatMap fun (t, level) =>
        clash (.override t) (Dict.find? t before) (some level)).filter (·.field = .override target) =
      clash (.override target) (Dict.find? target before) (Dict.find? target overrides) := by
  induction overrides with
  | nil => cases Dict.find? target before <;> rfl
  | cons e rest ih =>
    obtain ⟨t, level⟩ := e
    rw [List.map_cons, List.nodup_cons] at h
    rw [List.flatMap_cons, List.filter_append, filter_clash, ih h.2, Dict.find?_cons]
    by_cases ht : t = target
    · subst ht
      have hrest : Dict.find? t rest = none := by
        rw [← Option.not_isSome_iff_eq_none, Dict.find?_isSome_iff]
        exact h.1
      cases Dict.find? t before <;> simp [hrest, clash]
    · simp [ht]

theorem filter_clash_of_override (overrides before : Dict String (Placed LogLevel)) {field : Field}
    (h : ∀ target, field ≠ .override target) :
    (overrides.flatMap fun (t, level) =>
        clash (.override t) (Dict.find? t before) (some level)).filter (·.field = field) = [] := by
  rw [List.filter_flatMap, List.flatMap_eq_nil_iff]
  rintro ⟨t, level⟩ -
  rw [filter_clash, if_neg (h t).symm]

/-- Two files are in conflict over a field if both set it, and then once. -/
theorem Sections.filter_conflicts {a b : Sections} (hb : b.Distinct) (field : Field) :
    (a.conflicts b).filter (·.field = field) = clash field (a.get? field) (b.get? field) := by
  obtain ⟨logging, store, invocation, dispatcher, mqtt⟩ := a
  obtain ⟨logging', store', invocation', dispatcher', mqtt'⟩ := b
  simp only [conflicts, LoggingSection.conflicts, StoreSection.conflicts,
    InvocationSection.conflicts, DispatcherSection.conflicts, MqttSection.conflicts,
    List.filter_append, filter_between, filter_clash]
  cases field with
  | override target =>
    simp only [reduceCtorEq, if_false, List.append_nil, List.nil_append, between_nil]
    cases logging with
    | none => cases logging' <;> simp [between, get?, clash]
    | some l =>
      cases logging' with
      | none => simp [between, get?, clash]
      | some l' =>
        simp only [between]
        exact filter_clash_override (hb l' rfl) l.overrides target
  | _ => simp [filter_clash_of_override, between_nil, between_clash, get?]

end DriverHub.Config
