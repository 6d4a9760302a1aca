import DriverHub.Proofs.Config.Fields
import Mathlib.Data.List.Induction

/-! Files taken together, as one list of values for each field. The first value of a field is kept, each
later one is reported with it, and what is required of values is judged on those that are kept. -/

namespace DriverHub.Config

/-! ### What files say together -/

/-- The values that files give to a field, in the order of the files. -/
def given (field : Field) (files : List ConfigFile) : List (Placed field.Value) :=
  files.filterMap (·.sections.get? field)

/-- Whether some file has a section on the broker. -/
def namesBroker (files : List ConfigFile) : Bool := files.any (·.sections.mqtt.isSome)

/-- The first of some values is in conflict with each later one. -/
def conflictsAmong {field : Field} : List (Placed field.Value) → List Conflict
  | [] => []
  | first :: later => later.map fun v => ⟨field, first.place, v.place⟩

/-- What is required of the first values: they are not zero, and a broker has a host. -/
inductive Violation (files : List ConfigFile) : Problem → Prop
  | timeout {place : Place} (zero : (given .timeout files).head? = some ⟨(0 : Nat), place⟩) :
    Violation files (.invalid .timeout .oneSecond (some place))
  | attempts {place : Place} (zero : (given .attempts files).head? = some ⟨(0 : Nat), place⟩) :
    Violation files (.invalid .attempts .once (some place))
  | pendingRetry {place : Place} (zero : (given .pendingRetry files).head? = some ⟨(0 : Nat), place⟩) :
    Violation files (.invalid .pendingRetry .oneSecond (some place))
  | host (broker : namesBroker files = true) (missing : given .host files = []) :
    Violation files (.invalid .host .present none)

/-- Files that make settings together. -/
structure Compatible (files : List ConfigFile) : Prop where
  once : ∀ field, (given field files).length ≤ 1
  timeout : ∀ v ∈ given .timeout files, v.value ≠ 0
  attempts : ∀ v ∈ given .attempts files, v.value ≠ 0
  pendingRetry : ∀ v ∈ given .pendingRetry files, v.value ≠ 0
  host : namesBroker files = true → given .host files ≠ []

/-! ### Merging -/

namespace Problem

/-- The conflicts over the field at a path. -/
def conflictAt? (path : String) : Problem → Option Conflict
  | conflict c => if c.field.path = path then some c else none
  | _ => none

/-- Whether a value falls short of a requirement. -/
def isInvalid : Problem → Bool
  | invalid .. => true
  | _ => false

theorem isError_iff {p : Problem} :
    p.isError = true ↔ (∃ field : Field, (p.conflictAt? field.path).isSome) ∨ p.isInvalid = true := by
  cases p with
  | emptyFile path => simp [isError, conflictAt?, isInvalid]
  | conflict c =>
    refine iff_of_true rfl (.inl ⟨c.field, ?_⟩)
    simp [conflictAt?]
  | invalid => simp [isError, isInvalid]

end Problem

theorem merge_append (files : List ConfigFile) (file : ConfigFile) :
    merge (files ++ [file]) = (merge files).add file := by
  simp [merge]

theorem given_append (field : Field) (files : List ConfigFile) (file : ConfigFile) :
    given field (files ++ [file]) = given field files ++ (file.sections.get? field).toList := by
  unfold given
  rw [List.filterMap_append]
  cases h : file.sections.get? field <;> simp [h]

theorem get?_merge (files : List ConfigFile) (field : Field) :
    (merge files).sections.get? field = (given field files).head? := by
  induction files using List.reverseRecOn with
  | nil => cases field <;> rfl
  | append_singleton files file ih =>
    rw [merge_append, given_append, List.head?_append, ← ih]
    change ((merge files).sections.orElse file.sections).get? field = _
    rw [Sections.get?_orElse]
    cases file.sections.get? field <;> rfl

theorem mqtt_merge (files : List ConfigFile) :
    (merge files).sections.mqtt.isSome = namesBroker files := by
  induction files using List.reverseRecOn with
  | nil => rfl
  | append_singleton files file ih =>
    rw [merge_append, namesBroker, List.any_append, ← namesBroker, ← ih]
    change (Option.merge _ (merge files).sections.mqtt file.sections.mqtt).isSome = _
    cases (merge files).sections.mqtt <;> cases h : file.sections.mqtt <;> simp [h]

theorem conflictsAmong_append {field : Field} (values : List (Placed field.Value))
    (value : Option (Placed field.Value)) :
    conflictsAmong (values ++ value.toList) =
      conflictsAmong values ++ clash field values.head? value := by
  cases values <;> cases value <;> simp [conflictsAmong, clash]

theorem conflicts_merge {files : List ConfigFile} (h : ∀ file ∈ files, file.sections.Distinct)
    (field : Field) :
    (merge files).problems.filterMap (Problem.conflictAt? field.path) =
      conflictsAmong (given field files) := by
  induction files using List.reverseRecOn with
  | nil => rfl
  | append_singleton files file ih =>
    have hfile : file.sections.Distinct := h file (by simp)
    have hempty : (if file.isEmpty then [Problem.emptyFile file.source.path] else []).filterMap
        (Problem.conflictAt? field.path) = [] := by
      split <;> rfl
    have hconflicts : (((merge files).sections.conflicts file.sections).map Problem.conflict).filterMap
        (Problem.conflictAt? field.path) =
          clash field (given field files).head? (file.sections.get? field) := by
      rw [← get?_merge, ← Sections.filter_conflicts hfile, List.filterMap_map]
      rw [← List.filterMap_eq_filter]
      congr 1
      funext c
      simp [Problem.conflictAt?, Option.guard, Field.path_injective.eq_iff]
    rw [merge_append, given_append, conflictsAmong_append]
    change ((merge files).problems ++ _ ++ _).filterMap _ = _
    rw [List.filterMap_append, List.filterMap_append, hempty, hconflicts, List.append_nil,
      ih fun f hf => h f (List.mem_append_left _ hf)]

theorem not_isInvalid_merge (files : List ConfigFile) :
    (merge files).problems.filter Problem.isInvalid = [] := by
  induction files using List.reverseRecOn with
  | nil => rfl
  | append_singleton files file ih =>
    rw [merge_append]
    change ((merge files).problems ++ _ ++ _).filter _ = _
    rw [List.filter_append, List.filter_append, ih]
    split <;> simp [Problem.isInvalid]

/-! ### Requirements -/

theorem mem_notZero {field : Field} {requirement : Requirement} {value : Option (Placed Nat)}
    {p : Problem} : p ∈ notZero field requirement value ↔
      ∃ place, value = some ⟨0, place⟩ ∧ p = .invalid field requirement (some place) := by
  unfold notZero
  split <;> simp_all

theorem nodup_notZero (field : Field) (requirement : Requirement) (value : Option (Placed Nat)) :
    (notZero field requirement value).Nodup := by
  unfold notZero
  split <;> simp

/-- The problem of a broker without a host. -/
def withoutHost : Option MqttSection → List Problem
  | some { host := none, .. } => [.invalid .host .present none]
  | _ => []

theorem Sections.violations_eq (s : Sections) : s.violations =
    notZero .timeout .oneSecond (s.get? .timeout) ++ notZero .attempts .once (s.get? .attempts) ++
      notZero .pendingRetry .oneSecond (s.get? .pendingRetry) ++ withoutHost s.mqtt := rfl

theorem mem_withoutHost {s : Sections} {p : Problem} : p ∈ withoutHost s.mqtt ↔
    (s.mqtt.isSome = true ∧ s.get? .host = none) ∧ p = .invalid .host .present none := by
  obtain ⟨logging, store, invocation, dispatcher, mqtt⟩ := s
  unfold withoutHost
  cases mqtt with
  | none => simp
  | some m =>
    obtain ⟨host, port, clientId, username, password⟩ := m
    cases host <;> simp [Sections.get?]

theorem mem_violations (files : List ConfigFile) (p : Problem) :
    p ∈ (merge files).sections.violations ↔ Violation files p := by
  simp only [Sections.violations_eq, List.mem_append, mem_notZero, mem_withoutHost, get?_merge,
    mqtt_merge, List.head?_eq_none_iff]
  constructor
  · rintro (((⟨place, hzero, rfl⟩ | ⟨place, hzero, rfl⟩) | ⟨place, hzero, rfl⟩) | ⟨⟨hbroker, hhost⟩, rfl⟩)
    · exact .timeout hzero
    · exact .attempts hzero
    · exact .pendingRetry hzero
    · exact .host hbroker hhost
  · intro h
    cases h with
    | timeout zero => exact .inl (.inl (.inl ⟨_, zero, rfl⟩))
    | attempts zero => exact .inl (.inl (.inr ⟨_, zero, rfl⟩))
    | pendingRetry zero => exact .inl (.inr ⟨_, zero, rfl⟩)
    | host broker missing => exact .inr ⟨⟨broker, missing⟩, rfl⟩

theorem nodup_violations (s : Sections) : s.violations.Nodup := by
  have hhost : (withoutHost s.mqtt).Nodup := by
    unfold withoutHost
    split <;> simp
  rw [Sections.violations_eq]
  simp only [List.nodup_append, nodup_notZero, hhost, List.mem_append, mem_notZero, mem_withoutHost,
    true_and]
  grind

theorem isInvalid_of_violation {files : List ConfigFile} {p : Problem} (h : Violation files p) :
    p.isInvalid = true := by
  cases h <;> rfl

/-! ### Settings -/

/-- The settings hold what the sections set, and defaults for the rest. -/
theorem get?_settings {s : Sections} (h : s.mqtt.isSome = true → s.get? .host ≠ none) (field : Field) :
    s.settings.get? field = ((s.get? field).map (·.value)).or (field.default s.mqtt.isSome) := by
  obtain ⟨logging, store, invocation, dispatcher, mqtt⟩ := s
  cases field with
  | level =>
    simp only [Settings.get?, Sections.settings, Sections.get?, valueOf?, Field.default]
    cases logging.bind (·.level) <;> rfl
  | override target =>
    simp only [Settings.get?, Sections.settings, Sections.get?, Field.default, Option.or_none]
    cases logging with
    | none => rfl
    | some l => exact Dict.find?_map (fun _ level => level.value) target l.overrides
  | storePath => simp only [Settings.get?, Sections.settings, Sections.get?, valueOf?, Field.default,
      Option.or_none]
  | timeout =>
    simp only [Settings.get?, Sections.settings, Sections.get?, valueOf?, Field.default]
    cases invocation.bind (·.timeout) <;> rfl
  | attempts =>
    simp only [Settings.get?, Sections.settings, Sections.get?, valueOf?, Field.default]
    cases dispatcher.bind (·.attempts) <;> rfl
  | retryDelay =>
    simp only [Settings.get?, Sections.settings, Sections.get?, valueOf?, Field.default]
    cases dispatcher.bind (·.retryDelay) <;> rfl
  | pendingRetry =>
    simp only [Settings.get?, Sections.settings, Sections.get?, valueOf?, Field.default]
    cases dispatcher.bind (·.pendingRetry) <;> rfl
  | host | port | clientId | username | password =>
    cases mqtt with
    | none => rfl
    | some m =>
      obtain ⟨host, port, clientId, username, password⟩ := m
      cases host with
      | none => exact absurd rfl (h rfl)
      | some host => cases port <;> cases clientId <;> cases username <;> cases password <;> rfl

theorem exists_settings_iff (m : Merged) : (∃ settings warnings, m.settings = .ok (settings, warnings)) ↔
    ∀ p ∈ m.problems ++ m.sections.violations, p.isError = false := by
  unfold Merged.settings
  dsimp only
  split
  · next h =>
    obtain ⟨p, hp, herror⟩ := List.any_eq_true.1 h
    refine iff_of_false (by simp) fun hall => ?_
    rw [hall p hp] at herror
    cases herror
  · next h =>
    refine iff_of_true ⟨_, _, rfl⟩ fun p hp => ?_
    rw [List.any_eq_true] at h
    rw [← Bool.not_eq_true]
    exact fun herror => h ⟨p, hp, herror⟩

/-- The diagnostics hold every conflict and every violation. -/
structure Told (files : List ConfigFile) (problems : List Problem) : Prop where
  /-- For a field that is set in so many files there is one conflict less. -/
  conflicts : ∀ field : Field, problems.filterMap (Problem.conflictAt? field.path) =
    conflictsAmong (given field files)
  once : (problems.filter Problem.isInvalid).Nodup
  violations : ∀ p, p ∈ problems.filter Problem.isInvalid ↔ Violation files p

theorem told_merge {files : List ConfigFile} (h : ∀ file ∈ files, file.sections.Distinct) :
    Told files ((merge files).problems ++ (merge files).sections.violations) := by
  have hall : (merge files).sections.violations.filter Problem.isInvalid =
      (merge files).sections.violations :=
    List.filter_eq_self.2 fun p hp => isInvalid_of_violation ((mem_violations files p).1 hp)
  refine ⟨?_, ?_, ?_⟩
  · intro field
    have hnone : (merge files).sections.violations.filterMap (Problem.conflictAt? field.path) = [] := by
      refine List.filterMap_eq_nil_iff.2 fun p hp => ?_
      cases (mem_violations files p).1 hp <;> rfl
    rw [List.filterMap_append, hnone, List.append_nil, conflicts_merge h]
  · rw [List.filter_append, not_isInvalid_merge, hall]
    exact nodup_violations _
  · intro p
    rw [List.filter_append, not_isInvalid_merge, hall]
    exact mem_violations files p

theorem conflictsAmong_eq_nil_iff {field : Field} {values : List (Placed field.Value)} :
    conflictsAmong values = [] ↔ values.length ≤ 1 := by
  cases values with
  | nil => simp [conflictsAmong]
  | cons first later => simp [conflictsAmong]

theorem head?_eq_some_of_mem {A : Type} {values : List A} {v : A} (once : values.length ≤ 1)
    (hv : v ∈ values) : values.head? = some v := by
  cases values with
  | nil => cases hv
  | cons first later =>
    obtain rfl : later = [] := List.length_eq_zero_iff.1 (by simpa using once)
    rw [List.mem_singleton.1 hv, List.head?_cons]

theorem Told.not_violation {files : List ConfigFile} {problems : List Problem} (h : Told files problems)
    (hnone : ∀ p ∈ problems, p.isError = false) {p : Problem} : ¬ Violation files p := by
  intro hp
  obtain ⟨hmem, hinvalid⟩ := List.mem_filter.1 ((h.violations p).2 hp)
  have herror := Problem.isError_iff.2 (.inr hinvalid)
  rw [hnone p hmem] at herror
  cases herror

theorem Compatible.not_violation {files : List ConfigFile} (h : Compatible files) {p : Problem} :
    ¬ Violation files p := by
  intro hp
  cases hp with
  | timeout zero => exact h.timeout _ (List.mem_of_head? zero) rfl
  | attempts zero => exact h.attempts _ (List.mem_of_head? zero) rfl
  | pendingRetry zero => exact h.pendingRetry _ (List.mem_of_head? zero) rfl
  | host broker missing => exact h.host broker missing

/-- Nothing is an error just if the files are compatible. -/
theorem Told.compatible_iff {files : List ConfigFile} {problems : List Problem} (h : Told files problems) :
    (∀ p ∈ problems, p.isError = false) ↔ Compatible files := by
  constructor
  · intro hnone
    have honce : ∀ field, (given field files).length ≤ 1 := by
      intro field
      rw [← conflictsAmong_eq_nil_iff, ← h.conflicts, List.filterMap_eq_nil_iff]
      intro p hp
      rw [← Option.not_isSome_iff_eq_none]
      intro hsome
      have herror := Problem.isError_iff.2 (.inl ⟨field, hsome⟩)
      rw [hnone p hp] at herror
      cases herror
    refine ⟨honce, ?_, ?_, ?_, ?_⟩
    · rintro ⟨value, place⟩ hv rfl
      exact h.not_violation hnone (.timeout (head?_eq_some_of_mem (honce _) hv))
    · rintro ⟨value, place⟩ hv rfl
      exact h.not_violation hnone (.attempts (head?_eq_some_of_mem (honce _) hv))
    · rintro ⟨value, place⟩ hv rfl
      exact h.not_violation hnone (.pendingRetry (head?_eq_some_of_mem (honce _) hv))
    · exact fun hbroker hmissing => h.not_violation hnone (.host hbroker hmissing)
  · intro hcompatible p hp
    rw [← Bool.not_eq_true, Problem.isError_iff]
    rintro (⟨field, hsome⟩ | hinvalid)
    · have hconflicts := conflictsAmong_eq_nil_iff.2 (hcompatible.once field)
      rw [← h.conflicts, List.filterMap_eq_nil_iff] at hconflicts
      rw [hconflicts p hp] at hsome
      cases hsome
    · exact hcompatible.not_violation ((h.violations p).1 (List.mem_filter.2 ⟨hp, hinvalid⟩))

/-- Files taken together make settings just if no two of them set one field, and what they set satisfies
the requirements; then every field is what the only file that sets it says, or its default. Otherwise
all that is wrong is told at once. -/
theorem settings_merge (files : List ConfigFile) (h : ∀ file ∈ files, file.sections.Distinct) :
    ((∃ settings warnings, (merge files).settings = .ok (settings, warnings)) ↔ Compatible files) ∧
    (∀ settings warnings, (merge files).settings = .ok (settings, warnings) → ∀ field,
      (given field files = [] ∧ settings.get? field = field.default (namesBroker files)) ∨
      ∃ only, given field files = [only] ∧ settings.get? field = some only.value) ∧
    ∀ problems, (merge files).settings = .error problems → Told files problems := by
  have htold := told_merge h
  have hiff := (exists_settings_iff (merge files)).trans htold.compatible_iff
  refine ⟨hiff, ?_, ?_⟩
  · intro settings warnings hok field
    have hcompatible := hiff.1 ⟨settings, warnings, hok⟩
    obtain rfl : (merge files).sections.settings = settings := by
      unfold Merged.settings at hok
      dsimp only at hok
      split at hok
      · cases hok
      · exact congrArg Prod.fst (Except.ok.inj hok)
    have hhost : (merge files).sections.mqtt.isSome = true →
        (merge files).sections.get? .host ≠ none := by
      rw [mqtt_merge, get?_merge, ne_eq, List.head?_eq_none_iff]
      exact hcompatible.host
    rw [get?_settings hhost, mqtt_merge, get?_merge]
    have honce := hcompatible.once field
    cases hgiven : given field files with
    | nil => exact .inl ⟨rfl, rfl⟩
    | cons only later =>
      rw [hgiven] at honce
      obtain rfl : later = [] := List.length_eq_zero_iff.1 (by simpa using honce)
      exact .inr ⟨only, rfl, rfl⟩
  · intro problems herror
    unfold Merged.settings at herror
    dsimp only at herror
    split at herror
    · cases herror
      exact htold
    · cases herror

/-- Two files that set the attempts, the first one to zero. -/
def attemptsTwice : List ConfigFile :=
  let first : Place := ⟨⟨"/a.toml", "dispatcher.delivery_attempts = 0"⟩, ⟨31, 32⟩⟩
  let later : Place := ⟨⟨"/b.toml", "dispatcher.delivery_attempts = 5"⟩, ⟨31, 32⟩⟩
  [{ source := first.source, sections := { dispatcher := some { attempts := some ⟨0, first⟩ } } },
    { source := later.source, sections := { dispatcher := some { attempts := some ⟨5, later⟩ } } }]

theorem settings_merge_attemptsTwice :
    (∀ file ∈ attemptsTwice, file.sections.Distinct) ∧ ¬ Compatible attemptsTwice ∧
    ∃ conflict violation, (merge attemptsTwice).settings = .error [conflict, violation] ∧
      Told attemptsTwice [conflict, violation] := by
  have hdistinct : ∀ file ∈ attemptsTwice, file.sections.Distinct := by
    intro file hfile l hl
    rcases List.mem_cons.1 hfile with rfl | hfile
    · cases hl
    · obtain rfl := List.mem_singleton.1 hfile
      cases hl
  have hmerge := settings_merge attemptsTwice hdistinct
  refine ⟨hdistinct, fun h => ?_, _, _, rfl, hmerge.2.2 _ rfl⟩
  obtain ⟨settings, warnings, hok⟩ := hmerge.1.2 h
  cases hok

end DriverHub.Config
