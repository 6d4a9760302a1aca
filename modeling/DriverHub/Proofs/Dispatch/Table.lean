import DriverHub.Dispatch.Event
import DriverHub.Proofs.Dict

/-! The table of registrations and its index of topics: who listens on a topic after a registration
was entered or removed, and which topics that makes fresh or orphaned. -/

namespace DriverHub

/-- The topics that a registration listens on. -/
def Registration.topics (r : Registration) : List String :=
  match r.request.trigger with
  | .message topics => topics
  | _ => []

theorem Registration.not_isOneShot_of_mem_topics {r : Registration} {topic : String}
    (h : topic ∈ r.topics) : r.request.trigger.isOneShot = false := by
  unfold topics at h
  split at h
  · next htrigger => rw [htrigger]; rfl
  · cases h

namespace RegistrationTable

variable {id k : RegistrationId} {topic : String} {topics : List String} {index : Listening}

/-! ### The index of topics -/

/-- Who listens on a topic. -/
def idsOn (topic : String) (index : Listening) : List RegistrationId :=
  (Dict.find? topic index).getD []

/-- No topic is listed without listeners. -/
def Filled (index : Listening) : Prop := ∀ topic, Dict.find? topic index ≠ some []

theorem Filled.contains_iff (h : Filled index) (topic : String) :
    Dict.contains topic index = true ↔ idsOn topic index ≠ [] := by
  unfold Dict.contains idsOn
  cases hfind : Dict.find? topic index with
  | none => simp
  | some ids =>
    have hne : ids ≠ [] := by
      rintro rfl
      exact h topic hfind
    simpa using hne

section

variable {κ : Type} [DecidableEq κ]

theorem find?_takeOut (id : RegistrationId) (key : κ) (index : Dict κ (List RegistrationId)) (k : κ) :
    Dict.find? k (takeOut id key index) =
      if key = k then
        (Dict.find? k index).bind fun ids =>
          if (ids.filter (· ≠ id)).isEmpty then none else some (ids.filter (· ≠ id))
      else Dict.find? k index := by
  unfold takeOut
  by_cases hkey : key = k
  · subst hkey
    cases hfind : Dict.find? key index with
    | none => simp [hfind]
    | some ids =>
      rw [if_pos rfl, Option.bind_some]
      dsimp only
      split
      · simp [Dict.find?_erase]
      · simp [Dict.find?_modify, hfind]
  · rw [if_neg hkey]
    split
    · rfl
    · dsimp only
      split
      · rw [Dict.find?_erase, if_neg hkey]
      · rw [Dict.find?_modify, if_neg hkey]

/-- Of an index of any kind, the list under the key loses the identifier. -/
theorem getD_takeOut (id : RegistrationId) (key : κ) (index : Dict κ (List RegistrationId)) (k : κ) :
    (Dict.find? k (takeOut id key index)).getD [] =
      if key = k then ((Dict.find? k index).getD []).filter (· ≠ id)
      else (Dict.find? k index).getD [] := by
  rw [find?_takeOut]
  split
  · cases Dict.find? k index with
    | none => rfl
    | some ids =>
      rw [Option.bind_some]
      split
      · next hnil => exact (List.isEmpty_iff.1 hnil).symm
      · rfl
  · rfl

end

theorem idsOn_takeOut (id : RegistrationId) (key : String) (index : Listening) (topic : String) :
    idsOn topic (takeOut id key index) =
      if key = topic then (idsOn topic index).filter (· ≠ id) else idsOn topic index :=
  getD_takeOut id key index topic

theorem Filled.takeOut (h : Filled index) (id : RegistrationId) (key : String) :
    Filled (takeOut id key index) := by
  intro topic
  rw [find?_takeOut]
  split
  · cases Dict.find? topic index with
    | none => simp
    | some ids =>
      rw [Option.bind_some]
      split
      · simp
      · next hne => simpa [List.isEmpty_iff] using hne
  · exact h topic

/-- The index with one more listener on one topic, where it is listed once. -/
def join (id : RegistrationId) (topic : String) (index : Listening) : Listening :=
  let ids := idsOn topic index
  Dict.insert topic (if id ∈ ids then ids else ids ++ [id]) index

theorem idsOn_join (id : RegistrationId) (key : String) (index : Listening) (topic : String) :
    idsOn topic (join id key index) =
      if key = topic ∧ id ∉ idsOn topic index then idsOn topic index ++ [id]
      else idsOn topic index := by
  unfold join
  rw [idsOn, Dict.find?_insert]
  by_cases hkey : key = topic
  · subst hkey
    by_cases hid : id ∈ idsOn key index <;> simp [hid]
  · simp [hkey, idsOn]

theorem idsOn_join_ne_nil (id : RegistrationId) (topic : String) (index : Listening) :
    idsOn topic (join id topic index) ≠ [] := by
  rw [idsOn_join]
  split
  · simp
  · next h =>
    exact List.ne_nil_of_mem (by simpa using h)

theorem Filled.join (h : Filled index) (id : RegistrationId) (key : String) :
    Filled (join id key index) := by
  intro topic
  by_cases hkey : key = topic
  · subst hkey
    have hne := idsOn_join_ne_nil id key index
    intro hnil
    rw [idsOn, hnil] at hne
    exact hne rfl
  · rw [RegistrationTable.join, Dict.find?_insert, if_neg hkey]
    exact h topic

theorem listen_cons (id : RegistrationId) (topic : String) (rest : List String)
    (index : Listening) :
    listen id (topic :: rest) index =
      (if idsOn topic index = [] then topic :: (listen id rest (join id topic index)).1
        else (listen id rest (join id topic index)).1,
        (listen id rest (join id topic index)).2) := by
  rw [listen]
  simp only [← List.isEmpty_iff]
  rfl

theorem idsOn_listen (id : RegistrationId) (topics : List String) (index : Listening)
    (topic : String) :
    idsOn topic (listen id topics index).2 =
      if topic ∈ topics ∧ id ∉ idsOn topic index then idsOn topic index ++ [id]
      else idsOn topic index := by
  induction topics generalizing index with
  | nil => simp [listen]
  | cons t rest ih =>
    rw [listen_cons, ih, idsOn_join]
    by_cases ht : t = topic
    · subst ht
      by_cases hid : id ∈ idsOn t index <;> simp [hid]
    · simp [ht, Ne.symm ht]

theorem Filled.listen (h : Filled index) (id : RegistrationId) (topics : List String) :
    Filled (listen id topics index).2 := by
  induction topics generalizing index with
  | nil => exact h
  | cons t rest ih =>
    rw [listen_cons]
    exact ih (h.join id t)

/-- The fresh topics are those that nobody listened on before. -/
theorem mem_fresh :
    topic ∈ (listen id topics index).1 ↔ topic ∈ topics ∧ idsOn topic index = [] := by
  induction topics generalizing index with
  | nil => simp [listen]
  | cons t rest ih =>
    have hrest : topic ∈ (listen id rest (join id t index)).1 ↔
        topic ∈ rest ∧ t ≠ topic ∧ idsOn topic index = [] := by
      rw [ih]
      by_cases ht : t = topic
      · subst ht
        simp [idsOn_join_ne_nil]
      · simp [idsOn_join, ht]
    rw [listen_cons]
    by_cases ht : t = topic
    · subst ht
      by_cases hnil : idsOn t index = [] <;> simp [hnil, hrest]
    · by_cases hnil : idsOn t index = [] <;> simp [hnil, hrest, ht, Ne.symm ht]

theorem nodup_fresh (id : RegistrationId) (topics : List String) (index : Listening) :
    (listen id topics index).1.Nodup := by
  induction topics generalizing index with
  | nil => exact .nil
  | cons t rest ih =>
    rw [listen_cons]
    dsimp only
    split
    · refine List.nodup_cons.2 ⟨?_, ih _⟩
      rw [mem_fresh]
      exact fun h => idsOn_join_ne_nil id t index h.2
    · exact ih _

theorem Filled.unlisten (h : Filled index) (id : RegistrationId) (topics : List String) :
    Filled (unlisten id topics index).2 := by
  induction topics generalizing index with
  | nil => exact h
  | cons t rest ih => exact ih (h.takeOut id t)

theorem idsOn_unlisten (id : RegistrationId) (topics : List String) (index : Listening)
    (topic : String) :
    idsOn topic (unlisten id topics index).2 =
      if topic ∈ topics then (idsOn topic index).filter (· ≠ id) else idsOn topic index := by
  induction topics generalizing index with
  | nil => simp [unlisten]
  | cons t rest ih =>
    simp only [unlisten]
    rw [ih, idsOn_takeOut]
    by_cases ht : t = topic
    · subst ht
      simp
    · simp [ht, Ne.symm ht]

/-- The orphaned topics are those that lost their last listener. -/
theorem mem_orphaned (h : Filled index) : topic ∈ (unlisten id topics index).1 ↔
    topic ∈ topics ∧ idsOn topic index ≠ [] ∧ (idsOn topic index).filter (· ≠ id) = [] := by
  induction topics generalizing index with
  | nil => simp [unlisten]
  | cons t rest ih =>
    have hrest : topic ∈ (unlisten id rest (RegistrationTable.takeOut id t index)).1 ↔
        topic ∈ rest ∧ t ≠ topic ∧ idsOn topic index ≠ [] ∧
          (idsOn topic index).filter (· ≠ id) = [] := by
      rw [ih (h.takeOut id t), idsOn_takeOut]
      by_cases ht : t = topic
      · subst ht
        simp
      · simp [ht]
    have hlost : (Dict.contains t index && !Dict.contains t (RegistrationTable.takeOut id t index)) =
        true ↔ idsOn t index ≠ [] ∧ (idsOn t index).filter (· ≠ id) = [] := by
      rw [Bool.and_eq_true, h.contains_iff, Bool.not_eq_true', ← Bool.not_eq_true,
        (h.takeOut id t).contains_iff, idsOn_takeOut, if_pos rfl, not_not]
    simp only [unlisten]
    split
    · next h =>
      rw [List.mem_cons, hrest, List.mem_cons]
      have := hlost.1 h
      grind
    · next h =>
      rw [hrest, List.mem_cons]
      have := mt hlost.2 h
      grind

theorem nodup_orphaned (h : Filled index) (id : RegistrationId) (topics : List String) :
    (unlisten id topics index).1.Nodup := by
  induction topics generalizing index with
  | nil => exact .nil
  | cons t rest ih =>
    simp only [unlisten]
    split
    · refine List.nodup_cons.2 ⟨?_, ih (h.takeOut id t)⟩
      rw [mem_orphaned (h.takeOut id t), idsOn_takeOut, if_pos rfl]
      rintro ⟨-, hne, hnil⟩
      simp at hne hnil
      grind
    · exact ih (h.takeOut id t)

/-! ### Entering and removing -/

variable {table : RegistrationTable} {r : Registration}

theorem get?_insert (r : Registration) (table : RegistrationTable) (k : RegistrationId) :
    (table.insert r).2.get? k = if r.id = k then some r else table.get? k := by
  unfold insert
  split <;> exact Dict.find?_insert r.id k r table.all

theorem insert_fst (r : Registration) (table : RegistrationTable) :
    (table.insert r).1 = (listen r.id r.topics table.listening).1 := by
  unfold insert Registration.topics
  split <;> simp_all [listen]

theorem listening_insert (r : Registration) (table : RegistrationTable) :
    (table.insert r).2.listening = (listen r.id r.topics table.listening).2 := by
  unfold insert Registration.topics
  split <;> simp_all [listen]

theorem remove_of_none (h : table.get? id = none) : table.remove id = (none, table) := by
  unfold remove
  rw [h]

theorem remove_fst (h : table.get? id = some r) :
    (table.remove id).1 = some (r, (unlisten id r.topics table.listening).1) := by
  unfold remove Registration.topics
  rw [h]
  dsimp only
  split <;> simp_all [unlisten]

theorem listening_remove (h : table.get? id = some r) :
    (table.remove id).2.listening = (unlisten id r.topics table.listening).2 := by
  unfold remove Registration.topics
  rw [h]
  dsimp only
  split <;> simp_all [unlisten]

theorem get?_remove (id : RegistrationId) (table : RegistrationTable) (k : RegistrationId) :
    (table.remove id).2.get? k = if id = k then none else table.get? k := by
  cases h : table.get? id with
  | none =>
    rw [remove_of_none h]
    split
    · next hk => exact hk ▸ h
    · rfl
  | some r =>
    unfold remove
    rw [h]
    dsimp only
    split <;> exact Dict.find?_erase id k table.all

/-- These are the identifiers of the registrations in the table that are as `p` says. -/
def Listed (table : RegistrationTable) (ids : List RegistrationId) (p : Registration → Prop) : Prop :=
  ∀ id, id ∈ ids ↔ ∃ r, table.get? id = some r ∧ p r

section

variable {ids : List RegistrationId} {p : Registration → Prop} [Decidable (p r)]

theorem Listed.insert (h : table.Listed ids p) (hr : table.get? r.id = none) :
    (table.insert r).2.Listed (if p r then ids ++ [r.id] else ids) p := by
  intro k
  have hmem : k ∈ (if p r then ids ++ [r.id] else ids) ↔ k ∈ ids ∨ r.id = k ∧ p r := by
    split
    · next hp => simp [hp, eq_comm]
    · next hp => simp [hp]
  rw [hmem, h, get?_insert]
  by_cases hk : r.id = k
  · simp [← hk, hr]
  · simp [hk]

/-- A list has to be cut where the registration that goes was on it. -/
theorem Listed.remove (h : table.Listed ids p) (hr : table.get? id = some r) :
    (table.remove id).2.Listed (if p r then ids.filter (· ≠ id) else ids) p := by
  intro k
  have hmem : k ∈ (if p r then ids.filter (· ≠ id) else ids) ↔ k ∈ ids ∧ k ≠ id := by
    split
    · simp
    · next hp =>
      refine ⟨fun hk => ⟨hk, ?_⟩, And.left⟩
      rintro rfl
      obtain ⟨r', hr', hp'⟩ := (h _).1 hk
      rw [hr] at hr'
      cases hr'
      exact hp hp'
  rw [hmem, h, get?_remove]
  by_cases hk : id = k <;> simp [hk, eq_comm]

end

/-- What is found under an identifier bears it, and the index of topics lists just who listens. -/
structure Indexed (table : RegistrationTable) : Prop where
  id_eq : ∀ {id r}, table.get? id = some r → r.id = id
  mem_iff : ∀ {topic id}, id ∈ idsOn topic table.listening ↔
    ∃ r, table.get? id = some r ∧ topic ∈ r.topics
  filled : Filled table.listening

theorem Indexed.empty : Indexed {} where
  id_eq h := by cases h
  mem_iff := by
    refine ⟨?_, ?_⟩
    · intro hlisten
      cases hlisten
    · rintro ⟨r, hr, -⟩
      cases hr
  filled _ := nofun

theorem Indexed.idsOn_insert (h : table.Indexed) (hr : table.get? r.id = none) (topic : String) :
    idsOn topic (table.insert r).2.listening =
      if topic ∈ r.topics then idsOn topic table.listening ++ [r.id]
      else idsOn topic table.listening := by
  have hnew : r.id ∉ idsOn topic table.listening := by
    rw [h.mem_iff, hr]
    simp
  rw [listening_insert, idsOn_listen]
  simp only [hnew, not_false_eq_true, and_true]

theorem Indexed.idsOn_remove (h : table.Indexed) (id : RegistrationId) (topic : String) :
    idsOn topic (table.remove id).2.listening = (idsOn topic table.listening).filter (· ≠ id) := by
  have hkeep (habsent : id ∉ idsOn topic table.listening) :
      idsOn topic table.listening = (idsOn topic table.listening).filter (· ≠ id) := by
    refine (List.filter_eq_self.2 ?_).symm
    intro k hk
    have hne : k ≠ id := ne_of_mem_of_not_mem hk habsent
    simpa using hne
  cases hr : table.get? id with
  | none =>
    rw [remove_of_none hr]
    refine hkeep ?_
    rw [h.mem_iff, hr]
    simp
  | some r =>
    rw [listening_remove hr, idsOn_unlisten]
    split
    · rfl
    · next htopic =>
      refine hkeep ?_
      rw [h.mem_iff, hr]
      rintro ⟨r', hr', ht⟩
      exact htopic (Option.some.inj hr' ▸ ht)

/-- A registration under a new identifier keeps the index right. -/
theorem Indexed.insert (h : table.Indexed) (hr : table.get? r.id = none) :
    (table.insert r).2.Indexed where
  id_eq := by
    intro k r' hk
    rw [get?_insert] at hk
    split at hk
    · next hid => rw [← hid, Option.some.inj hk]
    · exact h.id_eq hk
  mem_iff := by
    intro topic k
    have hmem : k ∈ idsOn topic (table.insert r).2.listening ↔
        k ∈ idsOn topic table.listening ∨ r.id = k ∧ topic ∈ r.topics := by
      rw [h.idsOn_insert hr]
      split <;> simp [*, eq_comm]
    rw [hmem, h.mem_iff, get?_insert]
    split
    · next hk => simp [← hk, hr]
    · next hk => simp [hk]
  filled := by
    rw [listening_insert]
    exact h.filled.listen r.id r.topics

theorem Indexed.remove (h : table.Indexed) (id : RegistrationId) : (table.remove id).2.Indexed where
  id_eq := by
    intro k r hk
    rw [get?_remove] at hk
    split at hk
    · cases hk
    · exact h.id_eq hk
  mem_iff := by
    intro topic k
    rw [h.idsOn_remove, List.mem_filter, h.mem_iff, get?_remove]
    by_cases hk : id = k <;> simp [hk, eq_comm]
  filled := by
    cases hr : table.get? id with
    | none =>
      rw [remove_of_none hr]
      exact h.filled
    | some r =>
      rw [listening_remove hr]
      exact h.filled.unlisten id r.topics

/-- Who gets a message is in the table, and waits for messages. -/
theorem Indexed.topic_of_mem_listeners (h : table.Indexed) (hr : r ∈ table.listeners topic) :
    topic ∈ r.topics := by
  obtain ⟨id, hid, hget⟩ := List.mem_filterMap.1 hr
  obtain ⟨r', hr', ht⟩ := h.mem_iff.1 hid
  exact Option.some.inj (hget.symm.trans hr') ▸ ht

theorem not_isOneShot_of_mem_deviceListeners {driver : DriverId} {device : DeviceId}
    (hr : r ∈ table.deviceListeners driver device topic) : r.request.trigger.isOneShot = false := by
  have hevent := (List.mem_filter.1 hr).2
  split at hevent
  · next htrigger => rw [htrigger]; rfl
  · cases hevent

/-! ### The index of jobs -/

/-- The job whose end a registration waits for. -/
def awaited? (r : Registration) : Option JobId :=
  match r.request.trigger with
  | .kill job => some job
  | _ => none

theorem awaited?_eq_some {job : JobId} : awaited? r = some job ↔ r.request.trigger = .kill job := by
  unfold awaited?
  split
  · next other htrigger => simp [htrigger]
  · next hother => exact ⟨nofun, fun htrigger => absurd htrigger (hother job)⟩

theorem waitingFor_insert (r : Registration) (table : RegistrationTable) (job : JobId) :
    (table.insert r).2.waitingFor job =
      if awaited? r = some job then table.waitingFor job ++ [r.id] else table.waitingFor job := by
  unfold insert waitingFor
  split
  · next htrigger => simp [awaited?, htrigger]
  · next other htrigger =>
    dsimp only
    rw [Dict.find?_insert]
    by_cases hjob : other = job <;> simp [awaited?, htrigger, hjob]
  · next htrigger => simp [awaited?, htrigger]
  · next htrigger => simp [awaited?, htrigger]

theorem waitingFor_remove (h : table.get? id = some r) (job : JobId) :
    (table.remove id).2.waitingFor job =
      if awaited? r = some job then (table.waitingFor job).filter (· ≠ id)
      else table.waitingFor job := by
  unfold remove waitingFor
  rw [h]
  dsimp only
  split
  · next htrigger => simp [awaited?, htrigger]
  · next other htrigger =>
    rw [getD_takeOut]
    by_cases hjob : other = job <;> simp [awaited?, htrigger, hjob]
  · next htrigger => simp [awaited?, htrigger]
  · next htrigger => simp [awaited?, htrigger]

/-- Who waits for the end of a job is listed under it, and nobody else. -/
def KillsIndexed (table : RegistrationTable) : Prop :=
  ∀ job id, id ∈ table.waitingFor job ↔ ∃ r, table.get? id = some r ∧ awaited? r = some job

theorem KillsIndexed.empty : KillsIndexed {} := by
  intro job id
  refine ⟨?_, ?_⟩
  · intro hwaits
    cases hwaits
  · rintro ⟨r, hr, -⟩
    cases hr

theorem KillsIndexed.insert (h : table.KillsIndexed) (hr : table.get? r.id = none) :
    (table.insert r).2.KillsIndexed := by
  intro job
  have hlisted : table.Listed (table.waitingFor job) fun r => awaited? r = some job := h job
  rw [waitingFor_insert]
  exact hlisted.insert hr

theorem KillsIndexed.remove (h : table.KillsIndexed) (id : RegistrationId) :
    (table.remove id).2.KillsIndexed := by
  cases hr : table.get? id with
  | none =>
    rw [remove_of_none hr]
    exact h
  | some r =>
    intro job
    have hlisted : table.Listed (table.waitingFor job) fun r => awaited? r = some job := h job
    rw [waitingFor_remove hr]
    exact hlisted.remove hr

end RegistrationTable

/-- A table whose index is right, and which holds only identifiers that were given out. -/
structure DispatchState.Sound (s : DispatchState) : Prop where
  indexed : s.table.Indexed
  drawn : ∀ {id r}, s.table.get? id = some r → id < s.nextId

/-- Nothing is under the number that is given out next. -/
theorem DispatchState.Sound.get?_nextId {s : DispatchState} (h : s.Sound) :
    s.table.get? s.nextId = none := by
  rw [← Option.not_isSome_iff_eq_none, Option.isSome_iff_exists]
  rintro ⟨r, hr⟩
  exact Nat.lt_irrefl _ (h.drawn hr)

end DriverHub
