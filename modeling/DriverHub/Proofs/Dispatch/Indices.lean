import DriverHub.Proofs.Dispatch.Entries
import Mathlib.Data.String.Basic

/-! The indices of the table of registrations. Each lists just the registrations that it is for, also
where a registration names a topic twice or shares it with others, and none keeps an empty list. Where
identifiers increase, so do all lists. -/

namespace DriverHub.RegistrationTable

variable {id : RegistrationId} {r : Registration} {table : RegistrationTable}
  {topic : String} {index : Listening}

/-! ### The index of device events -/

/-- Whether a registration waits for events of devices. -/
def awaitsDevices (r : Registration) : Bool :=
  match r.request.trigger with
  | .deviceEvent _ => true
  | _ => false

theorem awaitsDevices_iff : awaitsDevices r = true ↔ ∃ e, r.request.trigger = .deviceEvent e := by
  unfold awaitsDevices
  split
  · next e htrigger => simp [htrigger]
  · next hother => simpa using hother

theorem deviceEvents_insert (r : Registration) (table : RegistrationTable) :
    (table.insert r).2.deviceEvents =
      if awaitsDevices r then table.deviceEvents ++ [r.id] else table.deviceEvents := by
  unfold insert awaitsDevices
  split <;> simp_all

theorem deviceEvents_remove (h : table.get? id = some r) :
    (table.remove id).2.deviceEvents =
      if awaitsDevices r then table.deviceEvents.filter (· ≠ id) else table.deviceEvents := by
  unfold remove awaitsDevices
  rw [h]
  dsimp only
  split <;> simp_all

/-- Who waits for events of devices is listed, and nobody else. -/
def DevicesIndexed (table : RegistrationTable) : Prop :=
  table.Listed table.deviceEvents fun r => awaitsDevices r = true

theorem DevicesIndexed.insert (h : table.DevicesIndexed) (hr : table.get? r.id = none) :
    (table.insert r).2.DevicesIndexed := by
  unfold DevicesIndexed
  rw [deviceEvents_insert]
  exact Listed.insert h hr

theorem DevicesIndexed.remove (h : table.DevicesIndexed) (id : RegistrationId) :
    (table.remove id).2.DevicesIndexed := by
  cases hr : table.get? id with
  | none =>
    rw [remove_of_none hr]
    exact h
  | some r =>
    unfold DevicesIndexed
    rw [deviceEvents_remove hr]
    exact Listed.remove h hr

/-! ### Lists that are kept in order -/

section

variable {κ : Type} [DecidableEq κ]

theorem sorted_takeOut [LT κ] {index : Dict κ (List RegistrationId)} (h : Dict.Sorted index)
    (id : RegistrationId) (key : κ) : Dict.Sorted (takeOut id key index) := by
  unfold takeOut
  split
  · exact h
  · dsimp only
    split
    · exact Dict.sorted_erase key h
    · exact Dict.sorted_modify key _ h

theorem find?_takeOut_ne_nil {index : Dict κ (List RegistrationId)} (id : RegistrationId) {key k : κ}
    (h : Dict.find? k index ≠ some []) : Dict.find? k (takeOut id key index) ≠ some [] := by
  rw [find?_takeOut]
  split
  · cases Dict.find? k index with
    | none => simp
    | some ids =>
      rw [Option.bind_some]
      split
      · simp
      · next hne => simpa [List.isEmpty_iff] using hne
  · exact h

end

theorem sorted_listen (h : Dict.Sorted index) (id : RegistrationId) (topics : List String) :
    Dict.Sorted (listen id topics index).2 := by
  induction topics generalizing index with
  | nil => exact h
  | cons topic rest ih =>
    rw [listen_cons]
    exact ih (Dict.sorted_insert topic _ h)

theorem sorted_unlisten (h : Dict.Sorted index) (id : RegistrationId) (topics : List String) :
    Dict.Sorted (unlisten id topics index).2 := by
  induction topics generalizing index with
  | nil => exact h
  | cons topic rest ih => exact ih (sorted_takeOut h id topic)

theorem kills_insert (r : Registration) (table : RegistrationTable) :
    (table.insert r).2.kills = match awaited? r with
      | some job => Dict.insert job (table.waitingFor job ++ [r.id]) table.kills
      | none => table.kills := by
  unfold insert awaited?
  split <;> simp_all [waitingFor]

theorem kills_remove (h : table.get? id = some r) :
    (table.remove id).2.kills = match awaited? r with
      | some job => takeOut id job table.kills
      | none => table.kills := by
  unfold remove awaited?
  rw [h]
  dsimp only
  split <;> simp_all

/-! ### Tables whose indices are right -/

/-- Every index lists just those whom it is for, no list in it is empty, and its keys are in order. -/
structure Tidy (table : RegistrationTable) : Prop where
  indexed : table.Indexed
  kills : table.KillsIndexed
  kills_filled : ∀ job, Dict.find? job table.kills ≠ some []
  devices : table.DevicesIndexed
  sorted : Dict.Sorted table.all
  sorted_topics : Dict.Sorted table.listening
  sorted_kills : Dict.Sorted table.kills

namespace Tidy

theorem empty : Tidy {} where
  indexed := .empty
  kills := .empty
  kills_filled _ := nofun
  devices _ := by simp [get?]
  sorted := .nil
  sorted_topics := .nil
  sorted_kills := .nil

/-- A registration under a new identifier keeps a table tidy. -/
theorem insert (h : table.Tidy) (hr : table.get? r.id = none) : (table.insert r).2.Tidy where
  indexed := h.indexed.insert hr
  kills := h.kills.insert hr
  kills_filled := by
    intro job
    rw [kills_insert]
    split
    · rw [Dict.find?_insert]
      split
      · simp
      · exact h.kills_filled job
    · exact h.kills_filled job
  devices := h.devices.insert hr
  sorted := by
    rw [all_insert]
    exact Dict.sorted_insert _ _ h.sorted
  sorted_topics := by
    rw [listening_insert]
    exact sorted_listen h.sorted_topics _ _
  sorted_kills := by
    rw [kills_insert]
    split
    · exact Dict.sorted_insert _ _ h.sorted_kills
    · exact h.sorted_kills

theorem remove (h : table.Tidy) (id : RegistrationId) : (table.remove id).2.Tidy := by
  cases hr : table.get? id with
  | none =>
    rw [remove_of_none hr]
    exact h
  | some r =>
    refine ⟨h.indexed.remove id, h.kills.remove id, ?_, h.devices.remove id, ?_, ?_, ?_⟩
    · intro job
      rw [kills_remove hr]
      split
      · exact find?_takeOut_ne_nil id (h.kills_filled job)
      · exact h.kills_filled job
    · rw [all_remove]
      exact Dict.sorted_erase id h.sorted
    · rw [listening_remove hr]
      exact sorted_unlisten h.sorted_topics _ _
    · rw [kills_remove hr]
      split
      · exact sorted_takeOut h.sorted_kills _ _
      · exact h.sorted_kills

end Tidy

theorem mem_topics_iff : topic ∈ r.topics ↔
    ∃ topics, r.request.trigger = .message topics ∧ topic ∈ topics := by
  unfold Registration.topics
  split
  · next topics htrigger => simp [htrigger]
  · next hother =>
    refine ⟨nofun, ?_⟩
    rintro ⟨topics, htrigger, -⟩
    exact absurd htrigger (hother topics)

theorem Indexed.listeners_eq_nil_iff (h : table.Indexed) :
    table.listeners topic = [] ↔ idsOn topic table.listening = [] := by
  change (idsOn topic table.listening).filterMap table.get? = [] ↔ _
  constructor
  · intro hnil
    rw [List.filterMap_eq_nil_iff] at hnil
    refine List.eq_nil_iff_forall_not_mem.2 fun id hid => ?_
    obtain ⟨r, hr, -⟩ := h.mem_iff.1 hid
    rw [hnil id hid] at hr
    cases hr
  · intro hnil
    rw [hnil, List.filterMap_nil]

/-! ### Growing tables -/

/-- The tables that come about when registrations are inserted under increasing identifiers and
removed, in any order; the next identifier is `next` at least. -/
inductive Grown : RegistrationId → RegistrationTable → Prop
  | empty {next : RegistrationId} : Grown next {}
  | insert {next : RegistrationId} {table : RegistrationTable} {r : Registration}
      (before : Grown next table) (later : next ≤ r.id) : Grown (r.id + 1) (table.insert r).2
  | remove {next : RegistrationId} {table : RegistrationTable} (before : Grown next table)
      (id : RegistrationId) : Grown next (table.remove id).2

variable {next : RegistrationId}

/-- A tidy table in which every list is in the order of the identifiers. -/
structure Ordered (next : RegistrationId) (table : RegistrationTable) : Prop where
  tidy : table.Tidy
  below : ∀ {id r}, table.get? id = some r → id < next
  topics : ∀ topic, (idsOn topic table.listening).Pairwise (· < ·)
  kills : ∀ job, (table.waitingFor job).Pairwise (· < ·)
  devices : table.deviceEvents.Pairwise (· < ·)

namespace Ordered

theorem empty : Ordered next {} := ⟨.empty, nofun, fun _ => .nil, fun _ => .nil, .nil⟩

theorem get?_eq_none (h : table.Ordered next) (later : next ≤ r.id) : table.get? r.id = none := by
  rw [← Option.not_isSome_iff_eq_none, Option.isSome_iff_exists]
  rintro ⟨old, hold⟩
  exact absurd (h.below hold) (Nat.not_lt.2 later)

theorem insert (h : table.Ordered next) (later : next ≤ r.id) :
    (table.insert r).2.Ordered (r.id + 1) := by
  have hnone := h.get?_eq_none later
  -- whoever is listed anywhere is in the table, so the new identifier comes after it
  have happend : ∀ {p : Registration → Prop} {ids : List RegistrationId}, ids.Pairwise (· < ·) →
      table.Listed ids p → (ids ++ [r.id]).Pairwise (· < ·) := by
    intro p ids hids hmem
    refine List.pairwise_append.2 ⟨hids, List.pairwise_singleton .., ?_⟩
    intro id hid k hk
    obtain ⟨old, hold, -⟩ := (hmem id).1 hid
    obtain rfl := List.mem_singleton.1 hk
    exact Nat.lt_of_lt_of_le (h.below hold) later
  refine ⟨h.tidy.insert hnone, ?_, ?_, ?_, ?_⟩
  · intro id old hold
    rw [get?_insert] at hold
    split at hold
    · next hid => exact hid ▸ Nat.lt_succ_self _
    · exact Nat.lt_succ_of_lt (Nat.lt_of_lt_of_le (h.below hold) later)
  · intro topic
    rw [h.tidy.indexed.idsOn_insert hnone]
    split
    · exact happend (h.topics topic) fun _ => h.tidy.indexed.mem_iff
    · exact h.topics topic
  · intro job
    rw [waitingFor_insert]
    split
    · exact happend (h.kills job) (h.tidy.kills job)
    · exact h.kills job
  · rw [deviceEvents_insert]
    split
    · exact happend h.devices h.tidy.devices
    · exact h.devices

theorem remove (h : table.Ordered next) (id : RegistrationId) : (table.remove id).2.Ordered next := by
  cases hr : table.get? id with
  | none =>
    rw [remove_of_none hr]
    exact h
  | some r =>
    refine ⟨h.tidy.remove id, ?_, ?_, ?_, ?_⟩
    · intro k old hold
      rw [get?_remove] at hold
      split at hold
      · cases hold
      · exact h.below hold
    · intro topic
      rw [h.tidy.indexed.idsOn_remove]
      exact (h.topics topic).filter _
    · intro job
      rw [waitingFor_remove hr]
      split
      · exact (h.kills job).filter _
      · exact h.kills job
    · rw [deviceEvents_remove hr]
      split
      · exact h.devices.filter _
      · exact h.devices

end Ordered

theorem Grown.ordered (h : Grown next table) : table.Ordered next := by
  induction h with
  | empty => exact .empty
  | insert _ later ih => exact ih.insert later
  | remove _ id ih => exact ih.remove id

/-! ### What the indices say -/

/-- These are the identifiers of the registrations in the table that are as `p` says, each once and in
increasing order. -/
def Lists (table : RegistrationTable) (ids : List RegistrationId) (p : Registration → Prop) : Prop :=
  ids.Pairwise (· < ·) ∧ table.Listed ids p

/-- These are the registrations in the table that are as `p` says, each once and in the order of their
identifiers. -/
def Selects (table : RegistrationTable) (rs : List Registration) (p : Registration → Prop) : Prop :=
  rs.Pairwise (·.id < ·.id) ∧ ∀ r, r ∈ rs ↔ table.get? r.id = some r ∧ p r

theorem Lists.selects {ids : List RegistrationId} {p : Registration → Prop} (h : table.Lists ids p)
    (hid : ∀ {id r}, table.get? id = some r → r.id = id) :
    table.Selects (ids.filterMap table.get?) p := by
  obtain ⟨hsorted, hmem⟩ := h
  refine ⟨?_, fun r => ?_⟩
  · refine List.pairwise_filterMap.2 (hsorted.imp ?_)
    intro id k hlt r hr r' hr'
    rwa [hid hr, hid hr']
  · rw [List.mem_filterMap]
    constructor
    · rintro ⟨id, hlisted, hr⟩
      obtain ⟨r', hr', hp⟩ := (hmem id).1 hlisted
      rw [hr] at hr'
      cases hr'
      exact ⟨hid hr ▸ hr, hp⟩
    · rintro ⟨hr, hp⟩
      exact ⟨r.id, (hmem r.id).2 ⟨r, hr, hp⟩, hr⟩

theorem Selects.filter {rs : List Registration} {p q : Registration → Prop} {f : Registration → Bool}
    (h : table.Selects rs p) (hq : ∀ r, q r ↔ p r ∧ f r = true) :
    table.Selects (rs.filter f) q := by
  refine ⟨h.1.filter _, fun r => ?_⟩
  rw [List.mem_filter, h.2, hq, and_assoc]

/-- The indices of a table, and the selections that are made with them, are those of its registrations.
An index has one entry for each topic or job that somebody waits for, and no others. -/
structure Exact (table : RegistrationTable) : Prop where
  topics : ∀ topic, table.Lists (idsOn topic table.listening) fun r =>
    ∃ topics, r.request.trigger = .message topics ∧ topic ∈ topics
  topics_filled : ∀ entry ∈ table.listening, entry.2 ≠ []
  topics_sorted : Dict.Sorted table.listening
  kills : ∀ job, table.Lists (table.waitingFor job) fun r => r.request.trigger = .kill job
  kills_filled : ∀ entry ∈ table.kills, entry.2 ≠ []
  kills_sorted : Dict.Sorted table.kills
  devices : table.Lists table.deviceEvents fun r => ∃ e, r.request.trigger = .deviceEvent e
  listeners : ∀ topic, table.Selects (table.listeners topic) fun r =>
    ∃ topics, r.request.trigger = .message topics ∧ topic ∈ topics
  deviceListeners : ∀ driver device topic,
    table.Selects (table.deviceListeners driver device topic) fun r =>
      ∃ e, r.request.trigger = .deviceEvent e ∧
        (e.filter = .class driver ∨ e.filter = .individual device) ∧
        ∀ topics, e.topics = some topics → topic ∈ topics

theorem fires_iff {e : DeviceEventTrigger} {driver : DriverId} {device : DeviceId} :
    e.fires driver device topic = true ↔
      (e.filter = .class driver ∨ e.filter = .individual device) ∧
        ∀ topics, e.topics = some topics → topic ∈ topics := by
  obtain ⟨filter, topics⟩ := e
  unfold DeviceEventTrigger.fires DeviceEventTrigger.selects DeviceEventTrigger.listensTo
  cases filter <;> cases topics <;> simp

theorem Ordered.exact (h : table.Ordered next) : table.Exact := by
  have htopics : ∀ topic, table.Lists (idsOn topic table.listening) fun r =>
      ∃ topics, r.request.trigger = .message topics ∧ topic ∈ topics := by
    refine fun topic => ⟨h.topics topic, fun id => ?_⟩
    simp only [← mem_topics_iff]
    exact h.tidy.indexed.mem_iff
  have hdevices : table.Lists table.deviceEvents fun r => ∃ e, r.request.trigger = .deviceEvent e := by
    refine ⟨h.devices, fun id => ?_⟩
    simp only [← awaitsDevices_iff]
    exact h.tidy.devices id
  refine ⟨htopics, ?_, h.tidy.sorted_topics, ?_, ?_, h.tidy.sorted_kills, hdevices, ?_, ?_⟩
  · rintro ⟨topic, ids⟩ hmem rfl
    exact h.tidy.indexed.filled topic (Dict.find?_of_mem h.tidy.sorted_topics hmem)
  · refine fun job => ⟨h.kills job, fun id => ?_⟩
    simp only [← awaited?_eq_some]
    exact h.tidy.kills job id
  · rintro ⟨job, ids⟩ hmem rfl
    exact h.tidy.kills_filled job (Dict.find?_of_mem h.tidy.sorted_kills hmem)
  · exact fun topic => (htopics topic).selects h.tidy.indexed.id_eq
  · intro driver device topic
    refine (hdevices.selects h.tidy.indexed.id_eq).filter fun r => ?_
    simp only [← fires_iff]
    cases htrigger : r.request.trigger <;> simp

theorem Indexed.mem_insert_fst (h : table.Indexed) (hr : table.get? r.id = none) :
    topic ∈ (table.insert r).1 ↔
      table.listeners topic = [] ∧ (table.insert r).2.listeners topic ≠ [] := by
  rw [insert_fst, mem_fresh, Ne, (h.insert hr).listeners_eq_nil_iff, h.listeners_eq_nil_iff,
    h.idsOn_insert hr]
  split <;> simp_all

/-- The topics that a removal answers are those that lose their last listener. -/
theorem Indexed.mem_orphaned_iff (h : table.Indexed) (hr : table.get? id = some r) :
    topic ∈ (unlisten id r.topics table.listening).1 ↔
      table.listeners topic ≠ [] ∧ (table.remove id).2.listeners topic = [] := by
  simp only [ne_eq, mem_orphaned h.filled, (h.remove id).listeners_eq_nil_iff,
    h.listeners_eq_nil_iff, h.idsOn_remove]
  constructor
  · rintro ⟨-, hne, hnil⟩
    exact ⟨hne, hnil⟩
  · rintro ⟨hne, hnil⟩
    refine ⟨?_, hne, hnil⟩
    -- whoever listened on the topic last is the one that is removed
    obtain ⟨k, hk⟩ := List.exists_mem_of_ne_nil _ hne
    have hself : k = id := by
      rw [List.filter_eq_nil_iff] at hnil
      simpa using hnil k hk
    obtain ⟨r', hr', ht⟩ := h.mem_iff.1 hk
    rw [hself, hr] at hr'
    cases hr'
    exact ht

/-- The indices of every table that was built up with increasing identifiers are exact. An insertion
adds the one registration and answers each topic that gains its first listener, a removal takes the one
registration out and answers each topic that loses its last. -/
theorem Grown.indices_exact (h : Grown next table) :
    table.Exact ∧
    (∀ r : Registration, next ≤ r.id →
      (∀ k, (table.insert r).2.get? k = if r.id = k then some r else table.get? k) ∧
      (table.insert r).1.Nodup ∧ ∀ topic, topic ∈ (table.insert r).1 ↔
        table.listeners topic = [] ∧ (table.insert r).2.listeners topic ≠ []) ∧
    ∀ id, (∀ k, (table.remove id).2.get? k = if id = k then none else table.get? k) ∧
      match table.get? id with
      | none => table.remove id = (none, table)
      | some r => ∃ orphaned, (table.remove id).1 = some (r, orphaned) ∧ orphaned.Nodup ∧
          ∀ topic, topic ∈ orphaned ↔
            table.listeners topic ≠ [] ∧ (table.remove id).2.listeners topic = [] := by
  have hordered := h.ordered
  have hindexed := hordered.tidy.indexed
  refine ⟨hordered.exact, ?_, ?_⟩
  · intro r later
    refine ⟨get?_insert r table, ?_, fun topic => ?_⟩
    · rw [insert_fst]
      exact nodup_fresh _ _ _
    · exact hindexed.mem_insert_fst (hordered.get?_eq_none later)
  · intro id
    refine ⟨get?_remove id table, ?_⟩
    cases hr : table.get? id with
    | none => exact remove_of_none hr
    | some r =>
      refine ⟨_, remove_fst hr, nodup_orphaned hindexed.filled id _, fun topic => ?_⟩
      exact hindexed.mem_orphaned_iff hr

/-- A callback of the porch. -/
def porch (id : RegistrationId) (trigger : Trigger) : Registration where
  id
  request :=
    { program := "porch", function := { name := "light", mode := .allocate (.user "porch") }, trigger }

/-- Who listens for events in the hall, of whatever device it is. -/
def hall : Trigger := .deviceEvent { filter := .class ⟨"acme", "bell"⟩, topics := some ["pressed"] }

/-- Seven callbacks were registered, of which two are gone: one for messages, which named one topic twice
and shared each of its topics with another, and one for the end of a job that another waits for. -/
def porchTable : RegistrationTable :=
  let bells := (({} : RegistrationTable).insert (porch 1 (.message ["bell", "door", "bell"]))).2
  let doors := ((bells.insert (porch 2 (.message ["door"]))).2.insert (porch 3 (.kill 7))).2
  let jobs := ((doors.insert (porch 4 (.kill 7))).2.insert (porch 5 hall)).2
  let events := ((jobs.insert (porch 6 (.deviceEvent { filter := .individual "hall" }))).2.insert
    (porch 9 (.message ["bell"]))).2
  ((events.remove 1).2.remove 3).2

theorem grown_porchTable : Grown 10 porchTable := by
  have hbells := @Grown.insert 0 {} (porch 1 (.message ["bell", "door", "bell"])) .empty (Nat.zero_le 1)
  have hdoors := @Grown.insert 2 _ (porch 2 (.message ["door"])) hbells (Nat.le_refl 2)
  have hkill := @Grown.insert 3 _ (porch 3 (.kill 7)) hdoors (Nat.le_refl 3)
  have hkills := @Grown.insert 4 _ (porch 4 (.kill 7)) hkill (Nat.le_refl 4)
  have hclass := @Grown.insert 5 _ (porch 5 hall) hkills (Nat.le_refl 5)
  have hdevice := @Grown.insert 6 _ (porch 6 (.deviceEvent { filter := .individual "hall" })) hclass
    (Nat.le_refl 6)
  have hlast := @Grown.insert 7 _ (porch 9 (.message ["bell"])) hdevice (Nat.le_add_right 7 2)
  exact (hlast.remove 1).remove 3

/-- A further callback is the first one on one topic, and the second one leaves another alone. With the
fourth nobody waits for the job any more. -/
theorem Grown.porch_indices_exact :
    Grown 10 porchTable ∧ porchTable.Exact ∧
    (∀ topic, topic ∈ (porchTable.insert (porch 10 (.message ["lamp", "bell", "lamp"]))).1 ↔
      porchTable.listeners topic = [] ∧
        (porchTable.insert (porch 10 (.message ["lamp", "bell", "lamp"]))).2.listeners topic ≠ []) ∧
    (porchTable.insert (porch 10 (.message ["lamp", "bell", "lamp"]))).1 = ["lamp"] ∧
    (∃ orphaned, (porchTable.remove 2).1 = some (porch 2 (.message ["door"]), orphaned) ∧ "door" ∈ orphaned) ∧
    porchTable.kills = [(7, [4])] ∧ (porchTable.remove 4).2.Exact ∧ (porchTable.remove 4).2.kills = [] ∧
    porchTable.deviceEvents = [5, 6] ∧
    porch 5 hall ∈ porchTable.deviceListeners ⟨"acme", "bell"⟩ "hall" "pressed" ∧
    (porchTable.deviceListeners ⟨"acme", "bell"⟩ "hall" "held").map (·.id) = [6] := by
  obtain ⟨hexact, hinsert, hremove⟩ := grown_porchTable.indices_exact
  obtain ⟨hexact', -, -⟩ := (grown_porchTable.remove 4).indices_exact
  obtain ⟨-, -, hfresh⟩ := hinsert (porch 10 (.message ["lamp", "bell", "lamp"])) (Nat.le_refl 10)
  obtain ⟨orphaned, hremoved, -, horphaned⟩ := (hremove 2).2
  have hdoor : "door" ∈ orphaned := by
    rw [horphaned]
    exact ⟨List.cons_ne_nil _ _, rfl⟩
  have hhall : porch 5 hall ∈ porchTable.deviceListeners ⟨"acme", "bell"⟩ "hall" "pressed" := by
    refine ((hexact.deviceListeners _ _ _).2 _).2 ⟨rfl, _, rfl, Or.inl rfl, ?_⟩
    rintro topics ⟨⟩
    exact List.mem_cons_self
  exact ⟨grown_porchTable, hexact, hfresh, by decide, ⟨orphaned, hremoved, hdoor⟩, by decide, hexact',
    by decide, by decide, hhall, by decide⟩

end DriverHub.RegistrationTable
