import DriverHub.Proofs.Dispatch.Entries
import Mathlib.Data.List.Perm.Subperm

/-! The annotations of a device that are in the table or wait in the queue, by their callbacks. What
others do may take some of them away, but adds none. -/

namespace DriverHub

namespace Dict

variable {κ α : Type} [DecidableEq κ] [LT κ] [DecidableLT κ]

theorem insert_subperm (key : κ) (value : α) (dict : Dict κ α) :
    (Dict.insert key value dict).Subperm ((key, value) :: dict) := by
  induction dict with
  | nil => exact .refl _
  | cons e rest ih =>
    obtain ⟨k, v⟩ := e
    unfold Dict.insert
    split
    · exact .refl _
    · split
      · exact ((List.sublist_cons_self _ _).cons_cons _).subperm
      · exact ((List.subperm_cons _).2 ih).trans (List.Perm.swap _ _ _).subperm

theorem erase_insert (key : κ) (value : α) (dict : Dict κ α) :
    Dict.erase key (Dict.insert key value dict) = Dict.erase key dict := by
  induction dict with
  | nil => simp [Dict.insert, Dict.erase]
  | cons e rest ih =>
    obtain ⟨k, v⟩ := e
    unfold Dict.insert
    split
    · simp [Dict.erase]
    · split
      · next hk => simp [Dict.erase, hk]
      · unfold Dict.erase at ih ⊢
        rw [List.filter_cons, List.filter_cons, ih]

/-- To what an entry is not among, it adds nothing. -/
theorem filter_insert_sublist {p : κ × α → Bool} {key : κ} {value : α} (h : p (key, value) = false)
    (dict : Dict κ α) : ((Dict.insert key value dict).filter p).Sublist (dict.filter p) := by
  induction dict with
  | nil => simp [Dict.insert, h]
  | cons e rest ih =>
    obtain ⟨k, v⟩ := e
    unfold Dict.insert
    split
    · rw [List.filter_cons_of_neg (by simp [h])]
    · split
      · rw [List.filter_cons_of_neg (by simp [h])]
        exact (List.sublist_cons_self _ _).filter p
      · rw [List.filter_cons, List.filter_cons]
        split
        · exact ih.cons_cons _
        · exact ih

end Dict

/-! ### Callbacks -/

namespace RegisterRequest

variable {driver : DriverId} {device : DeviceId} {request : RegisterRequest}

/-- Who asks for less is told of more annotations. -/
theorem annotates_of {driver driver' : Option DriverId} {device device' : Option DeviceId}
    (h : request.annotates driver device = true) (hdriver : driver' = none ∨ driver' = driver)
    (hdevice : device' = none ∨ device' = device) : request.annotates driver' device' = true := by
  unfold annotates at h ⊢
  split at h
  · next horigin hmode =>
    rw [Bool.and_eq_true] at h
    rw [Bool.and_eq_true]
    refine ⟨?_, ?_⟩
    · rcases hdriver with rfl | rfl
      · rfl
      · exact h.1
    · rcases hdevice with rfl | rfl
      · rfl
      · exact h.2
  · cases h

theorem annotates_of_driver {driver : Option DriverId} {device : Option DeviceId}
    (h : request.annotates driver device = true) : request.annotates none device = true :=
  annotates_of h (.inl rfl) (.inr rfl)

theorem exists_annotates (h : request.annotates none (some device) = true) :
    ∃ driver, request.annotates (some driver) (some device) = true := by
  unfold annotates at h ⊢
  split at h
  · next driver _ horigin hmode => exact ⟨driver, by simpa using h⟩
  · cases h

/-- The callbacks of the requests that come from annotations of the driver on the device. -/
def callbacks (driver : DriverId) (device : DeviceId) (requests : List RegisterRequest) :
    List String :=
  (requests.filter (·.annotates (some driver) (some device))).map (·.function.name)

theorem callbacks_append (requests requests' : List RegisterRequest) :
    callbacks driver device (requests ++ requests') =
      callbacks driver device requests ++ callbacks driver device requests' := by
  unfold callbacks
  rw [List.filter_append, List.map_append]

theorem callbacks_eq_nil {requests : List RegisterRequest}
    (h : ∀ request ∈ requests, request.annotates (some driver) (some device) = false) :
    callbacks driver device requests = [] := by
  unfold callbacks
  rw [List.filter_eq_nil_iff.2 fun request hrequest => by simp [h request hrequest], List.map_nil]

theorem callbacks_singleton (request : RegisterRequest) : callbacks driver device [request] =
    if request.annotates (some driver) (some device) then [request.function.name] else [] := by
  unfold callbacks
  rw [List.filter_cons]
  split <;> rfl

theorem callbacks_filter (requests : List RegisterRequest) :
    callbacks driver device (requests.filter (·.annotates none (some device))) =
      callbacks driver device requests := by
  unfold callbacks
  rw [List.filter_filter]
  refine congrArg _ (List.filter_congr fun request _ => ?_)
  cases h : request.annotates (some driver) (some device) with
  | true => rw [annotates_of_driver h, Bool.and_self]
  | false => rfl

theorem callbacks_subperm {requests requests' : List RegisterRequest}
    (h : requests.Subperm requests') :
    (callbacks driver device requests).Subperm (callbacks driver device requests') := by
  obtain ⟨between, hperm, hsublist⟩ := h
  exact ⟨callbacks driver device between, (hperm.filter _).map _, (hsublist.filter _).map _⟩

end RegisterRequest

open RegisterRequest

namespace RegistrationTable

/-- The requests of the registrations. -/
def requests (table : RegistrationTable) : List RegisterRequest := table.registrations.map (·.request)

theorem requests_eq (table : RegistrationTable) : table.requests = table.all.map (·.2.request) := by
  unfold requests registrations Dict.values
  rw [List.map_map]
  rfl

/-- The entries that come from annotations on the device. -/
def entriesOn (device : DeviceId) (table : RegistrationTable) : Dict RegistrationId Registration :=
  table.all.filter (·.2.request.annotates none (some device))

/-- Every registration stands under its own number. -/
def Labelled (table : RegistrationTable) : Prop := ∀ e ∈ table.all, e.2.id = e.1

theorem Labelled.insert {table : RegistrationTable} (h : table.Labelled) (r : Registration) :
    (table.insert r).2.Labelled := by
  intro e he
  rw [all_insert] at he
  rcases Dict.mem_insert he with rfl | he
  · rfl
  · exact h e he

theorem Labelled.remove {table : RegistrationTable} (h : table.Labelled) (id : RegistrationId) :
    (table.remove id).2.Labelled := by
  intro e he
  rw [all_remove] at he
  exact h e (Dict.mem_of_mem_erase he)

end RegistrationTable

namespace DispatchState

/-- All requests, those in the table and those in the queue. -/
def requests (s : DispatchState) : List RegisterRequest := s.table.requests ++ s.pending

/-- The state without the registration, where it is not in the table. -/
def without (id : RegistrationId) (s : DispatchState) : DispatchState :=
  { s with table := (s.table.remove id).2 }

/-- On the way from one state to another, no annotation on the device has been added. -/
structure Spares (device : DeviceId) (s s' : DispatchState) : Prop where
  table : (s'.table.entriesOn device).Sublist (s.table.entriesOn device)
  queue : (s'.pending.filter (·.annotates none (some device))).Sublist
    (s.pending.filter (·.annotates none (some device)))

namespace Spares

variable {device : DeviceId} {s s' s'' : DispatchState}

theorem refl (device : DeviceId) (s : DispatchState) : Spares device s s := ⟨.refl _, .refl _⟩

theorem trans (h : Spares device s s') (h' : Spares device s' s'') : Spares device s s'' :=
  ⟨h'.table.trans h.table, h'.queue.trans h.queue⟩

theorem of_eq (htable : s'.table = s.table) (hqueue : s'.pending = s.pending) :
    Spares device s s' := by
  refine ⟨?_, ?_⟩
  · rw [htable]
  · rw [hqueue]

theorem requeue {queue : List RegisterRequest}
    (h : (queue.filter (·.annotates none (some device))).Sublist
      (s.pending.filter (·.annotates none (some device)))) :
    Spares device s { s with pending := queue } := ⟨.refl _, h⟩

theorem remove (id : RegistrationId) : Spares device s (s.without id) := by
  refine ⟨?_, .refl _⟩
  unfold RegistrationTable.entriesOn without
  rw [RegistrationTable.all_remove]
  exact List.filter_sublist.filter _

theorem insert {r : Registration} (h : r.request.annotates none (some device) = false) :
    Spares device s { s with table := (s.table.insert r).2 } := by
  refine ⟨?_, .refl _⟩
  unfold RegistrationTable.entriesOn
  rw [RegistrationTable.all_insert]
  exact Dict.filter_insert_sublist h _

theorem without (h : Spares device s s') (id : RegistrationId) :
    Spares device (s.without id) (s'.without id) := by
  refine ⟨?_, h.queue⟩
  have hcomm : ∀ table : RegistrationTable,
      (table.remove id).2.entriesOn device = Dict.erase id (table.entriesOn device) := by
    intro table
    unfold RegistrationTable.entriesOn
    rw [RegistrationTable.all_remove]
    exact List.filter_comm _ _ _
  unfold DispatchState.without
  rw [hcomm, hcomm]
  exact h.table.filter _

theorem mem_table (h : Spares device s s') {e : RegistrationId × Registration}
    (he : e ∈ s'.table.entriesOn device) : e ∈ s.table.entriesOn device := h.table.subset he

theorem callbacks (h : Spares device s s') (driver : DriverId) :
    (callbacks driver device s'.requests).Subperm (callbacks driver device s.requests) := by
  have hrequests : ∀ s : DispatchState, RegisterRequest.callbacks driver device s.requests =
      RegisterRequest.callbacks driver device ((s.table.entriesOn device).map (·.2.request) ++
        s.pending.filter (·.annotates none (some device))) := by
    intro s
    unfold requests RegistrationTable.entriesOn
    rw [RegistrationTable.requests_eq, ← callbacks_filter, List.filter_append, List.filter_map]
    rfl
  rw [hrequests, hrequests]
  exact callbacks_subperm ((h.table.map _).append h.queue).subperm

end Spares

/-! ### Quotas -/

/-- For each driver, there are no more annotations on the device than are allowed, each callback
counted. -/
def Within (device : DeviceId) (allowed : DriverId → List String) (s : DispatchState) : Prop :=
  ∀ driver, (callbacks driver device s.requests).Subperm (allowed driver)

namespace Within

variable {device : DeviceId} {allowed allowed' : DriverId → List String} {s s' : DispatchState}

theorem mono (h : s.Within device allowed)
    (hallowed : ∀ driver, (allowed driver).Subperm (allowed' driver)) : s.Within device allowed' :=
  fun driver => (h driver).trans (hallowed driver)

theorem spares (h : s.Within device allowed) (hspares : Spares device s s') :
    s'.Within device allowed :=
  fun driver => (hspares.callbacks driver).trans (h driver)

/-- A registration adds itself, and taking it out again leaves no more than before. -/
theorem insert (h : s.Within device allowed) (r : Registration) :
    DispatchState.Within device (fun driver => callbacks driver device [r.request] ++ allowed driver)
        { s with table := (s.table.insert r).2 } ∧
      DispatchState.Within device allowed
        (DispatchState.without r.id { s with table := (s.table.insert r).2 }) := by
  constructor
  · intro driver
    have hrequests : DispatchState.requests { s with table := (s.table.insert r).2 } =
        (Dict.insert r.id r s.table.all).map (·.2.request) ++ s.pending := by
      unfold requests
      rw [RegistrationTable.requests_eq, RegistrationTable.all_insert]
    have hsubperm : ((Dict.insert r.id r s.table.all).map (·.2.request) ++ s.pending).Subperm
        ([r.request] ++ s.requests) := by
      obtain ⟨between, hperm, hsublist⟩ := Dict.insert_subperm r.id r s.table.all
      refine ⟨between.map (·.2.request) ++ s.pending, (hperm.map _).append_right _, ?_⟩
      unfold requests
      rw [RegistrationTable.requests_eq]
      exact (hsublist.map (·.2.request)).append_right _
    rw [hrequests]
    refine (callbacks_subperm hsubperm).trans ?_
    rw [callbacks_append]
    exact (List.subperm_append_left _).2 (h driver)
  · refine (h.spares (.remove r.id)).spares ⟨?_, .refl _⟩
    unfold without RegistrationTable.entriesOn
    rw [RegistrationTable.all_remove, RegistrationTable.all_remove, RegistrationTable.all_insert,
      Dict.erase_insert]

theorem enqueue (h : s.Within device allowed) (request : RegisterRequest) :
    DispatchState.Within device (fun driver => callbacks driver device [request] ++ allowed driver)
      { s with pending := s.pending ++ [request] } := by
  intro driver
  have hrequests : DispatchState.requests { s with pending := s.pending ++ [request] } =
      s.requests ++ [request] := (List.append_assoc _ _ _).symm
  rw [hrequests, callbacks_append]
  exact List.perm_append_comm.subperm.trans ((List.subperm_append_left _).2 (h driver))

end Within

end DispatchState

end DriverHub
