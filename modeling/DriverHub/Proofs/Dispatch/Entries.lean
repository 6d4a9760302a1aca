import DriverHub.Dispatch.Register
import DriverHub.Proofs.Dispatch.Table
import DriverHub.Proofs.Flow.Ends
import Mathlib.Order.Lattice

/-! The registrations in the table and the queued requests, as two lists. What dropping leaves of them
does not depend on what the broker, the clock and the log answer; where a request goes that is
registered does. -/

namespace DriverHub

/-! ### The table as a list -/

theorem Dict.insert_of_lt {κ α : Type} [DecidableEq κ] [LT κ] [DecidableLT κ]
    [IsStrictTotalOrder κ (· < ·)] {key : κ} {value : α} {dict : Dict κ α}
    (h : ∀ e ∈ dict, e.1 < key) : Dict.insert key value dict = dict ++ [(key, value)] := by
  induction dict with
  | nil => rfl
  | cons e rest ih =>
    obtain ⟨k, v⟩ := e
    have hk : k < key := h _ List.mem_cons_self
    rw [Dict.insert, if_neg (asymm hk), if_neg (ne_of_irrefl hk).symm,
      ih fun e he => h e (List.mem_cons_of_mem _ he), List.cons_append]

namespace RegistrationTable

theorem all_insert (r : Registration) (table : RegistrationTable) :
    (table.insert r).2.all = Dict.insert r.id r table.all := by
  unfold insert
  split <;> rfl

theorem all_remove (id : RegistrationId) (table : RegistrationTable) :
    (table.remove id).2.all = Dict.erase id table.all := by
  unfold remove
  split
  · next h => exact (Dict.erase_of_find? h).symm
  · split <;> rfl

end RegistrationTable

/-- What the dispatcher holds: the registrations in the table, in the order in which they came, and
the requests in the queue. -/
structure DispatchState.Holds (s : DispatchState) (table : List Registration)
    (queue : List RegisterRequest) : Prop where
  sound : s.Sound
  sorted : Dict.Sorted s.table.all
  table : s.table.registrations = table
  queue : s.pending = queue

namespace DispatchState.Holds

variable {s : DispatchState} {table : List Registration} {queue : List RegisterRequest}

theorem nothing : DispatchState.Holds {} [] [] := ⟨⟨.empty, nofun⟩, .nil, rfl, rfl⟩

theorem of_sound (hs : s.Sound) (sorted : Dict.Sorted s.table.all) :
    s.Holds s.table.registrations s.pending := ⟨hs, sorted, rfl, rfl⟩

theorem get?_of_mem (h : s.Holds table queue) {e : RegistrationId × Registration}
    (he : e ∈ s.table.all) : s.table.get? e.1 = some e.2 := Dict.find?_of_mem h.sorted he

theorem map_id (h : s.Holds table queue) : table.map (·.id) = s.table.all.map (·.1) := by
  rw [← h.table, RegistrationTable.registrations, Dict.values, List.map_map]
  refine List.map_congr_left fun e he => ?_
  exact h.sound.indexed.id_eq (h.get?_of_mem he)

theorem nodup (h : s.Holds table queue) : (table.map (·.id)).Nodup := by
  rw [h.map_id]
  exact Dict.nodup_keys h.sorted

/-- A registration under the next number goes to the end of the table. -/
theorem insert (h : s.Holds table queue) (request : RegisterRequest) :
    DispatchState.Holds { s with
      nextId := s.nextId + 1, table := (s.table.insert ⟨s.nextId, request⟩).2 }
      (table ++ [⟨s.nextId, request⟩]) queue := by
  have hbelow : ∀ e ∈ s.table.all, e.1 < s.nextId := fun e he => h.sound.drawn (h.get?_of_mem he)
  refine ⟨⟨h.sound.indexed.insert h.sound.get?_nextId, ?_⟩, ?_, ?_, h.queue⟩
  · intro id r hr
    rw [RegistrationTable.get?_insert] at hr
    split at hr
    · next hid =>
      subst hid
      exact Nat.lt_succ_self _
    · exact Nat.lt_succ_of_lt (h.sound.drawn hr)
  · dsimp only
    rw [RegistrationTable.all_insert]
    exact Dict.sorted_insert _ _ h.sorted
  · dsimp only
    rw [RegistrationTable.registrations, RegistrationTable.all_insert, Dict.insert_of_lt hbelow,
      Dict.values, List.map_append, ← h.table]
    rfl

theorem remove (h : s.Holds table queue) (id : RegistrationId) :
    DispatchState.Holds { s with table := (s.table.remove id).2 }
      (table.filter (·.id ≠ id)) queue := by
  refine ⟨⟨h.sound.indexed.remove id, ?_⟩, ?_, ?_, h.queue⟩
  · intro k r hr
    rw [RegistrationTable.get?_remove] at hr
    split at hr
    · cases hr
    · exact h.sound.drawn hr
  · dsimp only
    rw [RegistrationTable.all_remove]
    exact Dict.sorted_erase id h.sorted
  · dsimp only
    rw [RegistrationTable.registrations, RegistrationTable.all_remove, ← h.table,
      RegistrationTable.registrations, Dict.values, Dict.values, Dict.erase, List.filter_map]
    congr 1
    refine List.filter_congr fun e he => ?_
    rw [Function.comp_apply, h.sound.indexed.id_eq (h.get?_of_mem he)]

theorem congr (h : s.Holds table queue) {s' : DispatchState} (htable : s'.table = s.table)
    (hnext : s.nextId ≤ s'.nextId) (hqueue : s'.pending = s.pending) : s'.Holds table queue := by
  refine ⟨⟨htable ▸ h.sound.indexed, ?_⟩, htable ▸ h.sorted, htable ▸ h.table, hqueue.trans h.queue⟩
  intro id r hr
  rw [htable] at hr
  exact Nat.lt_of_lt_of_le (h.sound.drawn hr) hnext

theorem requeue (h : s.Holds table queue) (f : List RegisterRequest → List RegisterRequest) :
    DispatchState.Holds { s with pending := f s.pending } table (f queue) :=
  ⟨⟨h.sound.indexed, h.sound.drawn⟩, h.sorted, h.table, congrArg f h.queue⟩

end DispatchState.Holds

/-! ### Questions on the side -/

/-- Questions to the broker, the clock and the log. -/
def DispatchService.isAside : DispatchService → Bool
  | subscribe _ | unsubscribe _ | now | armTimer .. | disarmTimer _ | log _ => true
  | _ => false

/-- Surroundings in which such questions change nothing. -/
def Quiet {W : Type} (R : Surroundings dispatchServices W) : Prop :=
  ∀ w q b v, q.isAside = true → R w q b v → v = w

theorem quiet_anything : Quiet fun (_ : Unit) _ _ _ => True := fun _ _ _ _ _ _ => rfl

namespace Dispatching

variable {W : Type} {R : Surroundings dispatchServices W} {s : DispatchState} {w : W}
  {table : List Registration} {queue : List RegisterRequest}

theorem ensures_aside (h : Quiet R) {q : DispatchService} (hq : q.isAside = true) :
    (ask q).Ensures R s w fun _ s' w' => s' = s ∧ w' = w := fun _ _ hb => ⟨rfl, h _ _ _ _ hq hb⟩

theorem ensures_unsubscribeEach (h : Quiet R) (failed : String) (topics : List String) :
    (unsubscribeEach failed topics).Ensures R s w fun _ s' w' => s' = s ∧ w' = w := by
  induction topics with
  | nil => exact ⟨rfl, rfl⟩
  | cons topic rest ih =>
    refine Flow.Ensures.bind (ensures_aside h rfl) ?_
    rintro (reason | ⟨⟩) _ _ ⟨rfl, rfl⟩
    · refine Flow.Ensures.bind (ensures_aside h rfl) ?_
      rintro _ _ _ ⟨rfl, rfl⟩
      exact ih
    · exact ih

theorem ensures_unsubscribeAll (h : Quiet R) (topics : List String) :
    (unsubscribeAll topics).Ensures R s w fun _ s' w' => s' = s ∧ w' = w := by
  unfold unsubscribeAll
  split
  · exact ⟨rfl, rfl⟩
  · change Flow.Ensures R (if s.broker = true then _ else _) s w _
    split
    · exact ensures_unsubscribeEach h _ _
    · exact ⟨rfl, rfl⟩

/-! ### Dropping -/

theorem ensures_detach (h : Quiet R) (hs : s.Holds table queue) (id : RegistrationId) :
    (detach id).Ensures R s w fun _ s' w' => s'.Holds (table.filter (·.id ≠ id)) queue ∧ w' = w := by
  have hremoved : (removeEntry id).Ensures R s w fun _ s' w' =>
      s'.Holds (table.filter (·.id ≠ id)) queue ∧ w' = w := ⟨hs.remove id, rfl⟩
  unfold detach
  refine Flow.Ensures.bind hremoved ?_
  rintro (_ | removed) s' w' ⟨hs', rfl⟩
  · exact ⟨hs', rfl⟩
  · have hdisarmed : DispatchState.Holds { s' with timers := s'.timers.filter (· ≠ id) }
        (table.filter (·.id ≠ id)) queue := hs'.congr rfl le_rfl rfl
    change Flow.Ensures R (if decide (id ∈ s'.timers) = true then _ else _) _ w' _
    split
    · refine Flow.Ensures.bind (ensures_aside h rfl) ?_
      rintro _ _ _ ⟨rfl, rfl⟩
      exact ⟨hdisarmed, rfl⟩
    · exact ⟨hdisarmed, rfl⟩

theorem ensures_unregister (h : Quiet R) (hs : s.Holds table queue) (id : RegistrationId) :
    (unregister id).Ensures R s w fun _ s' w' =>
      s'.Holds (table.filter (·.id ≠ id)) queue ∧ w' = w := by
  unfold unregister
  refine Flow.Ensures.bind (ensures_detach h hs id) ?_
  rintro (_ | removed) s' _ ⟨hs', rfl⟩
  · exact ⟨hs', rfl⟩
  · refine Flow.Ensures.bind (ensures_unsubscribeAll h _) ?_
    rintro _ _ _ ⟨rfl, rfl⟩
    exact ⟨hs', rfl⟩

theorem ensures_unregisterAll (h : Quiet R) (hs : s.Holds table queue) (ids : List RegistrationId) :
    (unregisterAll ids).Ensures R s w fun _ s' w' =>
      s'.Holds (table.filter (·.id ∉ ids)) queue ∧ w' = w := by
  induction ids generalizing s table with
  | nil =>
    refine ⟨?_, rfl⟩
    rw [List.filter_eq_self.2 (by simp)]
    exact hs
  | cons id rest ih =>
    refine Flow.Ensures.bind (ensures_unregister h hs id) ?_
    rintro found s₁ _ ⟨hs₁, rfl⟩
    refine Flow.Ensures.bind (ih hs₁) ?_
    rintro count s₂ _ ⟨hs₂, rfl⟩
    refine ⟨?_, rfl⟩
    rw [List.filter_filter] at hs₂
    have htable : table.filter (fun r => decide (r.id ∉ rest) && decide (r.id ≠ id)) =
        table.filter (·.id ∉ id :: rest) := by
      refine List.filter_congr fun r _ => ?_
      simp [not_or, Bool.and_comm]
    rwa [htable] at hs₂

theorem filter_not_mem {p : Registration → Bool} (hnodup : (table.map (·.id)).Nodup) :
    table.filter (·.id ∉ (table.filter p).map (·.id)) = table.filter fun r => !p r := by
  refine List.filter_congr fun r hr => ?_
  have hmem : r.id ∈ (table.filter p).map (·.id) ↔ p r = true := by
    rw [List.mem_map]
    constructor
    · rintro ⟨r', hr', hid⟩
      obtain ⟨hr', hp⟩ := List.mem_filter.1 hr'
      rwa [← List.inj_on_of_nodup_map hnodup hr' hr hid]
    · exact fun hp => ⟨r, List.mem_filter.2 ⟨hr, hp⟩, rfl⟩
  simp only [hmem]
  cases p r <;> rfl

theorem ensures_dropAnnotations (h : Quiet R) (hs : s.Holds table queue) (driver : Option DriverId)
    (device : Option DeviceId) :
    (dropAnnotations driver device).Ensures R s w fun _ s' w' =>
      s'.Holds (table.filter fun r => !r.request.annotates driver device)
        (queue.filter fun r => !r.annotates driver device) ∧ w' = w := by
  have hqueue := hs.requeue (·.filter fun r => !r.annotates driver device)
  have hids : s.table.annotating driver device =
      (table.filter fun r => r.request.annotates driver device).map (·.id) := by
    rw [RegistrationTable.annotating, hs.table]
  refine Flow.Ensures.mono (ensures_unregisterAll h hqueue _) ?_
  rintro _ s' _ ⟨hs', rfl⟩
  refine ⟨?_, rfl⟩
  simp only [hids] at hs'
  rwa [filter_not_mem hs.nodup] at hs'

/-! ### Registering -/

/-- Subscribing either comes to its end, or takes the registration out again. -/
theorem ensures_subscribeAll (h : Quiet R) (hs : s.Holds table queue) (id : RegistrationId)
    (subscribed topics : List String) (w : W) :
    (subscribeAll id subscribed topics).Ensures R s w fun x s' w' => w' = w ∧
      ((x = .ok () ∧ s' = s) ∨
        ∃ reason, x = .error (.broker reason) ∧ s'.Holds (table.filter (·.id ≠ id)) queue) := by
  induction topics generalizing subscribed with
  | nil => exact ⟨rfl, .inl ⟨rfl, rfl⟩⟩
  | cons topic rest ih =>
    refine Flow.Ensures.bind (ensures_aside h rfl) ?_
    rintro (reason | ⟨⟩) s w ⟨rfl, rfl⟩
    · have hremoved : (removeEntry id).Ensures R s w fun _ s' w' =>
          s'.Holds (table.filter (·.id ≠ id)) queue ∧ w' = w := ⟨hs.remove id, rfl⟩
      refine Flow.Ensures.bind hremoved ?_
      rintro (_ | removed) s' _ ⟨hs', rfl⟩
      · exact ⟨rfl, .inr ⟨reason, rfl, hs'⟩⟩
      · refine Flow.Ensures.bind (ensures_unsubscribeEach h _ _) ?_
        rintro _ _ _ ⟨rfl, rfl⟩
        exact ⟨rfl, .inr ⟨reason, rfl, hs'⟩⟩
    · exact ih _

theorem ensures_armTimer (h : Quiet R) (hs : s.Holds table queue) (id : RegistrationId)
    (trigger : Trigger) :
    (armTimer id trigger).Ensures R s w fun _ s' w' => s'.Holds table queue ∧ w' = w := by
  cases trigger with
  | atTime time =>
    refine Flow.Ensures.bind (ensures_aside h rfl) ?_
    rintro now _ _ ⟨rfl, rfl⟩
    refine Flow.Ensures.bind (ensures_aside h rfl) ?_
    rintro _ _ _ ⟨rfl, rfl⟩
    exact ⟨hs.congr rfl le_rfl rfl, rfl⟩
  | message | kill | deviceEvent => exact ⟨hs, rfl⟩

end Dispatching

/-! ### What is entered -/

/-- A request without its blank topics, as it stands in the table. -/
def RegisterRequest.admitted (request : RegisterRequest) : RegisterRequest :=
  match request.trigger.admitted? with
  | some trigger => { request with trigger }
  | none => request

theorem RegisterRequest.annotates_admitted (request : RegisterRequest) (driver : Option DriverId)
    (device : Option DeviceId) :
    request.admitted.annotates driver device = request.annotates driver device := by
  unfold admitted
  split <;> rfl

theorem Trigger.kept?_kept? {topics kept : List String} (h : admitted?.kept? topics = some kept) :
    admitted?.kept? kept = some kept := by
  unfold admitted?.kept? at h
  simp only at h
  split at h
  · cases h
  · next hempty =>
    cases h
    unfold admitted?.kept?
    simp only [List.filter_filter, Bool.and_self]
    rw [if_neg hempty]

theorem Trigger.admitted?_admitted? {trigger kept : Trigger} (h : trigger.admitted? = some kept) :
    kept.admitted? = some kept := by
  cases trigger with
  | message topics =>
    obtain ⟨topics', htopics, rfl⟩ := Option.map_eq_some_iff.1 h
    exact Option.map_eq_some_iff.2 ⟨topics', kept?_kept? htopics, rfl⟩
  | deviceEvent e =>
    unfold admitted? at h
    cases htopics : e.topics with
    | none =>
      simp only [htopics] at h
      cases h
      unfold admitted?
      simp only [htopics]
    | some topics =>
      simp only [htopics] at h
      obtain ⟨topics', htopics', rfl⟩ := Option.map_eq_some_iff.1 h
      exact Option.map_eq_some_iff.2 ⟨topics', kept?_kept? htopics', rfl⟩
  | kill | atTime =>
    cases h
    rfl

theorem RegisterRequest.admitted_of_some {request : RegisterRequest} {trigger : Trigger}
    (h : request.trigger.admitted? = some trigger) : request.admitted = { request with trigger } := by
  unfold admitted
  rw [h]

theorem RegisterRequest.admitted_admitted (request : RegisterRequest) :
    request.admitted.admitted = request.admitted := by
  cases h : request.trigger.admitted? with
  | none =>
    have hsame : request.admitted = request := by
      unfold admitted
      rw [h]
    rw [hsame, hsame]
  | some trigger =>
    have hkept : request.admitted.trigger.admitted? = some trigger := by
      rw [admitted_of_some h]
      exact Trigger.admitted?_admitted? h
    rw [admitted_of_some hkept, admitted_of_some h]

theorem Trigger.isSome_admitted?_message (topics : List String) :
    (message topics).admitted?.isSome = topics.any fun t => !Text.isBlankText t := by
  unfold admitted? admitted?.kept?
  cases hany : topics.any fun t => !Text.isBlankText t with
  | true =>
    obtain ⟨t, ht, hblank⟩ := List.any_eq_true.1 hany
    have hkept : (topics.filter fun t => !Text.isBlankText t) ≠ [] :=
      List.ne_nil_of_mem (List.mem_filter.2 ⟨ht, hblank⟩)
    simp [List.isEmpty_iff, hkept]
  | false =>
    have hkept : (topics.filter fun t => !Text.isBlankText t) = [] :=
      List.filter_eq_nil_iff.2 fun t ht => List.any_eq_false.1 hany t ht
    simp [hkept]

/-- What registering a request comes to: what is new in the table, and what has to wait. -/
inductive Entering (request : RegisterRequest) :
    Except DispatchError RegistrationId → List Registration → List RegisterRequest → Prop
  | refused (blank : request.trigger.admitted? = none) : Entering request (.error .noTopics) [] []
  | entered {id : RegistrationId} {trigger : Trigger}
      (admitted : request.trigger.admitted? = some trigger) :
    Entering request (.ok id) [⟨id, { request with trigger }⟩] []
  | prevented {trigger : Trigger} {e : DispatchError}
      (admitted : request.trigger.admitted? = some trigger) (transient : e.isTransient = true) :
    Entering request (.error e) [] [request]

theorem filter_new {table : List Registration} {r : Registration}
    (hnodup : ((table ++ [r]).map (·.id)).Nodup) : (table ++ [r]).filter (·.id ≠ r.id) = table := by
  rw [List.map_append, List.nodup_append] at hnodup
  rw [List.filter_append, List.filter_eq_self.2, List.filter_eq_nil_iff.2, List.append_nil]
  · simp
  · intro r' hr'
    have hne := hnodup.2.2 r'.id (List.mem_map_of_mem hr') r.id (by simp)
    simpa using hne

theorem DispatchState.Holds.filter_replaced {s : DispatchState} {table : List Registration}
    {queue : List RegisterRequest} (h : s.Holds table queue) {r : Registration}
    (hnodup : ((table ++ [r]).map (·.id)).Nodup) :
    (table ++ [r]).filter (·.id ∉ s.table.replacedBy r.request) =
      (table.filter fun old => !r.request.replaces old.request) ++ [r] := by
  rw [RegistrationTable.replacedBy, h.table, List.filter_append, Dispatching.filter_not_mem h.nodup]
  congr 1
  rw [List.map_append, List.nodup_append] at hnodup
  refine List.filter_eq_self.2 fun r' hr' => decide_eq_true ?_
  obtain rfl := List.mem_singleton.1 hr'
  rw [List.mem_map]
  rintro ⟨old, hold, hid⟩
  exact hnodup.2.2 old.id (List.mem_map_of_mem (List.mem_of_mem_filter hold)) r'.id (by simp) hid

theorem RegisterRequest.filter_not_replaces {request : RegisterRequest}
    (h : request.function.mode.isAdaptive = false) (table : List Registration) :
    (table.filter fun r => !request.replaces r.request) = table := by
  unfold replaces
  simp [h]

theorem RegisterRequest.function_admitted (request : RegisterRequest) :
    request.admitted.function = request.function := by
  unfold admitted
  split <;> rfl

theorem RegisterRequest.program_admitted (request : RegisterRequest) :
    request.admitted.program = request.program := by
  unfold admitted
  split <;> rfl

namespace DispatchAttempt

variable {W : Type} {R : Surroundings dispatchServices W} {s : DispatchState} {w : W}
  {table : List Registration} {queue : List RegisterRequest}

/-- Whether a trigger can be entered is only looked up. For messages nothing but a broker may be missing.
-/
theorem ensures_ready (trigger : Trigger) :
    (checkReady trigger).Ensures R s w fun x s' w' => s' = s ∧ w' = w ∧
      ∀ e, x = .error e → ∀ topics, trigger = .message topics → e = .noBroker := by
  cases trigger with
  | message topics =>
    change Attempt.Ensures R (if (!s.broker) = true then _ else _) s w _
    split
    · exact ⟨rfl, rfl, fun e he _ _ => (Except.error.inj he).symm⟩
    · exact ⟨rfl, rfl, nofun⟩
  | kill job =>
    change Attempt.Ensures R (if _ then _ else _) s w _
    split
    · exact ⟨rfl, rfl, nofun⟩
    · exact ⟨rfl, rfl, nofun⟩
  | atTime | deviceEvent => exact ⟨rfl, rfl, nofun⟩

/-- A request goes to the end of the table under the next number, and takes the place of those that it is
to replace. Or it fails, and then the table is as it was; for messages the reason may clear up. -/
theorem ensures_enter (h : Quiet R) (hs : s.Holds table queue) (request : RegisterRequest) :
    (enter request).Ensures R s w fun x s' w' => w' = w ∧
      match x with
      | .ok id => id = s.nextId ∧ request.trigger.admitted?.isSome = true ∧
          s'.Holds ((table.filter fun r => !request.admitted.replaces r.request) ++
            [⟨id, request.admitted⟩]) queue
      | .error e => s'.Holds table queue ∧
          ∀ topics, request.trigger.admitted? = some (.message topics) → e.isTransient = true := by
  unfold enter
  cases hadmitted : request.trigger.admitted? with
  | none => exact ⟨rfl, hs, nofun⟩
  | some trigger =>
    rw [RegisterRequest.admitted_of_some hadmitted, Attempt.ensures_bind, Attempt.ensures_some_some]
    refine Attempt.Ensures.bind (ensures_ready trigger) ?_ ?_
    · rintro ⟨⟩ s w ⟨rfl, rfl, -⟩
      let r : Registration := ⟨s.nextId, { request with trigger }⟩
      have hentered := hs.insert r.request
      change Attempt.Ensures R (Attempt.of (fun e => e) (Dispatching.subscribeAll r.id []
        (s.table.insert r).1) >>= fun _ => _) { s with
          nextId := s.nextId + 1, table := (s.table.insert r).2 } w _
      rw [Attempt.ensures_bind, Attempt.ensures_of]
      refine (Dispatching.ensures_subscribeAll h hentered r.id [] (s.table.insert r).1 w).mono ?_
      rintro x s' w' ⟨rfl, ⟨rfl, rfl⟩ | ⟨reason, rfl, hs'⟩⟩
      · -- the others leave once the new one is in place, when nothing can fail any more
        change Attempt.Ensures R (Attempt.lift (Dispatching.armTimer r.id trigger) >>= fun _ => _) _ w' _
        rw [Attempt.ensures_bind, Attempt.ensures_lift]
        refine (Dispatching.ensures_armTimer h hentered r.id trigger).mono ?_
        rintro _ s₁ _ ⟨hs₁, rfl⟩
        change Attempt.Ensures R (Attempt.lift (Dispatching.unregisterAll
          (s.table.replacedBy r.request)) >>= fun _ => _) s₁ _ _
        rw [Attempt.ensures_bind, Attempt.ensures_lift]
        refine (Dispatching.ensures_unregisterAll h hs₁ _).mono ?_
        rintro count s₂ _ ⟨hs₂, rfl⟩ b v hb
        obtain rfl := h _ _ _ _ rfl hb
        rw [hs.filter_replaced hentered.nodup] at hs₂
        exact ⟨rfl, rfl, rfl, hs₂⟩
      · rw [filter_new hentered.nodup] at hs'
        exact ⟨rfl, hs', fun _ _ => rfl⟩
    · rintro e s w ⟨rfl, rfl, he⟩
      refine ⟨rfl, hs, ?_⟩
      rintro topics ⟨⟩
      rw [he e rfl topics rfl]
      rfl

end DispatchAttempt

namespace Dispatching

variable {W : Type} {R : Surroundings dispatchServices W} {s : DispatchState} {w : W}
  {table : List Registration} {queue : List RegisterRequest}

/-- A request is entered as soon as it is registered, or not at all; then it waits in the queue if it may
succeed later and is to be retried. -/
theorem ensures_registered (h : Quiet R) (hs : s.Holds table queue) (request : RegisterRequest) :
    (register request).Ensures R s w fun x s' w' => w' = w ∧
      match x with
      | .ok id => id = s.nextId ∧ request.trigger.admitted?.isSome = true ∧
          s'.Holds ((table.filter fun r => !request.admitted.replaces r.request) ++
            [⟨id, request.admitted⟩]) queue
      | .error e => s'.Holds table
            (if e.isTransient ∧ request.tolerance = .retry then queue ++ [request] else queue) ∧
          ∀ topics, request.trigger.admitted? = some (.message topics) → e.isTransient = true := by
  unfold register
  refine Flow.Ensures.bind (DispatchAttempt.ensures_enter h hs request) ?_
  rintro (e | id) s w ⟨rfl, hs'⟩
  · obtain ⟨hs', htransient⟩ := hs'
    change Flow.Ensures R (if _ then _ else _) s w _
    split
    · next hqueued =>
      have hwaits := hs'.requeue (· ++ [request])
      refine Flow.Ensures.bind (ensures_aside h rfl) ?_
      rintro _ _ _ ⟨rfl, rfl⟩
      refine ⟨rfl, ?_, htransient⟩
      rw [if_pos hqueued]
      exact hwaits
    · next hqueued =>
      refine ⟨rfl, ?_, htransient⟩
      rw [if_neg hqueued]
      exact hs'
  · exact ⟨rfl, hs'⟩

/-- A request for messages that is to be retried is entered or waits in the queue. -/
theorem ensures_register_message (h : Quiet R) (hs : s.Holds table queue) {request : RegisterRequest}
    {topics : List String} (hadmitted : request.trigger.admitted? = some (.message topics))
    (hretry : request.tolerance = .retry) :
    (register request).Ensures R s w fun x s' w' => w' = w ∧
      match x with
      | .ok id => s'.Holds ((table.filter fun r => !request.admitted.replaces r.request) ++
          [⟨id, request.admitted⟩]) queue
      | .error e => e.isTransient = true ∧ s'.Holds table (queue ++ [request]) := by
  refine (ensures_registered h hs request).mono ?_
  rintro (e | id) s' w' ⟨rfl, hs'⟩
  · obtain ⟨hs', htransient⟩ := hs'
    have he : e.isTransient = true := htransient topics hadmitted
    rw [if_pos ⟨he, hretry⟩] at hs'
    exact ⟨rfl, he, hs'⟩
  · exact ⟨rfl, hs'.2.2⟩

/-- A request that is to be retried and could not be entered waits in the queue, unless that would be
of no use. -/
theorem ensures_register (h : Quiet R) (hs : s.Holds table queue) {request : RegisterRequest}
    {topics : List String} (hmode : request.function.mode.isAdaptive = false)
    (htopics : request.trigger = .message topics) (hretry : request.tolerance = .retry) :
    (register request).Ensures R s w fun x s' w' => w' = w ∧ ∃ new waiting,
      s'.Holds (table ++ new) (queue ++ waiting) ∧ Entering request x new waiting := by
  cases hadmitted : request.trigger.admitted? with
  | none =>
    unfold register DispatchAttempt.enter
    rw [hadmitted]
    refine ⟨rfl, [], [], ?_, .refused hadmitted⟩
    rwa [List.append_nil, List.append_nil]
  | some trigger =>
    obtain ⟨kept, rfl⟩ : ∃ kept, trigger = .message kept := by
      rw [htopics] at hadmitted
      obtain ⟨kept, -, hkept⟩ := Option.map_eq_some_iff.1 hadmitted
      exact ⟨kept, hkept.symm⟩
    refine (ensures_register_message h hs hadmitted hretry).mono ?_
    rintro (e | id) s' w' ⟨rfl, hs'⟩
    · refine ⟨rfl, [], [request], ?_, .prevented hadmitted hs'.1⟩
      rw [List.append_nil]
      exact hs'.2
    · have hadaptive : request.admitted.function.mode.isAdaptive = false := by
        rw [request.function_admitted, hmode]
      dsimp only at hs'
      rw [RegisterRequest.filter_not_replaces hadaptive,
        RegisterRequest.admitted_of_some hadmitted] at hs'
      refine ⟨rfl, _, [], ?_, .entered hadmitted⟩
      rwa [List.append_nil]

end Dispatching

end DriverHub
