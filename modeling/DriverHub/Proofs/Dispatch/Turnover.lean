import DriverHub.Proofs.Dispatch.Retrying

/-! What a call does to the registrations in the table. It takes some of those out that it names, and
enters what it brings, one request after another and each in the place of those that it replaces.
Everybody else stays, in the same order. -/

namespace DriverHub

/-- A registration of one of the requests, whose trigger named a topic that is not blank if it named
topics. -/
def Registration.Stems (brings : List RegisterRequest) (r : Registration) : Prop :=
  ∃ request ∈ brings, request.trigger.admitted?.isSome = true ∧ r.request = request.admitted

/-- Of a table some registrations were taken out that may be dropped, and then requests were entered that
were brought. -/
def Turned (drops : List RegistrationId) (brings : List RegisterRequest)
    (table table' : List Registration) : Prop :=
  ∃ dropped new, dropped ⊆ drops ∧ (∀ r ∈ new, r.Stems brings) ∧
    table' = unreplaced new (table.filter (·.id ∉ dropped)) ++ standing new

namespace Turned

variable {drops dropped : List RegistrationId} {brings : List RegisterRequest} {table : List Registration}

theorem of_filter (h : dropped ⊆ drops) : Turned drops brings table (table.filter (·.id ∉ dropped)) := by
  refine ⟨dropped, [], h, List.forall_mem_nil _, ?_⟩
  rw [unreplaced_nil]
  exact (List.append_nil _).symm

theorem refl : Turned drops brings table table := by
  have hnobody : Turned drops brings table (table.filter (·.id ∉ ([] : List RegistrationId))) :=
    of_filter (List.nil_subset drops)
  simpa using hnobody

theorem of_enter {request : RegisterRequest} (h : request ∈ brings)
    (hadmitted : request.trigger.admitted?.isSome = true) (id : RegistrationId) :
    Turned drops brings table
      ((table.filter fun r => !request.admitted.replaces r.request) ++ [⟨id, request.admitted⟩]) := by
  refine ⟨[], [⟨id, request.admitted⟩], List.nil_subset _, ?_, ?_⟩
  · intro r hr
    obtain rfl := List.mem_singleton.1 hr
    exact ⟨request, h, hadmitted, rfl⟩
  · simp [unreplaced, standing]

theorem mem_of_mem {table' : List Registration} {r : Registration}
    (h : Turned drops brings table table') (hr : r ∈ table) (hdrops : r.id ∉ drops)
    (hbrings : ∀ request ∈ brings, request.admitted.replaces r.request = false) : r ∈ table' := by
  obtain ⟨dropped, new, hdropped, hnew, rfl⟩ := h
  apply List.mem_append_left
  apply List.mem_filter.2
  constructor
  · exact List.mem_filter.2 ⟨hr, decide_eq_true fun hmem => hdrops (hdropped hmem)⟩
  · simp only [Bool.not_eq_true', List.any_eq_false]
    intro entered hentered
    obtain ⟨request, hrequest, -, heq⟩ := hnew entered hentered
    rw [heq, hbrings request hrequest]
    exact Bool.false_ne_true

end Turned

/-! ### What a call does -/

namespace DispatchCall

/-- The registrations that a call may take out of the table, if not for others that take their place. -/
def drops (s : DispatchState) : DispatchCall → List RegistrationId
  | unregister id => [id]
  | unregisterProgram program => s.table.ofProgram program
  | dropAnnotations driver device => s.table.annotating driver device
  | event (.timer id) => [id]
  | event (.jobTerminated job) => s.table.waitingFor job
  | _ => []

/-- The requests that a call may enter. -/
def brings (s : DispatchState) : DispatchCall → List RegisterRequest
  | register request => [request]
  | event .brokerConnected | event .retryPending => s.pending
  | _ => []

end DispatchCall

/-- A happening that is not a call leaves the table alone. -/
def Happening.drops (s : DispatchState) : Happening → List RegistrationId
  | call c => c.drops s
  | _ => []

def Happening.brings (s : DispatchState) : Happening → List RegisterRequest
  | call c => c.brings s
  | _ => []

namespace Dispatching

variable {W : Type} {R : Surroundings dispatchServices W} {s s' : DispatchState} {w w' : W}
  {table : List Registration} {queue : List RegisterRequest}

theorem leaves_deliverEach (params : Registration → List (String × ScriptType))
    (args : Registration → List Value) (rs : List Registration) :
    (deliverEach params args rs).Leaves (id : DispatchState → DispatchState) := by
  induction rs with
  | nil => trivial
  | cons r rest ih => exact fun _ => ih

theorem leaves_deliverMessage (topic payload : String) :
    (deliverMessage topic payload).Leaves (id : DispatchState → DispatchState) :=
  ⟨fun _ => rfl, fun _ => (leaves_deliverEach _ _ _).bind fun _ => trivial⟩

theorem leaves_emit (driver : DriverId) (device : DeviceId) (topic : String) (data : Value) :
    (emit driver device topic data).Leaves (id : DispatchState → DispatchState) :=
  ⟨fun _ => rfl, fun _ => (leaves_deliverEach _ _ _).bind fun _ => trivial⟩

theorem ensures_deliver (r : Registration) (params : List (String × ScriptType)) (args : List Value) :
    (deliver r params args).Ensures R s w fun _ s' _ => s' = s := fun _ _ _ => rfl

/-- A timer that fires takes its registration out, or nothing. -/
theorem ensures_fireTimer (h : Quiet R) (hs : s.Holds table queue) (id : RegistrationId) :
    (fireTimer id).Ensures R s w fun _ s' _ =>
      ∃ dropped ⊆ [id], s'.Holds (table.filter (·.id ∉ dropped)) queue := by
  have hnobody : ∃ dropped ⊆ [id], s.Holds (table.filter (·.id ∉ dropped)) queue :=
    ⟨[], List.nil_subset _, by simpa using hs⟩
  unfold fireTimer
  refine Flow.Ensures.bind (P := fun _ s' w' => s' = s ∧ w' = w) ⟨rfl, rfl⟩ ?_
  rintro trigger _ _ ⟨rfl, rfl⟩
  split
  · exact hnobody
  · refine Flow.Ensures.bind (ensures_detach h hs id) ?_
    rintro removed s₁ _ ⟨hs₁, rfl⟩
    have htaken : ∃ dropped ⊆ [id], s₁.Holds (table.filter (·.id ∉ dropped)) queue :=
      ⟨[id], List.Subset.refl _, by simpa using hs₁⟩
    cases removed with
    | none => exact htaken
    | some removed =>
      refine Flow.Ensures.bind (ensures_aside h rfl) ?_
      rintro now _ _ ⟨rfl, rfl⟩
      refine Flow.Ensures.bind (ensures_deliver _ _ _) ?_
      rintro _ _ _ rfl
      exact htaken
  · refine Flow.Ensures.bind (ensures_aside h rfl) ?_
    rintro _ _ _ ⟨rfl, rfl⟩
    exact hnobody

theorem ensures_deliverKills (h : Quiet R) (hs : s.Holds table queue) (ids : List RegistrationId) :
    (deliverKills ids).Ensures R s w fun _ s' _ => s'.Holds (table.filter (·.id ∉ ids)) queue := by
  induction ids generalizing s w table with
  | nil =>
    have heq : table.filter (·.id ∉ ([] : List RegistrationId)) = table := by simp
    rw [heq]
    exact hs
  | cons id rest ih =>
    have heq : table.filter (·.id ∉ id :: rest) =
        (table.filter (·.id ≠ id)).filter (·.id ∉ rest) := by
      simp [List.filter_filter, not_or, Bool.and_comm]
    rw [heq]
    unfold deliverKills
    refine Flow.Ensures.bind (ensures_detach h hs id) ?_
    rintro (_ | removed) s₁ _ ⟨hs₁, rfl⟩
    · exact ih hs₁
    · refine Flow.Ensures.bind (ensures_deliver _ _ _) ?_
      rintro _ _ w₂ rfl
      exact Flow.Ensures.bind (ih hs₁) fun _ _ _ hs₂ => hs₂

theorem ensures_jobTerminated (h : Quiet R) (hs : s.Holds table queue) (job : JobId) :
    (jobTerminated job).Ensures R s w fun _ s' _ =>
      s'.Holds (table.filter (·.id ∉ s.table.waitingFor job)) queue := by
  unfold jobTerminated
  refine Flow.Ensures.bind (P := fun ids s' w' => ids = s.table.waitingFor job ∧ s' = s ∧ w' = w)
    ⟨rfl, rfl, rfl⟩ ?_
  rintro _ _ _ ⟨rfl, rfl, rfl⟩
  refine Flow.Ensures.bind (ensures_deliverKills h hs _) ?_
  intro fired s₁ _ hs₁
  exact hs₁.congr rfl le_rfl rfl

end Dispatching

/-! ### Every call -/

variable {W : Type} {R : Surroundings dispatchServices W} {s s' : DispatchState} {w w' : W}

theorem Dispatched.holds (h : Dispatched s) : s.Holds s.table.registrations s.pending :=
  .of_sound h.sound h.tidy.sorted

theorem Dispatched.registered (h : Dispatched s) {request : RegisterRequest} {id : RegistrationId}
    (ends : Flow.Ends R (Dispatching.register request) s w (.ok id) s' w') :
    request.trigger.admitted?.isSome = true ∧
      s'.Holds ((s.table.registrations.filter fun r => !request.admitted.replaces r.request) ++
        [⟨id, request.admitted⟩]) s.pending := by
  have hregistered := Dispatching.ensures_registered (w := ()) quiet_anything h.holds request
  exact ((Flow.Ensures.anywhere (hregistered.mono fun _ _ _ h => h.2)).ends ends).2

theorem Dispatched.not_registered (h : Dispatched s) {request : RegisterRequest} {e : DispatchError}
    (ends : Flow.Ends R (Dispatching.register request) s w (.error e) s' w') :
    s'.table.registrations = s.table.registrations := by
  have hregistered := Dispatching.ensures_registered (w := ()) quiet_anything h.holds request
  exact ((Flow.Ensures.anywhere (hregistered.mono fun _ _ _ h => h.2)).ends ends).1.table

theorem Dispatched.turned_retryPending {n : Nat} (h : Dispatched s)
    (ends : Flow.Ends R Dispatching.retryPending s w n s' w') :
    Turned [] s.pending s.table.registrations s'.table.registrations := by
  obtain ⟨w₁, hqueued, -⟩ := Dispatching.ends_retryPending ends
  have hdrained := h.holds.requeue fun _ => []
  obtain ⟨attempts, hattempts, hswept, -⟩ := hdrained.exists_swept h.waits hqueued
  have hwaits : ∀ a ∈ attempts, a.request.Waits := fun a ha =>
    h.waits _ (hattempts ▸ List.mem_map_of_mem ha)
  have hs' := hdrained.swept hwaits hswept
  refine ⟨[], enteredIn attempts, List.Subset.refl _, ?_, ?_⟩
  · intro r hr
    obtain ⟨a, ha, hregistered⟩ := List.mem_filterMap.1 hr
    obtain ⟨topics, hadmitted⟩ := RegisterRequest.listens_iff.2 (hwaits a ha).topics
    refine ⟨a.request, hattempts ▸ List.mem_map_of_mem ha, ?_, ?_⟩
    · rw [hadmitted]
      rfl
    unfold Retried.registered? at hregistered
    split at hregistered <;> cases hregistered
    rfl
  · rw [hs'.table]
    simp

theorem Turned.of_holds {drops dropped : List RegistrationId} {brings queue : List RegisterRequest}
    {table : List Registration} (h : dropped ⊆ drops)
    (hs' : s'.Holds (table.filter (·.id ∉ dropped)) queue) :
    Turned drops brings table s'.table.registrations := by
  rw [hs'.table]
  exact .of_filter h

/-- An event takes out of the table only what it drops, and enters only what it brings. -/
theorem Dispatched.turned_event (h : Dispatched s) {event : DispatchEvent} {x : Unit}
    (ends : Flow.Ends R (Dispatching.handle event) s w x s' w') :
    Turned ((DispatchCall.event event).drops s) ((DispatchCall.event event).brings s)
      s.table.registrations s'.table.registrations := by
  have hs := h.holds
  cases event with
  | timer id =>
    obtain ⟨n, s₁, w₁, hfired, hdone⟩ := Flow.Ends.of_bind ends
    cases hdone
    obtain ⟨dropped, hdropped, hs'⟩ :=
      (Flow.Ensures.anywhere (Dispatching.ensures_fireTimer quiet_anything hs id)).ends hfired
    exact .of_holds hdropped hs'
  | message topic payload =>
    obtain ⟨n, s₁, w₁, hdelivered, hdone⟩ := Flow.Ends.of_bind ends
    cases hdone
    obtain rfl := (Dispatching.leaves_deliverMessage topic payload).ends hdelivered
    exact .refl
  | jobTerminated job =>
    obtain ⟨n, s₁, w₁, hended, hdone⟩ := Flow.Ends.of_bind ends
    cases hdone
    have hs' :=
      (Flow.Ensures.anywhere (Dispatching.ensures_jobTerminated quiet_anything hs job)).ends hended
    exact .of_holds (List.Subset.refl _) hs'
  | deviceEvent driver device topic data =>
    obtain ⟨n, s₁, w₁, hdelivered, hdone⟩ := Flow.Ends.of_bind ends
    cases hdone
    obtain rfl := (Dispatching.leaves_emit driver device topic data).ends hdelivered
    exact .refl
  | brokerConnected =>
    obtain ⟨n, w₁, hretried⟩ := Dispatching.ends_resubscribe ends
    exact h.turned_retryPending hretried
  | retryPending =>
    obtain ⟨n, s₁, w₁, hretried, hdone⟩ := Flow.Ends.of_bind ends
    cases hdone
    exact h.turned_retryPending hretried

/-- Whatever happens takes out of the table only what it drops, and enters only what it brings. -/
theorem Dispatched.turned (h : Dispatched s) {happening : Happening} {x : happening.Result}
    (ends : Flow.Ends R happening.flow s w x s' w') :
    Turned (happening.drops s) (happening.brings s) s.table.registrations s'.table.registrations := by
  have hs := h.holds
  cases happening with
  | brokerSet | jobStarted | jobRemoved =>
    cases ends with
    | access rest =>
      cases rest
      exact .refl
  | call c =>
    cases c with
    | register request =>
      cases x with
      | ok id =>
        obtain ⟨hadmitted, hs'⟩ := h.registered ends
        rw [hs'.table]
        exact .of_enter List.mem_cons_self hadmitted id
      | error e =>
        rw [h.not_registered ends]
        exact .refl
    | unregister id =>
      have hs' := (Flow.Ensures.anywhere ((Dispatching.ensures_unregister quiet_anything hs id).mono
        fun _ _ _ h => h.1)).ends ends
      have heq : s.table.registrations.filter (·.id ≠ id) =
          s.table.registrations.filter (·.id ∉ [id]) := by simp
      rw [heq] at hs'
      exact .of_holds (List.Subset.refl _) hs'
    | unregisterProgram program =>
      cases ends with
      | access rest =>
        have hs' := (Flow.Ensures.anywhere ((Dispatching.ensures_unregisterAll quiet_anything hs
          (s.table.ofProgram program)).mono fun _ _ _ h => h.1)).ends rest
        exact .of_holds (List.Subset.refl _) hs'
    | dropAnnotations driver device =>
      have hqueue := hs.requeue (·.filter fun r => !r.annotates driver device)
      cases ends with
      | access rest =>
        cases rest with
        | access rest =>
          have hs' := (Flow.Ensures.anywhere ((Dispatching.ensures_unregisterAll quiet_anything hqueue
            (s.table.annotating driver device)).mono fun _ _ _ h => h.1)).ends rest
          exact .of_holds (List.Subset.refl _) hs'
    | event e => exact h.turned_event ends

end DriverHub
