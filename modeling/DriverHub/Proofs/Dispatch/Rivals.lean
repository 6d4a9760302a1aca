import DriverHub.Proofs.Dispatch.Adaptive

/-! An adaptive registration and its rivals in the queue. When it is registered it takes the place of the
one in the table, but requests for the same that were queued before stay in the queue. A sweep enters
them under later numbers, in its place; so it stays if and only if none was queued. -/

namespace DriverHub

variable {W : Type} {R : Surroundings dispatchServices W} {s s' : DispatchState} {w w' : W}

/-! ### Entries of the table -/

namespace DispatchState.Holds

variable {table : List Registration} {queue : List RegisterRequest} {r r' : Registration}

theorem get?_id (h : s.Holds table queue) (hr : r ∈ table) : s.table.get? r.id = some r := by
  rw [← h.table] at hr
  obtain ⟨id, hid⟩ := Dict.mem_values.1 hr
  have hfound : s.table.get? id = some r := h.get?_of_mem hid
  rwa [h.sound.indexed.id_eq hfound]

theorem id_lt (h : s.Holds table queue) (hr : r ∈ table) : r.id < s.nextId :=
  h.sound.drawn (h.get?_id hr)

theorem eq_of_id_eq (h : s.Holds table queue) (hr : r ∈ table) (hr' : r' ∈ table) (hid : r.id = r'.id) :
    r = r' := by
  have hfound := h.get?_id hr
  rw [hid, h.get?_id hr'] at hfound
  exact (Option.some.inj hfound).symm

end DispatchState.Holds

theorem RegisterRequest.not_annotates_of_isAdaptive {request : RegisterRequest}
    (h : request.function.mode.isAdaptive = true) (driver : Option DriverId) (device : Option DeviceId) :
    request.annotates driver device = false := by
  unfold annotates
  split
  · next hmode =>
    rw [hmode] at h
    cases h
  · rfl

/-! ### While nothing is done about a registration -/

namespace Happening

/-- A happening that is not about a registration: it does not end it, and does not register a request that
replaces it. -/
def Respects (b : Registration) : Happening → Prop
  | call (.register request) => request.admitted.replaces b.request = false
  | call (.unregister id) => id ≠ b.id
  | call (.unregisterProgram program) => program ≠ b.request.program
  | call (.event (.timer id)) => id ≠ b.id
  | call (.event (.jobTerminated job)) => b.request.trigger ≠ .kill job
  | _ => True

/-- Then it does not take it out of the table. -/
theorem Respects.not_mem_drops {happening : Happening} {b : Registration} (h : happening.Respects b)
    (hs : Dispatched s) (hb : b ∈ s.table.registrations)
    (hadaptive : b.request.function.mode.isAdaptive = true) : b.id ∉ happening.drops s := by
  have hselected {p : Registration → Bool}
      (hmem : b.id ∈ (s.table.registrations.filter p).map (·.id)) : p b = true := by
    obtain ⟨r, hr, hid⟩ := List.mem_map.1 hmem
    obtain ⟨hr, hp⟩ := List.mem_filter.1 hr
    rwa [← hs.holds.eq_of_id_eq hr hb hid]
  cases happening with
  | brokerSet | jobStarted | jobRemoved => simp [drops]
  | call c =>
    cases c with
    | register request => simp [drops, DispatchCall.drops]
    | unregister id => exact fun hmem => h (List.mem_singleton.1 hmem).symm
    | unregisterProgram program =>
      intro hmem
      exact h (of_decide_eq_true (hselected hmem)).symm
    | dropAnnotations driver device =>
      intro hmem
      have hannotates := hselected hmem
      rw [RegisterRequest.not_annotates_of_isAdaptive hadaptive] at hannotates
      cases hannotates
    | event e =>
      cases e with
      | timer id => exact fun hmem => h (List.mem_singleton.1 hmem).symm
      | jobTerminated job =>
        intro hmem
        obtain ⟨r, hr, hawaited⟩ := (hs.tidy.kills job b.id).1 hmem
        rw [hs.holds.get?_id hb] at hr
        cases hr
        exact h (RegistrationTable.awaited?_eq_some.1 hawaited)
      | message | deviceEvent | brokerConnected | retryPending =>
        simp [drops, DispatchCall.drops]

end Happening

/-- Requests come that do not replace one, and no others are queued. -/
def Intake.unrivalling (b : RegisterRequest) : Intake where
  tabled _ := True
  queued r := r.admitted.replaces b = false
  ends _ := True
  again _ _ := trivial

/-- The registration is in the table, and no request that replaces it is queued. -/
structure DispatchState.Unchallenged (b : Registration) (s : DispatchState) : Prop where
  stands : b ∈ s.table.registrations
  queue : ∀ r ∈ s.pending, r.admitted.replaces b.request = false

theorem Happening.Respects.unchallenged {happening : Happening} {x : happening.Result} {b : Registration}
    (h : happening.Respects b) (hs : Dispatched s) (hb : s.Unchallenged b)
    (hadaptive : b.request.function.mode.isAdaptive = true)
    (ends : Flow.Ends R happening.flow s w x s' w') : s'.Unchallenged b := by
  constructor
  · apply (hs.turned ends).mem_of_mem hb.stands (h.not_mem_drops hs hb.stands hadaptive)
    intro request hrequest
    cases happening with
    | brokerSet | jobStarted | jobRemoved => cases hrequest
    | call c =>
      cases c with
      | register other =>
        obtain rfl := List.mem_singleton.1 hrequest
        exact h
      | unregister | unregisterProgram | dropAnnotations => cases hrequest
      | event e =>
        cases e with
        | brokerConnected | retryPending => exact hb.queue request hrequest
        | timer | message | jobTerminated | deviceEvent => cases hrequest
  · cases happening with
    | brokerSet | jobStarted | jobRemoved =>
      cases ends with
      | access rest =>
        cases rest
        exact hb.queue
    | call c =>
      have hcovers : (Intake.unrivalling b.request).Covers c := by
        apply Intake.covers_of (fun _ _ => trivial)
        rintro request rfl
        exact ⟨fun _ => trivial, fun _ _ => h⟩
      have hwithin := (Intake.admits_flow hcovers).within hb.queue ends
      intro r hr
      rcases hwithin.queue r hr with hbefore | hnew
      · exact hb.queue r hbefore
      · exact hnew

theorem Followed.unchallenged {b : Registration} (hs : Dispatched s) (hb : s.Unchallenged b)
    (hadaptive : b.request.function.mode.isAdaptive = true)
    (h : Followed (Happening.Respects b) s s') : s'.Unchallenged b := by
  induction h with
  | nothing => exact hb
  | happen before respects ends ih => exact respects.unchallenged (hs.followed before) ih hadaptive ends

/-! ### The next sweep -/

namespace Dispatching

variable {table : List Registration}

/-- If the broker accepts them, queued requests put others in the place of a registration for good: it has
an earlier number than whatever they enter. -/
theorem ensures_registerQueued_replaced {b : Registration} (hs : s.Holds table [])
    (hbroker : s.broker = true) {requests : List RegisterRequest} (hrequests : ∀ r ∈ requests, r.Listens)
    (hid : b.id < s.nextId)
    (hb : b ∉ table ∨ ∃ r ∈ requests, r.admitted.replaces b.request = true) :
    (registerQueued requests).Ensures accepting s () fun _ s' _ => b ∉ s'.table.registrations := by
  induction requests generalizing s table with
  | nil =>
    have hout : b ∉ table := by simpa using hb
    change b ∉ s.table.registrations
    rwa [hs.table]
  | cons request rest ih =>
    obtain ⟨hrequest, hrest⟩ := List.forall_mem_cons.1 hrequests
    refine Flow.Ensures.bind (ensures_register_last hs hbroker hrequest) ?_
    rintro x s₁ _ ⟨⟨id, rfl⟩, hbroker₁, hs₁⟩
    -- the number is taken, so it does not come back with what is entered
    have hnew : b ≠ ⟨s.nextId, request.admitted⟩ := by
      rintro rfl
      exact Nat.lt_irrefl _ hid
    have hid₁ : b.id < s₁.nextId := by
      have hlast := hs₁.id_lt (List.mem_append_right _ List.mem_cons_self)
      exact Nat.lt_trans hid hlast
    refine Flow.Ensures.bind (ih hs₁ hbroker₁ hrest hid₁ ?_) fun _ _ _ hout => hout
    rcases hb with hout | ⟨r, hr, hreplaces⟩
    · left
      simp [hout, hnew]
    · rcases List.mem_cons.1 hr with rfl | hr
      · left
        simp [hreplaces, hnew]
      · exact .inr ⟨r, hr, hreplaces⟩

end Dispatching

/-- After a sweep in which the broker accepts everything, whoever is replaced by a queued request is gone.
-/
theorem Dispatched.not_mem_of_swept (hs : Dispatched s) (hbroker : s.broker = true) {b : Registration}
    (hid : b.id < s.nextId) {rival : RegisterRequest} (hrival : rival ∈ s.pending)
    (hreplaces : rival.admitted.replaces b.request = true) {n : Nat} {v v' : Unit}
    (ends : Flow.Ends accepting Dispatching.retryPending s v n s' v') :
    b ∉ s'.table.registrations := by
  obtain ⟨v₁, hqueued, -⟩ := Dispatching.ends_retryPending ends
  have hdrained := hs.holds.requeue fun _ => []
  have hlistens : ∀ r ∈ s.pending, r.Listens := fun r hr =>
    RegisterRequest.listens_iff.2 (hs.waits r hr).topics
  exact (Dispatching.ensures_registerQueued_replaced hdrained hbroker hlistens hid
    (.inr ⟨rival, hrival, hreplaces⟩)).ends hqueued

/-- Nothing needs to be done about a registration for a queued request to come in its place: if there is a
broker that accepts it, the next sweep enters it. -/
theorem Dispatched.exists_replaced (hs : Dispatched s) {b : Registration} (hid : b.id < s.nextId)
    {rival : RegisterRequest} (hrival : rival ∈ s.pending)
    (hreplaces : rival.admitted.replaces b.request = true) :
    ∃ s', Followed (Happening.Respects b) s s' ∧ b ∉ s'.table.registrations := by
  have hconnects : Flow.Ends accepting Happening.brokerSet.flow s () () { s with broker := true } () :=
    .access .done
  have hset : Happening.Respects b .brokerSet := trivial
  have hconnected : Followed (Happening.Respects b) s { s with broker := true } :=
    .happen .nothing hset hconnects
  have hanswers : ∀ (v : Unit) q, ∃ b v', accepting v q b v' := by
    intro v q
    obtain ⟨b, v', -, haccepted⟩ := accepts_anyAnswers true q
    exact ⟨b, (), haccepted⟩
  have hsweep : Happening.Respects b (.call (.event .retryPending)) := trivial
  obtain ⟨x, s', v', hhandled⟩ := Flow.exists_ends hanswers
    (Happening.call (.event .retryPending)).flow { s with broker := true } ()
  obtain ⟨n, s₁, v₁, hswept, hdone⟩ := Flow.Ends.of_bind hhandled
  have hgone := (hs.followed hconnected).not_mem_of_swept rfl hid hrival hreplaces hswept
  cases hdone
  exact ⟨s', .happen hconnected hsweep hhandled, hgone⟩

/-- An adaptive request was registered, after one thing and another had happened to the dispatcher. Then it
is in the table, and what was queued is still queued. And it stays as long as nothing is done about it,
whatever sweeps follow and whether brokers come, fail or come back, if and only if no request that
replaces it was queued before: adaptive, of the same program and with an equal trigger. -/
theorem Dispatched.newest_stays_iff {request : RegisterRequest} {id : RegistrationId} (h : Dispatched s)
    (hadaptive : request.function.mode.isAdaptive = true)
    (ends : Flow.Ends R (Dispatching.register request) s w (.ok id) s' w') :
    let newest : Registration := ⟨id, request.admitted⟩
    newest ∈ s'.table.registrations ∧ s'.pending = s.pending ∧
    ((∀ s'', Followed (Happening.Respects newest) s' s'' → newest ∈ s''.table.registrations) ↔
      ∀ r ∈ s.pending, r.admitted.replaces newest.request = false) := by
  intro newest
  obtain ⟨-, hs'⟩ := h.registered ends
  have hreached : Dispatched s' := (Flow.Reaches.call (.register request)).ends h ends
  have hnewest : newest ∈ s'.table.registrations := by
    rw [hs'.table]
    exact List.mem_append_right _ List.mem_cons_self
  refine ⟨hnewest, hs'.queue, ?_, ?_⟩
  · intro hstays r hr
    by_contra hreplaces
    obtain ⟨s'', hfollowed, hgone⟩ := hreached.exists_replaced (hreached.holds.id_lt hnewest)
      (hs'.queue ▸ hr) (Bool.not_eq_false _ ▸ hreplaces)
    exact hgone (hstays s'' hfollowed)
  · intro hqueue s'' hfollowed
    have hadaptive' : newest.request.function.mode.isAdaptive = true := by
      rw [request.function_admitted]
      exact hadaptive
    have hunchallenged : s'.Unchallenged newest := ⟨hnewest, hs'.queue ▸ hqueue⟩
    exact (Followed.unchallenged hreached hunchallenged hadaptive' hfollowed).stands

/-- Two adaptive requests of a lamp to be told of dusk, the first of which is to be retried. -/
def olderLamp : RegisterRequest :=
  { program := "lamp", function := { name := "glow", mode := .adaptive (.user "anna") },
    trigger := .message ["dusk"], tolerance := .retry }

def newerLamp : RegisterRequest :=
  { program := "lamp", function := { name := "shine", mode := .adaptive (.user "anna") },
    trigger := .message ["dusk"] }

/-- A dispatcher whose broker refused the first of them, so that it waits in the queue. -/
def lampQueued : DispatchState :=
  let connected := (Happening.brokerSet.flow.play refusingOnce {} false).2.1
  ((Happening.call (.register olderLamp)).flow.play refusingOnce connected false).2.1

theorem dispatched_lampQueued : Dispatched lampQueued :=
  (Dispatched.play (.start {}) .brokerSet _ _).play _ _ _

/-- How the second is registered, which the broker accepts. -/
def lampEntered : Except DispatchError RegistrationId × DispatchState × Bool :=
  (Dispatching.register newerLamp).play refusingOnce lampQueued true

theorem ends_lampEntered :
    Flow.Ends anyAnswers (Dispatching.register newerLamp) lampQueued true (.ok 2) lampEntered.2.1
      lampEntered.2.2 := by
  have hends : Flow.Ends anyAnswers (Dispatching.register newerLamp) lampQueued true lampEntered.1
      lampEntered.2.1 lampEntered.2.2 :=
    Flow.ends_play (fun _ _ => trivial) (Dispatching.register newerLamp) lampQueued true
  exact hends

/-- The sweep that follows. -/
def lampSwept : DispatchState :=
  ((Happening.call (.event .retryPending)).flow.play refusingOnce lampEntered.2.1 true).2.1

/-- The second request does not stay, as the first one waits; a request of the porch stays, as none of it
waits. -/
theorem Dispatched.lamp_stays_iff :
    (∃ newest ∈ lampEntered.2.1.table.registrations, newest.id = 2 ∧
      ¬ ∀ s'', Followed (Happening.Respects newest) lampEntered.2.1 s'' →
        newest ∈ s''.table.registrations) ∧
    ∃ newest ∈ porchRelit.2.1.table.registrations, newest.id = 3 ∧
      ∀ s'', Followed (Happening.Respects newest) porchRelit.2.1 s'' →
        newest ∈ s''.table.registrations := by
  obtain ⟨hlamp, -, hlampStays⟩ :=
    Dispatched.newest_stays_iff dispatched_lampQueued rfl ends_lampEntered
  have hporch : Flow.Ends anyAnswers (Dispatching.register blankPorch) porchLit false (.ok 3)
      porchRelit.2.1 porchRelit.2.2 :=
    Flow.ends_play (fun _ _ => trivial) (Dispatching.register blankPorch) porchLit false
  obtain ⟨hnewest, -, hstays⟩ := Dispatched.newest_stays_iff dispatched_porchLit rfl hporch
  refine ⟨⟨_, hlamp, rfl, ?_⟩, _, hnewest, rfl, hstays.2 (by decide)⟩
  intro hall
  have hqueue := hlampStays.1 hall
  revert hqueue
  decide

/-- The first request was submitted before, and waits. The second one is registered, and nothing but a
sweep comes after that. Yet the first is in the table then, in the place of the second. -/
theorem Dispatched.older_replaces_newest :
    Dispatched lampQueued ∧ lampQueued.pending = [olderLamp] ∧
    olderLamp.admitted.replaces newerLamp.admitted = true ∧
    Flow.Ends anyAnswers (Dispatching.register newerLamp) lampQueued true (.ok 2) lampEntered.2.1
      lampEntered.2.2 ∧
    lampEntered.2.1.table.registrations.map (fun r => (r.id, r.request.function.name)) = [(2, "shine")] ∧
    Followed (· = .call (.event .retryPending)) lampEntered.2.1 lampSwept ∧
    lampSwept.table.registrations.map (fun r => (r.id, r.request.function.name)) = [(3, "glow")] := by
  have hswept : Flow.Ends anyAnswers (Happening.call (.event .retryPending)).flow lampEntered.2.1 true ()
      lampSwept _ :=
    Flow.ends_play (fun _ _ => trivial) (Happening.call (.event .retryPending)).flow _ _
  exact ⟨dispatched_lampQueued, rfl, by decide, ends_lampEntered, by decide,
    .happen .nothing rfl hswept, by decide⟩

end DriverHub
