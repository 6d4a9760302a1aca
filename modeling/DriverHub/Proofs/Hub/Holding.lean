import DriverHub.Proofs.Hub.Watch

/-! Operations of the dispatcher among others. While an operation holds a device, others may take away
annotations of the device that are in the table or in the queue, but add none; so it knows all the
time how many there may be. An operation that does not hold the device adds none. -/

namespace DriverHub

namespace Watch

open DispatchState (Within)

/-- What stays true when others take annotations on the device away. -/
def Stable (wt : Watch) (A : DispatchState → Prop) : Prop :=
  ∀ s s', s.Spares wt.device s' → A s → A s'

/-- The hub while an operation is under way that began with the records `r₀`. If it holds the device,
these have not been changed, and the dispatcher is as `A` says. -/
structure Has (wt : Watch) (holds : Bool) (r₀ : Records) (A : DispatchState → Prop) (hub : Hub)
    (r : Records) : Prop where
  sound : wt.Sound hub r
  held : holds = true → wt.Unmoved r₀ r ∧ A hub.dispatch

variable {wt : Watch} {holds : Bool} {α β : Type} {r₀ r r' : Records} {hub hub' : Hub}
  {A B : DispatchState → Prop}

theorem Stable.and (hA : wt.Stable A) (hB : wt.Stable B) : wt.Stable fun s => A s ∧ B s :=
  fun s s' hspares h => ⟨hA s s' hspares h.1, hB s s' hspares h.2⟩

theorem Stable.without (hA : wt.Stable A) (id : RegistrationId) :
    wt.Stable fun s => A (s.without id) :=
  fun _ _ hspares h => hA _ _ (hspares.without id) h

namespace Has

theorem unmoved (h : wt.Has holds r₀ A hub r) (hholds : holds = true) : wt.Unmoved r₀ r :=
  (h.held hholds).1

theorem mono (h : wt.Has holds r₀ A hub r) (hAB : ∀ s, A s → B s) : wt.Has holds r₀ B hub r :=
  ⟨h.sound, fun hholds => (h.held hholds).imp_right (hAB _)⟩

theorem relies (h : wt.Has holds r₀ A hub r) (hA : wt.Stable A)
    (hrelies : wt.matter.Relies holds hub r hub' r') : wt.Has holds r₀ A hub' r' := by
  refine ⟨hrelies.1, fun hholds => ?_⟩
  obtain ⟨hmoved, ha⟩ := h.held hholds
  obtain ⟨hspares, hmoved'⟩ := hrelies.2 hholds
  exact ⟨hmoved.trans hmoved', hA _ _ hspares ha⟩

theorem harmless (h : wt.Has holds r₀ A hub r) (hA : wt.Stable A) {flow : Hosted α} {P : α → Prop}
    (hflow : wt.Harmless flow P) :
    wt.Guards holds flow hub r fun a hub' r' => wt.Has holds r₀ A hub' r' ∧ P a :=
  (hflow holds hub r h.sound).mono fun _ _ _ ⟨hrelies, ha⟩ => ⟨h.relies hA hrelies, ha⟩

theorem after (h : wt.Has holds r₀ A hub r) (hA : wt.Stable A) {flow : Hosted α}
    (hflow : wt.Harmless flow fun _ => True) :
    wt.Guards holds flow hub r fun _ hub' r' => wt.Has holds r₀ A hub' r' :=
  (h.harmless hA hflow).mono fun _ _ _ => And.left

end Has

/-! ### Steps of the dispatcher -/

theorem guards_bind {flow : Dispatching α} {k : α → Dispatching β} {P : α → Hub → Records → Prop}
    {Q : β → Hub → Records → Prop} (h : wt.Guards holds (Hosted.dispatching flow) hub r P)
    (hk : ∀ a hub r, P a hub r → wt.Guards holds (Hosted.dispatching (k a)) hub r Q) :
    wt.Guards holds (Hosted.dispatching (flow >>= k)) hub r Q :=
  (congrArg (wt.Guards holds · hub r Q) (Flow.embed_bind flow k)).mpr (h.bind hk)

theorem harmless_bind {flow : Dispatching α} {k : α → Dispatching β} {P : α → Prop} {Q : β → Prop}
    (h : wt.Harmless (Hosted.dispatching flow) P)
    (hk : ∀ a, P a → wt.Harmless (Hosted.dispatching (k a)) Q) :
    wt.Harmless (Hosted.dispatching (flow >>= k)) Q :=
  (congrArg (wt.Harmless · Q) (Flow.embed_bind flow k)).mpr (h.bind hk)

theorem harmless_dispatchAsk {q : DispatchService} {P : q.Answer → Prop}
    (h : wt.Harmless (Hosted.answerDispatch q) P) :
    wt.Harmless (Hosted.dispatching (Dispatching.ask q)) P :=
  Flow.Harmless.bind h fun _ ha => .done ha

/-- Questions to the broker, the clock and the log. -/
theorem harmless_aside {q : DispatchService} (hq : q.isAside = true) :
    wt.Harmless (Hosted.dispatching (Dispatching.ask q)) fun _ => True := by
  refine harmless_dispatchAsk ?_
  cases q with
  | subscribe | unsubscribe | now | armTimer | disarmTimer | log =>
    exact Flow.Harmless.mono (harmless_ask trivial) fun _ _ => trivial
  | _ => cases hq

theorem harmless_dispatchLook (f : DispatchState → α) :
    wt.Harmless (Hosted.dispatching (Dispatching.look f)) fun _ => True :=
  harmless_of_leaves ⟨fun _ => rfl, fun _ => trivial⟩ fun _ => trivial

/-- A step that works on the state of the dispatcher. Who does not hold the device may add nothing. -/
theorem guards_exchange {f : DispatchState → β × DispatchState} {B : β → DispatchState → Prop}
    (h : wt.Has holds r₀ A hub r) (hB : ∀ b, wt.Stable (B b))
    (hlabelled : hub.dispatch.table.Labelled → (f hub.dispatch).2.table.Labelled)
    (hspares : holds = false → hub.dispatch.Spares wt.device (f hub.dispatch).2)
    (hAB : A hub.dispatch → B (f hub.dispatch).1 (f hub.dispatch).2) :
    wt.Guards holds (Hosted.dispatching (Flow.exchange f)) hub r fun b hub' r' =>
      wt.Has holds r₀ (B b) hub' r' := by
  have hsound : wt.Sound { hub with dispatch := (f hub.dispatch).2 } r :=
    { h.sound with labelled := hlabelled h.sound.labelled }
  refine ⟨⟨hsound, fun hholds => ⟨hspares hholds, .refl r⟩⟩, fun hub' r' hrelies => ?_⟩
  have hafter : wt.Has holds r₀ (B (f hub.dispatch).1)
      { hub with dispatch := (f hub.dispatch).2 } r :=
    ⟨hsound, fun hholds => (h.held hholds).imp_right hAB⟩
  exact hafter.relies (hB _) hrelies

theorem guards_change {f : DispatchState → DispatchState} (h : wt.Has holds r₀ A hub r)
    (hB : wt.Stable B) (hlabelled : hub.dispatch.table.Labelled → (f hub.dispatch).table.Labelled)
    (hspares : holds = false → hub.dispatch.Spares wt.device (f hub.dispatch))
    (hAB : A hub.dispatch → B (f hub.dispatch)) :
    wt.Guards holds (Hosted.dispatching (Flow.change f)) hub r fun _ hub' r' =>
      wt.Has holds r₀ B hub' r' :=
  guards_exchange (f := fun s => ((), f s)) h (fun _ => hB) hlabelled hspares hAB

theorem guards_look {f : DispatchState → β} {B : β → DispatchState → Prop}
    (h : wt.Has holds r₀ A hub r) (hB : ∀ b, wt.Stable (B b))
    (hAB : hub.dispatch.table.Labelled → A hub.dispatch → B (f hub.dispatch) hub.dispatch) :
    wt.Guards holds (Hosted.dispatching (Dispatching.look f)) hub r fun b hub' r' =>
      wt.Has holds r₀ (B b) hub' r' :=
  guards_exchange (f := fun s => (f s, s)) h hB (fun hs => hs) (fun _ => .refl _ _)
    (hAB h.sound.labelled)

theorem harmless_exchange {f : DispatchState → β × DispatchState}
    (hlabelled : ∀ s, s.table.Labelled → (f s).2.table.Labelled)
    (hspares : ∀ s, DispatchState.Spares wt.device s (f s).2) :
    wt.Harmless (Hosted.dispatching (Flow.exchange f)) fun _ => True := by
  refine .access (fun hub r hsound => ⟨?_, hspares hub.dispatch, .refl r⟩) fun _ _ _ => .done trivial
  exact { hsound with labelled := hlabelled _ hsound.labelled }

/-! ### Taking registrations back -/

theorem harmless_unsubscribeEach (failed : String) (topics : List String) :
    wt.Harmless (Hosted.dispatching (Dispatching.unsubscribeEach failed topics)) fun _ => True := by
  induction topics with
  | nil => exact .done trivial
  | cons topic rest ih =>
    refine harmless_bind (harmless_aside rfl) ?_
    rintro (reason | ⟨⟩) -
    · exact harmless_bind (harmless_aside rfl) fun _ _ => ih
    · exact ih

theorem harmless_unsubscribeAll (topics : List String) :
    wt.Harmless (Hosted.dispatching (Dispatching.unsubscribeAll topics)) fun _ => True := by
  unfold Dispatching.unsubscribeAll
  split
  · exact .done trivial
  · refine harmless_bind (harmless_dispatchLook _) fun broker _ => ?_
    split
    · exact harmless_unsubscribeEach _ _
    · exact .done trivial

theorem guards_removeEntry (h : wt.Has holds r₀ A hub r) (hB : wt.Stable B) {id : RegistrationId}
    (hAB : ∀ s, A s → B (s.without id)) :
    wt.Guards holds (Hosted.dispatching (Dispatching.removeEntry id)) hub r fun _ hub' r' =>
      wt.Has holds r₀ B hub' r' :=
  guards_exchange h (fun _ => hB) (·.remove id) (fun _ => .remove id) (hAB _)

theorem guards_detach (h : wt.Has holds r₀ A hub r) (hB : wt.Stable B) {id : RegistrationId}
    (hAB : ∀ s, A s → B (s.without id)) :
    wt.Guards holds (Hosted.dispatching (Dispatching.detach id)) hub r fun _ hub' r' =>
      wt.Has holds r₀ B hub' r' := by
  have hdisarmed : wt.Harmless (Hosted.dispatching (Flow.exchange fun s =>
      (decide (id ∈ s.timers), { s with timers := s.timers.filter (· ≠ id) }))) fun _ => True :=
    harmless_exchange (fun _ => fun h => h) fun s => .of_eq rfl rfl
  unfold Dispatching.detach
  refine guards_bind (guards_removeEntry h hB hAB) ?_
  rintro (_ | removed) hub' r' hb
  · exact hb
  · refine hb.after hB (harmless_bind hdisarmed fun armed _ => ?_)
    split
    · exact harmless_bind (harmless_aside rfl) fun _ _ => .done trivial
    · exact .done trivial

theorem guards_unregister (h : wt.Has holds r₀ A hub r) (hB : wt.Stable B) {id : RegistrationId}
    (hAB : ∀ s, A s → B (s.without id)) :
    wt.Guards holds (Hosted.dispatching (Dispatching.unregister id)) hub r fun _ hub' r' =>
      wt.Has holds r₀ B hub' r' := by
  unfold Dispatching.unregister
  refine guards_bind (guards_detach h hB hAB) ?_
  rintro (_ | removed) hub' r' hb
  · exact hb
  · exact hb.after hB (harmless_bind (harmless_unsubscribeAll _) fun _ _ => .done trivial)

theorem guards_unregisterAll {A : List RegistrationId → DispatchState → Prop}
    (hA : ∀ ids, wt.Stable (A ids)) (hstep : ∀ id ids s, A (id :: ids) s → A ids (s.without id))
    {ids : List RegistrationId} (h : wt.Has holds r₀ (A ids) hub r) :
    wt.Guards holds (Hosted.dispatching (Dispatching.unregisterAll ids)) hub r fun _ hub' r' =>
      wt.Has holds r₀ (A []) hub' r' := by
  induction ids generalizing hub r with
  | nil => exact h
  | cons id rest ih =>
    refine guards_bind (guards_unregister h (hA rest) (hstep id rest)) fun found hub' r' hb => ?_
    exact guards_bind (ih hb) fun count hub'' r'' hc => hc

section

variable (wt) (driver : Option DriverId) (device : Option DeviceId)

/-- None of the annotations of the device that a drop is about is in the queue. -/
def Unqueued (s : DispatchState) : Prop :=
  ∀ request ∈ s.pending, request.annotates none (some wt.device) = true →
    request.annotates driver device = false

/-- Those that are in the table are among the given ones. -/
def Listed (ids : List RegistrationId) (s : DispatchState) : Prop :=
  ∀ e ∈ s.table.entriesOn wt.device, e.2.request.annotates driver device = true → e.1 ∈ ids

/-- They are gone. -/
def Dropped (s : DispatchState) : Prop :=
  ∀ request ∈ s.requests, request.annotates none (some wt.device) = true →
    request.annotates driver device = false

end

variable {driver : Option DriverId} {device : Option DeviceId}

theorem stable_unqueued : wt.Stable (wt.Unqueued driver device) := by
  intro s s' hspares hs request hrequest hon
  have hmem := hspares.queue.subset (List.mem_filter.2 ⟨hrequest, hon⟩)
  exact hs request (List.mem_filter.1 hmem).1 hon

theorem stable_listed (ids : List RegistrationId) : wt.Stable (wt.Listed driver device ids) :=
  fun _ _ hspares hs e he => hs e (hspares.mem_table he)

theorem Listed.without {id : RegistrationId} {ids : List RegistrationId} {s : DispatchState}
    (h : wt.Listed driver device (id :: ids) s) : wt.Listed driver device ids (s.without id) := by
  intro e he hannotates
  have hspares : DispatchState.Spares wt.device s (s.without id) := .remove id
  refine (List.mem_cons.1 (h e (hspares.mem_table he) hannotates)).resolve_left ?_
  unfold DispatchState.without RegistrationTable.entriesOn at he
  rw [RegistrationTable.all_remove] at he
  simpa [Dict.erase] using (List.mem_filter.1 (List.mem_filter.1 he).1).2

theorem Dropped.of_listed {s : DispatchState} (hqueue : wt.Unqueued driver device s)
    (htable : wt.Listed driver device [] s) : wt.Dropped driver device s := by
  intro request hrequest hon
  rcases List.mem_append.1 hrequest with hrequest | hrequest
  · rw [RegistrationTable.requests_eq] at hrequest
    obtain ⟨e, he, rfl⟩ := List.mem_map.1 hrequest
    by_contra hannotates
    have hmem := htable e (List.mem_filter.2 ⟨he, hon⟩) (by simpa using hannotates)
    cases hmem
  · exact hqueue request hrequest hon

theorem listed_annotating {s : DispatchState} (hlabelled : s.table.Labelled) :
    wt.Listed driver device (s.table.annotating driver device) s := by
  intro e he hannotates
  have hmem := (List.mem_filter.1 he).1
  have hvalue : e.2 ∈ s.table.registrations := Dict.mem_values.2 ⟨e.1, hmem⟩
  exact List.mem_map.2 ⟨e.2, List.mem_filter.2 ⟨hvalue, hannotates⟩, hlabelled e hmem⟩

theorem guards_dropAnnotations (h : wt.Has holds r₀ A hub r) (hA : wt.Stable A) :
    wt.Guards holds (Hosted.dispatching (Dispatching.dropAnnotations driver device)) hub r
      fun _ hub' r' => wt.Has holds r₀ (fun s => A s ∧ wt.Dropped driver device s) hub' r' := by
  have hcleared : wt.Guards holds (Hosted.dispatching (Flow.change fun s =>
      { s with pending := s.pending.filter fun r => !r.annotates driver device })) hub r
        fun _ hub' r' => wt.Has holds r₀ (fun s => A s ∧ wt.Unqueued driver device s) hub' r' := by
    have hspares : ∀ s : DispatchState, s.Spares wt.device
        { s with pending := s.pending.filter fun r => !r.annotates driver device } :=
      fun s => .requeue (List.filter_sublist.filter _)
    refine guards_change h (hA.and stable_unqueued) (fun hs => hs) (fun _ => hspares _) fun ha => ?_
    refine ⟨hA _ _ (hspares _) ha, fun request hrequest _ => ?_⟩
    simpa using (List.mem_filter.1 hrequest).2
  have hstable : ∀ ids, wt.Stable fun s => (A s ∧ wt.Unqueued driver device s) ∧
      wt.Listed driver device ids s := fun ids => (hA.and stable_unqueued).and (stable_listed ids)
  have hremoved : ∀ id ids s,
      (A s ∧ wt.Unqueued driver device s) ∧ wt.Listed driver device (id :: ids) s →
      (A (s.without id) ∧ wt.Unqueued driver device (s.without id)) ∧
        wt.Listed driver device ids (s.without id) :=
    fun id _ s hs => ⟨(hA.and stable_unqueued) _ _ (.remove id) hs.1, hs.2.without⟩
  unfold Dispatching.dropAnnotations
  refine guards_bind hcleared fun _ _ _ h₁ => ?_
  refine guards_bind (guards_look h₁ hstable fun hlabelled hs => ⟨hs, listed_annotating hlabelled⟩)
    fun ids _ _ h₂ => ?_
  refine (guards_unregisterAll hstable hremoved h₂).mono fun _ _ _ h₃ => h₃.mono ?_
  rintro s ⟨⟨ha, hqueue⟩, htable⟩
  exact ⟨ha, .of_listed hqueue htable⟩

/-! ### Registering -/

theorem guards_attempt {attempt : DispatchAttempt α} {k : α → DispatchAttempt β}
    {P : Except DispatchError α → Hub → Records → Prop}
    {Q : Except DispatchError β → Hub → Records → Prop}
    (h : wt.Guards holds (Hosted.dispatching attempt.run) hub r P)
    (hok : ∀ a hub r, P (.ok a) hub r → wt.Guards holds (Hosted.dispatching (k a).run) hub r Q)
    (herror : ∀ e hub r, P (.error e) hub r → Q (.error e) hub r) :
    wt.Guards holds (Hosted.dispatching (attempt >>= k).run) hub r Q :=
  Flow.Guarded.attempt_bind h hok herror

/-- What cannot fail, in an attempt. -/
theorem guards_lift {flow : Dispatching α} {k : α → DispatchAttempt β} {P : α → Hub → Records → Prop}
    {Q : Except DispatchError β → Hub → Records → Prop}
    (h : wt.Guards holds (Hosted.dispatching flow) hub r P)
    (hk : ∀ a hub r, P a hub r → wt.Guards holds (Hosted.dispatching (k a).run) hub r Q) :
    wt.Guards holds (Hosted.dispatching ((Attempt.lift flow : DispatchAttempt α) >>= k).run)
      hub r Q := by
  have hlifted : wt.Guards holds (Hosted.dispatching (Attempt.lift flow : DispatchAttempt α).run)
      hub r fun x hub' r' => ∃ a, x = .ok a ∧ P a hub' r' :=
    guards_bind h fun a _ _ ha => ⟨a, rfl, ha⟩
  refine guards_attempt hlifted ?_ nofun
  rintro a hub' r' ⟨_, ⟨⟩, ha⟩
  exact hk a hub' r' ha

theorem harmless_lift {flow : Dispatching α} {k : α → DispatchAttempt β} {P : α → Prop}
    {Q : Except DispatchError β → Prop} (h : wt.Harmless (Hosted.dispatching flow) P)
    (hk : ∀ a, P a → wt.Harmless (Hosted.dispatching (k a).run) Q) :
    wt.Harmless (Hosted.dispatching ((Attempt.lift flow : DispatchAttempt α) >>= k).run) Q := by
  have hlifted : wt.Harmless (Hosted.dispatching (Attempt.lift flow : DispatchAttempt α).run)
      fun x => ∃ a, x = .ok a ∧ P a :=
    harmless_bind h fun a ha => .done ⟨a, rfl, ha⟩
  refine harmless_bind hlifted ?_
  rintro _ ⟨a, rfl, ha⟩
  exact hk a ha

/-- Subscribing comes to its end, or takes the registration out again. -/
theorem guards_subscribeAll {id : RegistrationId} (hA : wt.Stable A) (hB : wt.Stable B)
    (hAB : ∀ s, A s → B (s.without id)) (subscribed topics : List String)
    (h : wt.Has holds r₀ A hub r) :
    wt.Guards holds (Hosted.dispatching (Dispatching.subscribeAll id subscribed topics)) hub r
      fun x hub' r' => (x = .ok () ∧ wt.Has holds r₀ A hub' r') ∨
        ∃ e, x = .error e ∧ wt.Has holds r₀ B hub' r' := by
  induction topics generalizing subscribed hub r with
  | nil => exact .inl ⟨rfl, h⟩
  | cons topic rest ih =>
    refine guards_bind (h.after hA (harmless_aside rfl)) ?_
    rintro (reason | ⟨⟩) hub₁ r₁ h₁
    · refine guards_bind (guards_removeEntry h₁ hB hAB) ?_
      rintro (_ | removed) hub₂ r₂ h₂
      · exact .inr ⟨_, rfl, h₂⟩
      · refine guards_bind (h₂.after hB (harmless_unsubscribeEach _ _)) fun _ hub₃ r₃ h₃ => ?_
        exact .inr ⟨_, rfl, h₃⟩
    · exact ih _ h₁

theorem harmless_armTimer (id : RegistrationId) (trigger : Trigger) :
    wt.Harmless (Hosted.dispatching (Dispatching.armTimer id trigger)) fun _ => True := by
  cases trigger with
  | atTime time =>
    refine harmless_bind (harmless_aside (q := .now) rfl) fun now _ => ?_
    refine harmless_bind (harmless_aside rfl) fun _ _ => ?_
    exact harmless_exchange (f := fun s => ((), { s with timers := s.timers ++ [id] }))
      (fun _ hs => hs) fun _ => .of_eq rfl rfl
  | _ => exact .done trivial

theorem harmless_checkReady (trigger : Trigger) :
    wt.Harmless (Hosted.dispatching (DispatchAttempt.checkReady trigger).run) fun _ => True := by
  have hchecked : ∀ (ready : DispatchState → Bool) (e : DispatchError), wt.Harmless
      (Hosted.dispatching (do if !(← .look ready) then .fail e : DispatchAttempt Unit).run)
        fun _ => True := by
    refine fun ready e => .access (fun _ _ hsound => hsound.of_essence rfl) fun hub _ _ => ?_
    change wt.Harmless (Hosted.dispatching
      (if (!ready hub.dispatch) = true then .fail e else pure () : DispatchAttempt Unit).run) _
    split <;> exact .done trivial
  cases trigger with
  | message => exact hchecked _ _
  | kill => exact hchecked _ _
  | _ => exact .done trivial

theorem harmless_takeId : wt.Harmless (Hosted.dispatching Dispatching.takeId) fun _ => True :=
  harmless_exchange (fun _ hs => hs) fun _ => .of_eq rfl rfl

variable {allowed : DriverId → List String} {request : RegisterRequest} {id : RegistrationId}

section

variable (wt) (allowed)

theorem stable_within : wt.Stable (Within wt.device allowed) := fun _ _ hspares h => h.spares hspares

/-- What is allowed when requests have been added. -/
def plus (requests : List RegisterRequest) (driver : DriverId) : List String :=
  RegisterRequest.callbacks driver wt.device requests ++ allowed driver

/-- A request counts by its callback and its origin, whatever its trigger is. -/
theorem plus_trigger (request : RegisterRequest) (trigger : Trigger) :
    wt.plus allowed [{ request with trigger }] = wt.plus allowed [request] := by
  funext driver
  unfold plus
  rw [RegisterRequest.callbacks_singleton, RegisterRequest.callbacks_singleton]
  rfl

/-- A request has been entered, and may still be taken out again. -/
def Entered (request : RegisterRequest) (id : RegistrationId) (s : DispatchState) : Prop :=
  s.Within wt.device (wt.plus allowed [request]) ∧ (s.without id).Within wt.device allowed

theorem stable_entered (request : RegisterRequest) (id : RegistrationId) :
    wt.Stable (wt.Entered allowed request id) :=
  (wt.stable_within _).and ((wt.stable_within allowed).without id)

end

theorem guards_insertEntry (h : wt.Has holds r₀ (Within wt.device allowed) hub r)
    (hrequest : holds = false → request.annotates none (some wt.device) = false) :
    wt.Guards holds (Hosted.dispatching (Dispatching.insertEntry ⟨id, request⟩)) hub r
      fun _ hub' r' => wt.Has holds r₀ (wt.Entered allowed request id) hub' r' :=
  guards_exchange h (fun _ => wt.stable_entered _ _ _) (·.insert _)
    (fun hholds => .insert (hrequest hholds)) fun hs => hs.insert ⟨id, request⟩

theorem guards_subscribing (h : wt.Has holds r₀ (wt.Entered allowed request id) hub r)
    (topics : List String) :
    wt.Guards holds (Hosted.dispatching (Attempt.of (fun e => e)
      (Dispatching.subscribeAll id [] topics) : DispatchAttempt Unit).run) hub r fun x hub' r' =>
        (x = .ok () ∧ wt.Has holds r₀ (Within wt.device (wt.plus allowed [request])) hub' r') ∨
          ∃ e, x = .error e ∧ wt.Has holds r₀ (Within wt.device allowed) hub' r' := by
  refine guards_bind (guards_subscribeAll (wt.stable_entered _ _ _) (wt.stable_within _)
    (fun _ => And.right) [] topics h) ?_
  rintro _ hub' r' (⟨rfl, h'⟩ | ⟨e, rfl, h'⟩)
  · exact .inl ⟨rfl, h'.mono fun _ => And.left⟩
  · exact .inr ⟨e, rfl, h'⟩

theorem guards_enter (h : wt.Has holds r₀ (Within wt.device allowed) hub r)
    (hrequest : holds = false → request.annotates none (some wt.device) = false) :
    wt.Guards holds (Hosted.dispatching (DispatchAttempt.enter request).run) hub r fun x hub' r' =>
      (∃ id, x = .ok id ∧ wt.Has holds r₀ (Within wt.device (wt.plus allowed [request])) hub' r') ∨
        ∃ e, x = .error e ∧ wt.Has holds r₀ (Within wt.device allowed) hub' r' := by
  have hwithin := wt.stable_within allowed
  have hplus := wt.stable_within (wt.plus allowed [request])
  unfold DispatchAttempt.enter
  cases hadmitted : request.trigger.admitted? with
  | none => exact .inr ⟨_, rfl, h⟩
  | some trigger =>
    refine guards_attempt (P := fun x hub' r' => x = .ok trigger ∧
      wt.Has holds r₀ (Within wt.device allowed) hub' r') ⟨rfl, h⟩ ?_ nofun
    rintro _ hub₁ r₁ ⟨⟨⟩, h₁⟩
    refine guards_attempt (h₁.after hwithin (harmless_checkReady trigger)) ?_
      fun e _ _ h₂ => .inr ⟨e, rfl, h₂⟩
    rintro _ hub₂ r₂ h₂
    refine guards_lift (h₂.after hwithin (harmless_dispatchLook _)) fun replaced hub₃ r₃ h₃ => ?_
    refine guards_lift (h₃.after hwithin harmless_takeId) fun id hub₄ r₄ h₄ => ?_
    refine guards_lift (guards_insertEntry h₄ hrequest) fun fresh hub₅ r₅ h₅ => ?_
    refine guards_attempt (guards_subscribing h₅ fresh) ?_ ?_
    · rintro _ hub₆ r₆ (⟨-, h₆⟩ | ⟨e, ⟨⟩, -⟩)
      rw [plus_trigger] at h₆
      refine guards_lift (h₆.after hplus (harmless_armTimer id trigger)) fun _ hub₇ r₇ h₇ => ?_
      -- taking the place of others adds nothing
      refine guards_lift (guards_unregisterAll (fun _ => hplus)
        (fun id _ s hs => hs.spares (.remove id)) h₇) fun _ hub₈ r₈ h₈ => ?_
      refine guards_lift (h₈.after hplus (harmless_aside rfl)) fun _ hub₉ r₉ h₉ => ?_
      exact .inl ⟨id, rfl, h₉⟩
    · rintro e hub₆ r₆ (⟨⟨⟩, -⟩ | ⟨e, ⟨⟩, h₆⟩)
      exact .inr ⟨e, rfl, h₆⟩

/-- A request that is registered, or queued, adds itself. -/
theorem guards_register (h : wt.Has holds r₀ (Within wt.device allowed) hub r)
    (hrequest : holds = false → request.annotates none (some wt.device) = false) :
    wt.Guards holds (Hosted.dispatching (Dispatching.register request)) hub r fun _ hub' r' =>
      wt.Has holds r₀ (Within wt.device (wt.plus allowed [request])) hub' r' := by
  have hplus := wt.stable_within (wt.plus allowed [request])
  unfold Dispatching.register
  refine guards_bind (guards_enter h hrequest) ?_
  rintro _ hub₁ r₁ (⟨id, rfl, h₁⟩ | ⟨e, rfl, h₁⟩)
  · exact h₁
  · simp only
    split
    · refine guards_bind (h₁.after (wt.stable_within _) (harmless_aside rfl)) fun _ _ _ h₂ => ?_
      refine guards_bind (guards_change h₂ hplus (fun hs => hs) (fun hholds => ?_) fun hs =>
        hs.enqueue request) fun _ _ _ h₃ => h₃
      refine .requeue ?_
      rw [List.filter_append, List.filter_cons_of_neg (by simp [hrequest hholds]), List.filter_nil,
        List.append_nil]
    · exact h₁.mono fun _ hs => hs.mono fun _ => (List.sublist_append_right _ _).subperm

end Watch

end DriverHub
