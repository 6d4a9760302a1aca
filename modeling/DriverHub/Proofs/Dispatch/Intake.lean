import DriverHub.Proofs.Dispatch.Entries
import DriverHub.Proofs.Dispatch.Hand

/-! What calls may bring into the dispatcher. A call enters the request that it came with, or such as
wait in the queue, and it queues what it could not enter; so what is in the table and in the queue is
of a kind, as long as all requests that come are. -/

namespace DriverHub

/-- What calls may bring about. -/
structure Intake where
  /-- Which requests may be entered in the table. -/
  tabled : RegisterRequest → Prop
  /-- Which requests may be queued. -/
  queued : RegisterRequest → Prop
  /-- Which jobs may end. -/
  ends : JobId → Prop
  /-- What may be queued may be entered later. -/
  again : ∀ {request trigger}, queued request → request.trigger.admitted? = some trigger →
    tabled { request with trigger }

namespace Intake

/-- From one state to another, no more came in than may. -/
structure Within (A : Intake) (s s' : DispatchState) : Prop where
  table : ∀ r ∈ s'.table.registrations, r ∈ s.table.registrations ∨ A.tabled r.request
  queue : ∀ r ∈ s'.pending, r ∈ s.pending ∨ A.queued r
  jobs : ∀ job, ¬ A.ends job → Dict.contains job s'.jobs = Dict.contains job s.jobs
  broker : s'.broker = s.broker
  sorted : Dict.Sorted s.table.all → Dict.Sorted s'.table.all

/-- A request that may come: it may be entered, and it may be queued if it needs a broker and is to be
retried. -/
structure Takes (A : Intake) (request : RegisterRequest) : Prop where
  tabled : ∀ {trigger}, request.trigger.admitted? = some trigger → A.tabled { request with trigger }
  queued : ∀ {topics}, request.tolerance = .retry →
    request.trigger.admitted? = some (.message topics) → A.queued request

/-- A call that may come. -/
def Covers (A : Intake) : DispatchCall → Prop
  | .register request => A.Takes request
  | .event (.jobTerminated job) => A.ends job
  | _ => True

/-- Of a call only the request that it brings, or the job that it ends, is to be looked at. -/
theorem covers_of {A : Intake} {c : DispatchCall}
    (ends : ∀ job, c = .event (.jobTerminated job) → A.ends job)
    (takes : ∀ request, c = .register request → A.Takes request) : A.Covers c := by
  cases c with
  | register request => exact takes request rfl
  | event e =>
    cases e with
    | jobTerminated job => exact ends job rfl
    | _ => trivial
  | _ => trivial

/-- A step brings in no more than may come; whatever is asked, any answer is reckoned with. -/
def protocol (A : Intake) : Flow.Protocol dispatchServices DispatchState Unit where
  relies _ s := ∀ r ∈ s.pending, A.queued r
  answers _ _ := True
  moves _ s act _ := A.Within s (act.after s)

/-- A flow whose steps bring in no more than may come, with a result as `Q` says. -/
def Yields {α : Type} (A : Intake) (flow : Dispatching α) (Q : α → Prop) : Prop :=
  flow.Keeps A.protocol () fun a _ => Q a

/-- A flow whose steps bring in no more than may come. -/
abbrev Admits {α : Type} (A : Intake) (flow : Dispatching α) : Prop := A.Yields flow fun _ => True

variable {A : Intake} {s s' s'' : DispatchState} {α β : Type}

namespace Within

theorem refl (s : DispatchState) : A.Within s s where
  table _ := .inl
  queue _ := .inl
  jobs _ _ := rfl
  broker := rfl
  sorted h := h

theorem trans (h : A.Within s s') (h' : A.Within s' s'') : A.Within s s'' where
  table r hr := (h'.table r hr).elim (h.table r) .inr
  queue r hr := (h'.queue r hr).elim (h.queue r) .inr
  jobs job hjob := (h'.jobs job hjob).trans (h.jobs job hjob)
  broker := h'.broker.trans h.broker
  sorted hs := h'.sorted (h.sorted hs)

theorem of_eq (table : s'.table = s.table) (pending : s'.pending = s.pending) (jobs : s'.jobs = s.jobs)
    (broker : s'.broker = s.broker) : A.Within s s' where
  table _ hr := .inl (table ▸ hr)
  queue _ hr := .inl (pending ▸ hr)
  jobs _ _ := by rw [jobs]
  broker := broker
  sorted h := table ▸ h

/-- A change of the queue alone. -/
theorem requeue {pending : List RegisterRequest} (h : ∀ r ∈ pending, r ∈ s.pending ∨ A.queued r) :
    A.Within s { s with pending } where
  table _ := .inl
  queue := h
  jobs _ _ := rfl
  broker := rfl
  sorted h := h

theorem insert {r : Registration} (h : A.tabled r.request) :
    A.Within s { s with table := (s.table.insert r).2 } where
  table r' hr' := by
    rw [RegistrationTable.registrations, RegistrationTable.all_insert, Dict.mem_values] at hr'
    obtain ⟨id, hmem⟩ := hr'
    rcases Dict.mem_insert hmem with heq | hmem
    · exact .inr ((Prod.mk.inj heq).2 ▸ h)
    · exact .inl (Dict.mem_values.2 ⟨id, hmem⟩)
  queue _ := .inl
  jobs _ _ := rfl
  broker := rfl
  sorted hs := by
    dsimp only
    rw [RegistrationTable.all_insert]
    exact Dict.sorted_insert _ _ hs

theorem remove (s : DispatchState) (id : RegistrationId) :
    A.Within s { s with table := (s.table.remove id).2 } where
  table r hr := by
    rw [RegistrationTable.registrations, RegistrationTable.all_remove, Dict.mem_values] at hr
    obtain ⟨k, hmem⟩ := hr
    exact .inl (Dict.mem_values.2 ⟨k, Dict.mem_of_mem_erase hmem⟩)
  queue _ := .inl
  jobs _ _ := rfl
  broker := rfl
  sorted hs := by
    dsimp only
    rw [RegistrationTable.all_remove]
    exact Dict.sorted_erase id hs

end Within

theorem takes_of_queued {request : RegisterRequest} (h : A.queued request) : A.Takes request :=
  ⟨fun hadmitted => A.again h hadmitted, fun _ _ => h⟩

/-! ### Steps -/

namespace Yields

theorem mono {flow : Dispatching α} {P Q : α → Prop} (h : A.Yields flow P) (hPQ : ∀ a, P a → Q a) :
    A.Yields flow Q :=
  Flow.Keeps.mono h fun a _ => hPQ a

theorem bind {flow : Dispatching α} {k : α → Dispatching β} {P : α → Prop} {Q : β → Prop}
    (h : A.Yields flow P) (hk : ∀ a, P a → A.Yields (k a) Q) : A.Yields (flow >>= k) Q :=
  Flow.keeps_bind.2 (Flow.Keeps.mono h fun a _ => hk a)

/-- An attempt that goes on after another, taken apart by success and failure. -/
theorem attempt_bind {attempt : DispatchAttempt α} {k : α → DispatchAttempt β}
    {P : Except DispatchError α → Prop} {Q : Except DispatchError β → Prop}
    (h : A.Yields attempt.run P) (hok : ∀ a, P (.ok a) → A.Yields (k a).run Q)
    (herror : ∀ e, P (.error e) → Q (.error e)) : A.Yields (attempt >>= k).run Q := by
  refine Attempt.keeps_bind.2 (Flow.Keeps.mono h ?_)
  rintro (e | a) _ hP
  · exact herror e hP
  · exact hok a hP

theorem lift_bind {flow : Dispatching α} {k : α → DispatchAttempt β} {P : α → Prop}
    {Q : Except DispatchError β → Prop} (h : A.Yields flow P) (hk : ∀ a, P a → A.Yields (k a).run Q) :
    A.Yields (Attempt.lift flow >>= k : DispatchAttempt β).run Q :=
  Attempt.keeps_bind.2 (Attempt.keeps_lift.2 (Flow.Keeps.mono h fun a _ => hk a))

end Yields

theorem Admits.bind {flow : Dispatching α} {k : α → Dispatching β} {Q : β → Prop} (h : A.Admits flow)
    (hk : ∀ a, A.Yields (k a) Q) : A.Yields (flow >>= k) Q :=
  Yields.bind h fun a _ => hk a

theorem yields_pure {a : α} {Q : α → Prop} (h : Q a) : A.Yields (pure a) Q := h

theorem admits_look (f : DispatchState → α) : A.Admits (Dispatching.look f) :=
  fun s _ => ⟨(), .refl s, trivial⟩

theorem admits_ask (q : DispatchService) : A.Admits (Dispatching.ask q) :=
  fun s _ _ _ => ⟨(), .refl s, trivial⟩

theorem admits_change {f : DispatchState → DispatchState} (h : ∀ s, A.Within s (f s)) :
    A.Admits (Flow.change f) :=
  fun s _ => ⟨(), h s, trivial⟩

theorem admits_exchange {f : DispatchState → α × DispatchState} (h : ∀ s, A.Within s (f s).2) :
    A.Admits (Flow.exchange f) :=
  fun s _ => ⟨(), h s, trivial⟩

open Dispatching

/-- An entry has topics to subscribe only if it waits for messages. -/
theorem yields_insertEntry {r : Registration} (h : A.tabled r.request) :
    A.Yields (insertEntry r) fun fresh => fresh ≠ [] → ∃ topics, r.request.trigger = .message topics := by
  refine fun s _ => ⟨(), .insert h, ?_⟩
  intro hfresh
  change (s.table.insert r).1 ≠ [] at hfresh
  rw [RegistrationTable.insert_fst, Registration.topics] at hfresh
  split at hfresh
  · next topics htrigger => exact ⟨topics, htrigger⟩
  · exact absurd rfl hfresh

theorem admits_takeId : A.Admits takeId := admits_exchange fun _ => .of_eq rfl rfl rfl rfl

theorem admits_removeEntry (id : RegistrationId) : A.Admits (removeEntry id) :=
  admits_exchange fun s => .remove s id

theorem admits_detach (id : RegistrationId) : A.Admits (detach id) := by
  refine (admits_removeEntry id).bind ?_
  rintro (_ | removed)
  · exact yields_pure trivial
  · refine (admits_exchange fun _ => .of_eq rfl rfl rfl rfl).bind fun armed => ?_
    split
    · exact (admits_ask _).bind fun _ => yields_pure trivial
    · exact yields_pure trivial

/-! ### Registering and unregistering -/

theorem admits_unsubscribeEach (failed : String) (topics : List String) :
    A.Admits (unsubscribeEach failed topics) := by
  induction topics with
  | nil => exact yields_pure trivial
  | cons topic rest ih =>
    refine (admits_ask _).bind ?_
    rintro (reason | ⟨⟩)
    · exact (admits_ask _).bind fun _ => ih
    · exact ih

theorem admits_unsubscribeAll (topics : List String) : A.Admits (unsubscribeAll topics) := by
  unfold unsubscribeAll
  split
  · exact yields_pure trivial
  · refine (admits_look _).bind fun broker => ?_
    split
    · exact admits_unsubscribeEach _ _
    · exact yields_pure trivial

theorem admits_unregister (id : RegistrationId) : A.Admits (unregister id) := by
  refine (admits_detach id).bind ?_
  rintro (_ | removed)
  · exact yields_pure trivial
  · exact (admits_unsubscribeAll _).bind fun _ => yields_pure trivial

theorem admits_unregisterAll (ids : List RegistrationId) : A.Admits (unregisterAll ids) := by
  induction ids with
  | nil => exact yields_pure trivial
  | cons id rest ih =>
    refine (admits_unregister id).bind fun found => ?_
    exact Admits.bind ih fun _ => yields_pure trivial

theorem admits_unregisterProgram (program : String) : A.Admits (unregisterProgram program) :=
  (admits_look _).bind fun ids => admits_unregisterAll ids

theorem admits_dropAnnotations (driver : Option DriverId) (device : Option DeviceId) :
    A.Admits (dropAnnotations driver device) := by
  refine (admits_change fun s => .requeue ?_).bind fun _ => ?_
  · exact fun r hr => .inl (List.mem_of_mem_filter hr)
  · exact (admits_look _).bind fun ids => admits_unregisterAll ids

/-- Subscribing fails only if there is something to subscribe to. -/
theorem yields_subscribeAll (id : RegistrationId) (subscribed topics : List String) :
    A.Yields (subscribeAll id subscribed topics) fun x => ∀ e, x = .error e → topics ≠ [] := by
  induction topics generalizing subscribed with
  | nil => exact yields_pure nofun
  | cons topic rest ih =>
    have hany (x : Except DispatchError Unit) : ∀ e, x = .error e → topic :: rest ≠ [] :=
      fun _ _ => List.cons_ne_nil _ _
    refine (admits_ask _).bind ?_
    rintro (reason | ⟨⟩)
    · refine (admits_removeEntry id).bind ?_
      rintro (_ | removed)
      · exact yields_pure (hany _)
      · exact (admits_unsubscribeEach _ _).bind fun _ => yields_pure (hany _)
    · exact (ih _).mono fun x _ => hany x

theorem admits_armTimer (id : RegistrationId) (trigger : Trigger) : A.Admits (armTimer id trigger) := by
  unfold armTimer
  split
  · refine (admits_ask _).bind fun now => ?_
    refine (admits_ask _).bind fun _ => ?_
    exact admits_change fun _ => .of_eq rfl rfl rfl rfl
  · exact yields_pure trivial

/-- Only messages may have to wait. -/
theorem yields_checkReady (trigger : Trigger) :
    A.Yields (DispatchAttempt.checkReady trigger).run fun x =>
      ∀ e, x = .error e → e.isTransient = true → ∃ topics, trigger = .message topics := by
  unfold DispatchAttempt.checkReady
  split
  · next topics =>
    have hany (x : Except DispatchError Unit) : ∀ e, x = .error e → e.isTransient = true →
        ∃ topics', Trigger.message topics = .message topics' := fun _ _ _ => ⟨topics, rfl⟩
    refine Yields.lift_bind (admits_look _) fun broker _ => ?_
    split <;> exact yields_pure (hany _)
  · refine Yields.lift_bind (admits_look _) fun alive _ => ?_
    split
    · refine yields_pure ?_
      rintro _ ⟨⟩ htransient
      cases htransient
    · exact yields_pure nofun
  · exact yields_pure nofun

/-- A request that is to be retried and fails for a reason that may clear up may be queued. -/
theorem yields_enter {request : RegisterRequest} (h : A.Takes request) :
    A.Yields (DispatchAttempt.enter request).run fun x => ∀ e, x = .error e → e.isTransient = true →
      request.tolerance = .retry → A.queued request := by
  unfold DispatchAttempt.enter
  cases hadmitted : request.trigger.admitted? with
  | none =>
    refine yields_pure ?_
    rintro _ ⟨⟩ htransient
    cases htransient
  | some trigger =>
    have hqueued (hmessage : ∃ topics, trigger = .message topics)
        (hretry : request.tolerance = .retry) : A.queued request := by
      obtain ⟨topics, rfl⟩ := hmessage
      exact h.queued hretry hadmitted
    refine Yields.attempt_bind (P := fun x => x = .ok trigger) (yields_pure rfl) ?_ nofun
    rintro _ ⟨⟩
    refine Yields.attempt_bind (yields_checkReady trigger) ?_
      fun e he _ heq htransient => hqueued (he e rfl (Except.error.inj heq ▸ htransient))
    intro _ _
    refine Yields.lift_bind (admits_look _) fun replaced _ => ?_
    refine Yields.lift_bind admits_takeId fun id _ => ?_
    refine Yields.lift_bind (yields_insertEntry (h.tabled hadmitted)) fun fresh hfresh => ?_
    have hsubscribed : A.Yields (Attempt.of (fun e => e) (subscribeAll id [] fresh)).run fun x =>
        ∀ e, x = .error e → fresh ≠ [] := by
      refine Attempt.keeps_of.2 (Flow.Keeps.mono (yields_subscribeAll id [] fresh) ?_)
      rintro (e | ⟨⟩) _ hx
      · exact fun _ _ => hx e rfl
      · nofun
    refine Yields.attempt_bind hsubscribed ?_ fun e he _ _ _ => hqueued (hfresh (he e rfl))
    intro _ _
    refine Yields.lift_bind (admits_armTimer id trigger) fun _ _ => ?_
    refine Yields.lift_bind (admits_unregisterAll replaced) fun _ _ => ?_
    exact Yields.lift_bind (admits_ask _) fun _ _ => yields_pure nofun

theorem admits_register {request : RegisterRequest} (h : A.Takes request) :
    A.Admits (register request) := by
  refine Yields.bind (yields_enter h) ?_
  rintro (e | id) hx
  · dsimp only
    split
    · next hqueue =>
      refine (admits_ask _).bind fun _ => ?_
      refine Admits.bind (admits_change fun s => .requeue ?_) fun _ => yields_pure trivial
      intro r hr
      refine (List.mem_append.1 hr).imp_right fun hnew => ?_
      exact List.mem_singleton.1 hnew ▸ hx e rfl hqueue.1 hqueue.2
    · exact yields_pure trivial
  · exact yields_pure trivial

/-! ### Events -/

theorem admits_registerQueued {requests : List RegisterRequest} (h : ∀ r ∈ requests, A.queued r) :
    A.Admits (registerQueued requests) := by
  induction requests with
  | nil => exact yields_pure trivial
  | cons request rest ih =>
    have hrest := ih fun r hr => h r (List.mem_cons_of_mem _ hr)
    refine (admits_register (takes_of_queued (h request List.mem_cons_self))).bind ?_
    rintro (e | id)
    · dsimp only
      split
      · exact (admits_ask _).bind fun _ => hrest
      · exact hrest
    · exact Admits.bind hrest fun _ => yields_pure trivial

theorem admits_retryPending : A.Admits retryPending := by
  have hdrain : A.Yields (Flow.exchange fun s => (s.pending, { s with pending := [] }))
      fun queued => ∀ r ∈ queued, A.queued r :=
    fun s hs => ⟨(), .requeue fun _ hr => absurd hr List.not_mem_nil, hs⟩
  refine Yields.bind hdrain fun queued hqueued => ?_
  split
  · exact yields_pure trivial
  · refine (admits_registerQueued hqueued).bind fun count => ?_
    exact (admits_ask _).bind fun _ => yields_pure trivial

theorem admits_resubscribeEach (topics : List String) : A.Admits (resubscribeEach topics) := by
  induction topics with
  | nil => exact yields_pure trivial
  | cons topic rest ih =>
    refine (admits_ask _).bind ?_
    rintro (reason | ⟨⟩)
    · exact (admits_ask _).bind fun _ => ih
    · exact ih

theorem admits_resubscribe : A.Admits resubscribe := by
  have hretry : A.Admits (retryPending >>= fun _ => (pure PUnit.unit : Dispatching PUnit)) :=
    admits_retryPending.bind fun _ => yields_pure trivial
  refine (admits_look _).bind fun broker => ?_
  split
  · refine (admits_look _).bind fun topics => ?_
    exact (admits_resubscribeEach topics).bind fun _ => hretry
  · exact hretry

theorem admits_deliver (r : Registration) (params : List (String × ScriptType)) (args : List Value) :
    A.Admits (deliver r params args) :=
  (admits_ask _).bind fun _ => yields_pure trivial

theorem admits_deliverEach (params : Registration → List (String × ScriptType))
    (args : Registration → List Value) (rs : List Registration) :
    A.Admits (deliverEach params args rs) := by
  induction rs with
  | nil => exact yields_pure trivial
  | cons r rest ih => exact (admits_deliver r _ _).bind fun _ => ih

theorem admits_fireTimer (id : RegistrationId) : A.Admits (fireTimer id) := by
  refine (admits_look _).bind fun trigger => ?_
  split
  · exact yields_pure trivial
  · refine (admits_detach id).bind ?_
    rintro (_ | removed)
    · exact yields_pure trivial
    · refine (admits_ask _).bind fun now => ?_
      exact (admits_deliver _ _ _).bind fun _ => yields_pure trivial
  · exact (admits_ask _).bind fun _ => yields_pure trivial

theorem admits_deliverKills (ids : List RegistrationId) : A.Admits (deliverKills ids) := by
  induction ids with
  | nil => exact yields_pure trivial
  | cons id rest ih =>
    refine (admits_detach id).bind ?_
    rintro (_ | removed)
    · exact ih
    · refine (admits_deliver _ _ _).bind fun _ => ?_
      exact Admits.bind ih fun _ => yields_pure trivial

theorem admits_jobTerminated {job : JobId} (h : A.ends job) : A.Admits (jobTerminated job) := by
  have hends (s : DispatchState) : A.Within s { s with jobs := Dict.erase job s.jobs } := by
    refine ⟨fun _ => .inl, fun _ => .inl, ?_, rfl, id⟩
    intro other hother
    have hne : job ≠ other := fun heq => hother (heq ▸ h)
    rw [Dict.contains_eq, Dict.contains_eq, Dict.find?_erase, if_neg hne]
  refine (admits_look _).bind fun ids => ?_
  refine (admits_deliverKills ids).bind fun fired => ?_
  exact (admits_change hends).bind fun _ => yields_pure trivial

/-- A call that may come brings in no more than may. -/
theorem admits_flow {call : DispatchCall} (h : A.Covers call) : A.Admits call.flow := by
  have hdiscard {flow : Dispatching Nat} (h : A.Admits flow) : A.Admits (discard flow) :=
    h.bind fun _ => yields_pure trivial
  cases call with
  | register request => exact admits_register h
  | unregister id => exact admits_unregister id
  | unregisterProgram program => exact admits_unregisterProgram program
  | dropAnnotations driver device => exact admits_dropAnnotations driver device
  | event e =>
    cases e with
    | timer id => exact hdiscard (admits_fireTimer id)
    | message topic payload =>
      refine hdiscard ((admits_look _).bind fun listeners => ?_)
      exact (admits_deliverEach _ _ listeners).bind fun _ => yields_pure trivial
    | jobTerminated job => exact hdiscard (admits_jobTerminated h)
    | deviceEvent driver device topic data =>
      refine hdiscard ((admits_look _).bind fun listeners => ?_)
      exact (admits_deliverEach _ _ listeners).bind fun _ => yields_pure trivial
    | brokerConnected => exact admits_resubscribe
    | retryPending => exact hdiscard admits_retryPending

/-- A flow that runs alone brings in no more than may come. -/
theorem Admits.within {W : Type} {R : Surroundings dispatchServices W} {w w' : W} {a : α}
    {flow : Dispatching α} (h : A.Admits flow) (hs : ∀ r ∈ s.pending, A.queued r)
    (hends : Flow.Ends R flow s w a s' w') : A.Within s s' := by
  have hmoves (s' : DispatchState) (act : DispatchAct)
      (hs' : A.Within s s' ∧ ∀ r ∈ s'.pending, A.queued r) (hmove : A.Within s' (act.after s')) :
      A.Within s (act.after s') ∧ ∀ r ∈ (act.after s').pending, A.queued r :=
    ⟨hs'.1.trans hmove, fun r hr => (hmove.queue r hr).elim (hs'.2 r) id⟩
  obtain ⟨-, hs', -⟩ := Flow.Keeps.ends
    (fun _ s' => A.Within s s' ∧ ∀ r ∈ s'.pending, A.queued r) h (fun _ _ _ _ _ => trivial)
    (fun _ _ hs' => hs'.2) (fun _ s' act _ => hmoves s' act) ⟨.refl s, hs⟩ hends
  exact hs'.1

end Intake

end DriverHub
