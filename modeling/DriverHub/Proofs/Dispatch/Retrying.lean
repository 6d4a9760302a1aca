import DriverHub.Proofs.Dispatch.Rollback

/-! Sweeps over the queue. Only requests for messages that are to be retried ever wait there, so what
fails in a sweep fails for a reason that may clear up, and waits again; nothing is given up. -/

namespace DriverHub

/-! ### What waits -/

/-- A request that may wait in the queue: it is to be retried, and for messages on a topic that is not
blank. -/
structure RegisterRequest.Waits (request : RegisterRequest) : Prop where
  retry : request.tolerance = .retry
  topics : ∃ topics, request.trigger = .message topics ∧
    ∃ topic ∈ topics, Text.isBlankText topic = false

theorem RegisterRequest.listens_iff {request : RegisterRequest} :
    request.Listens ↔ ∃ topics, request.trigger = .message topics ∧
      ∃ topic ∈ topics, Text.isBlankText topic = false := by
  constructor
  · rintro ⟨kept, hkept⟩
    cases htrigger : request.trigger with
    | message topics =>
      have hany := Trigger.isSome_admitted?_message topics
      rw [← htrigger, hkept] at hany
      exact ⟨topics, rfl, by simpa using hany.symm⟩
    | deviceEvent e =>
      rw [htrigger] at hkept
      unfold Trigger.admitted? at hkept
      cases htopics : e.topics with
      | none => simp [htopics] at hkept
      | some topics => simp [htopics] at hkept
    | kill | atTime =>
      rw [htrigger] at hkept
      cases hkept
  · rintro ⟨topics, htrigger, topic, htopic, hblank⟩
    have hany := Trigger.isSome_admitted?_message topics
    rw [List.any_eq_true.2 ⟨topic, htopic, by rw [hblank]; rfl⟩] at hany
    obtain ⟨trigger, hadmitted⟩ := Option.isSome_iff_exists.1 hany
    obtain ⟨kept, -, rfl⟩ := Option.map_eq_some_iff.1 hadmitted
    exact ⟨kept, htrigger ▸ hadmitted⟩

/-- Whatever comes is let in; only what may wait is queued. -/
def Intake.waiting : Intake where
  tabled _ := True
  queued := RegisterRequest.Waits
  ends _ := True
  again _ _ := trivial

theorem Intake.covers_waiting (c : DispatchCall) : waiting.Covers c := by
  refine covers_of (fun _ _ => trivial) fun request _ => ⟨fun _ => trivial, ?_⟩
  exact fun hretry h => ⟨hretry, RegisterRequest.listens_iff.1 ⟨_, h⟩⟩

theorem Dispatched.waits {s : DispatchState} (h : Dispatched s) : ∀ r ∈ s.pending, r.Waits := by
  induction h with
  | start => exact nofun
  | @happen _ _ happening _ _ _ _ _ _ ends ih =>
    cases happening with
    | call c =>
      have hwithin := (Intake.admits_flow (Intake.covers_waiting c)).within ih ends
      exact fun r hr => (hwithin.queue r hr).elim (ih r) id
    | brokerSet | jobStarted | jobRemoved =>
      cases ends with
      | access rest =>
        cases rest
        exact ih

/-! ### One attempt after another -/

/-- A request that was registered again, and how that ended. -/
structure Retried where
  request : RegisterRequest
  result : Except DispatchError RegistrationId

/-- The registration that was entered, if it was. -/
def Retried.registered? (a : Retried) : Option Registration :=
  match a.result with
  | .ok id => some ⟨id, a.request.admitted⟩
  | .error _ => none

/-- The registrations that were entered, in this order. -/
def enteredIn (attempts : List Retried) : List Registration := attempts.filterMap (·.registered?)

/-- The requests that failed again, in this order. -/
def failedIn (attempts : List Retried) : List RegisterRequest :=
  (attempts.filter (·.registered?.isNone)).map (·.request)

section

variable {request : RegisterRequest} {id : RegistrationId} {e : DispatchError} {attempts : List Retried}

@[simp] theorem enteredIn_ok :
    enteredIn (⟨request, .ok id⟩ :: attempts) = ⟨id, request.admitted⟩ :: enteredIn attempts := rfl

@[simp] theorem enteredIn_error : enteredIn (⟨request, .error e⟩ :: attempts) = enteredIn attempts := rfl

@[simp] theorem failedIn_ok : failedIn (⟨request, .ok id⟩ :: attempts) = failedIn attempts := rfl

@[simp] theorem failedIn_error :
    failedIn (⟨request, .error e⟩ :: attempts) = request :: failedIn attempts := rfl

end

/-- Registers requests one after another, each where the one before it ended. -/
inductive Swept {W : Type} (R : Surroundings dispatchServices W) :
    List Retried → DispatchState → W → DispatchState → W → Prop
  | done {s w} : Swept R [] s w s w
  | attempt {request x attempts s w s₁ w₁ s' w'}
      (first : Flow.Ends R (Dispatching.register request) s w x s₁ w₁)
      (rest : Swept R attempts s₁ w₁ s' w') : Swept R (⟨request, x⟩ :: attempts) s w s' w'

/-- Those of a table in whose place none of the new registrations is put. -/
def unreplaced (new table : List Registration) : List Registration :=
  table.filter fun old => !new.any fun r => r.request.replaces old.request

/-- Those of registrations that are entered one after another in whose place no later one is put. -/
def standing : List Registration → List Registration
  | [] => []
  | r :: later => unreplaced later [r] ++ standing later

theorem unreplaced_nil (table : List Registration) : unreplaced [] table = table :=
  List.filter_eq_self.2 fun _ _ => rfl

theorem unreplaced_cons (r : Registration) (new table : List Registration) :
    unreplaced (r :: new) table =
      unreplaced new (table.filter fun old => !r.request.replaces old.request) := by
  unfold unreplaced
  rw [List.filter_filter]
  refine List.filter_congr fun old _ => ?_
  rw [List.any_cons, Bool.not_or, Bool.and_comm]

theorem unreplaced_append (new table table' : List Registration) :
    unreplaced new (table ++ table') = unreplaced new table ++ unreplaced new table' :=
  List.filter_append ..

section

variable {W : Type} {R : Surroundings dispatchServices W} {s s' : DispatchState} {w w' : W}
  {table : List Registration} {queue : List RegisterRequest} {attempts : List Retried}

theorem Dispatching.ensures_register_waiting (hs : s.Holds table queue) {request : RegisterRequest}
    (hwaits : request.Waits) :
    (register request).Ensures R s w fun x s' _ =>
      match x with
      | .ok id => s'.Holds ((table.filter fun r => !request.admitted.replaces r.request) ++
          [⟨id, request.admitted⟩]) queue
      | .error e => e.isTransient = true ∧ s'.Holds table (queue ++ [request]) := by
  obtain ⟨topics, hadmitted⟩ := RegisterRequest.listens_iff.2 hwaits.topics
  exact .anywhere ((ensures_register_message quiet_anything hs hadmitted hwaits.retry).mono
    fun _ _ _ h => h.2)

/-- One after another, what does not fail is entered, and what fails is queued. -/
theorem DispatchState.Holds.swept (hs : s.Holds table queue)
    (hwaits : ∀ a ∈ attempts, a.request.Waits) (h : Swept R attempts s w s' w') :
    s'.Holds (unreplaced (enteredIn attempts) table ++ standing (enteredIn attempts))
      (queue ++ failedIn attempts) := by
  induction h generalizing table queue with
  | done =>
    unfold enteredIn failedIn standing
    rw [List.filterMap_nil, unreplaced_nil]
    simpa using hs
  | @attempt request x attempts _ _ _ _ _ _ first rest ih =>
    obtain ⟨hfirst, hrest⟩ := List.forall_mem_cons.1 hwaits
    have hs₁ := (Dispatching.ensures_register_waiting hs hfirst).ends first
    cases x with
    | error e =>
      have hs' := ih hs₁.2 hrest
      rw [enteredIn_error, failedIn_error, ← List.singleton_append, ← List.append_assoc]
      exact hs'
    | ok id =>
      have hs' := ih hs₁ hrest
      rw [enteredIn_ok, failedIn_ok, unreplaced_cons, standing, ← List.append_assoc, ← unreplaced_append]
      exact hs'

/-- Registering what may wait is one attempt after another. Each that fails may succeed later. -/
theorem DispatchState.Holds.exists_swept (hs : s.Holds table queue) {requests : List RegisterRequest}
    {n : Nat} (hwaits : ∀ r ∈ requests, r.Waits)
    (ends : Flow.Ends R (Dispatching.registerQueued requests) s w n s' w') :
    ∃ attempts, attempts.map (·.request) = requests ∧ Swept R attempts s w s' w' ∧
      n = (enteredIn attempts).length ∧
      ∀ a ∈ attempts, ∀ e, a.result = .error e → e.isTransient = true := by
  induction requests generalizing s table queue w n with
  | nil =>
    cases ends
    exact ⟨[], rfl, .done, rfl, List.forall_mem_nil _⟩
  | cons request rest ih =>
    obtain ⟨hrequest, hrest⟩ := List.forall_mem_cons.1 hwaits
    unfold Dispatching.registerQueued at ends
    obtain ⟨x, s₁, w₁, hfirst, hlater⟩ := Flow.Ends.of_bind ends
    have hs₁ := (Dispatching.ensures_register_waiting hs hrequest).ends hfirst
    cases x with
    | error e =>
      obtain ⟨htransient, hs₁⟩ := hs₁
      -- the line that something is given up is not reached
      change Flow.Ends R (if (!e.isTransient) = true then _ else _) s₁ w₁ n s' w' at hlater
      rw [if_neg (by rw [htransient]; nofun)] at hlater
      obtain ⟨attempts, rfl, hswept, rfl, hall⟩ := ih hs₁ hrest hlater
      refine ⟨⟨request, .error e⟩ :: attempts, rfl, .attempt hfirst hswept, rfl, ?_⟩
      refine List.forall_mem_cons.2 ⟨?_, hall⟩
      rintro _ ⟨⟩
      exact htransient
    | ok id =>
      obtain ⟨count, s₂, w₂, hlater, hcount⟩ := Flow.Ends.of_bind hlater
      cases hcount
      obtain ⟨attempts, rfl, hswept, rfl, hall⟩ := ih hs₁ hrest hlater
      refine ⟨⟨request, .ok id⟩ :: attempts, rfl, .attempt hfirst hswept, rfl, ?_⟩
      exact List.forall_mem_cons.2 ⟨nofun, hall⟩

theorem Dispatching.leaves_resubscribeEach (topics : List String) :
    (resubscribeEach topics).Leaves (id : DispatchState → DispatchState) := by
  induction topics with
  | nil => trivial
  | cons topic rest ih =>
    rintro (reason | ⟨⟩)
    · exact fun _ => ih
    · exact ih

theorem Dispatching.ends_retryPending {n : Nat}
    (ends : Flow.Ends R Dispatching.retryPending s w n s' w') :
    ∃ w₁, Flow.Ends R (Dispatching.registerQueued s.pending) { s with pending := [] } w n s' w₁ ∧
      (w' = w₁ ∨ ∃ line, R w₁ (.log line) () w') := by
  cases ends with
  | access rest =>
    change Flow.Ends R (if s.pending.isEmpty = true then _ else _) { s with pending := [] } w n s' w'
      at rest
    split at rest
    · next hempty =>
      cases rest
      rw [List.isEmpty_iff.1 hempty]
      exact ⟨w, .done, .inl rfl⟩
    · obtain ⟨count, s₁, w₁, hqueued, hlog⟩ := Flow.Ends.of_bind rest
      cases hlog with
      | ask answered rest =>
        cases rest
        exact ⟨w₁, hqueued, .inr ⟨_, answered⟩⟩

theorem Dispatching.ends_resubscribe {x : Unit}
    (ends : Flow.Ends R Dispatching.resubscribe s w x s' w') :
    ∃ n w₁, Flow.Ends R Dispatching.retryPending s w₁ n s' w' := by
  have hlast {w : W} (ends : Flow.Ends R (Dispatching.retryPending.bind fun _ => .done ()) s w x s' w') :
      ∃ n w₁, Flow.Ends R Dispatching.retryPending s w₁ n s' w' := by
    obtain ⟨n, _, _, hretry, hdone⟩ := Flow.Ends.of_bind ends
    cases hdone
    exact ⟨n, w, hretry⟩
  cases ends with
  | access rest =>
    change Flow.Ends R (if s.broker = true then _ else _) s w x s' w' at rest
    split at rest
    · cases rest with
      | access rest =>
        change Flow.Ends R ((Dispatching.resubscribeEach s.table.topics).bind _) s w x s' w' at rest
        obtain ⟨_, s₁, w₁, hsubscribed, hretry⟩ := Flow.Ends.of_bind rest
        obtain rfl := (Dispatching.leaves_resubscribeEach _).ends hsubscribed
        exact hlast hretry
    · exact hlast rest

end

/-- After one thing and another has happened to a dispatcher, its queue holds only requests for messages
on topics not all of which are blank, and these are to be retried. A sweep tries each of them once, in
the order of the queue. Those that fail, all for reasons that may clear up, are the queue after it, in
the same order. The others, as many as are counted, are in the table, each under a number of its own,
unless a later one was put in its place. When the broker is back, such a sweep follows too. -/
theorem Dispatched.retryPending_retries {s : DispatchState} (h : Dispatched s) :
    (∀ r ∈ s.pending, r.tolerance = .retry ∧ ∃ topics, r.trigger = .message topics ∧
      ∃ topic ∈ topics, Text.isBlankText topic = false) ∧
    (∀ {W : Type} {R : Surroundings dispatchServices W} {w w' : W} {n : Nat} {s' : DispatchState},
      Flow.Ends R Dispatching.retryPending s w n s' w' → ∃ attempts w₁,
        attempts.map (·.request) = s.pending ∧
        Swept R attempts { s with pending := [] } w s' w₁ ∧
        (w' = w₁ ∨ ∃ line, R w₁ (.log line) () w') ∧
        (∀ a ∈ attempts, ∀ e, a.result = .error e → e.isTransient = true) ∧
        s'.pending = failedIn attempts ∧ n = (enteredIn attempts).length ∧
        s'.table.registrations =
          unreplaced (enteredIn attempts) s.table.registrations ++ standing (enteredIn attempts) ∧
        (s'.table.registrations.map (·.id)).Nodup) ∧
    ∀ {W : Type} {R : Surroundings dispatchServices W} {w w' : W} {x : Unit} {s' : DispatchState},
      Flow.Ends R Dispatching.resubscribe s w x s' w' →
        ∃ n w₁, Flow.Ends R Dispatching.retryPending s w₁ n s' w' := by
  refine ⟨fun r hr => ⟨(h.waits r hr).retry, (h.waits r hr).topics⟩, fun ends => ?_,
    Dispatching.ends_resubscribe⟩
  obtain ⟨w₁, hqueued, hlog⟩ := Dispatching.ends_retryPending ends
  have hdrained := (DispatchState.Holds.of_sound h.sound h.tidy.sorted).requeue fun _ => []
  obtain ⟨attempts, hattempts, hswept, hcount, htransient⟩ := hdrained.exists_swept h.waits hqueued
  have hwaits : ∀ a ∈ attempts, a.request.Waits := fun a ha =>
    h.waits _ (hattempts ▸ List.mem_map_of_mem ha)
  have hs' := hdrained.swept hwaits hswept
  refine ⟨attempts, w₁, hattempts, hswept, hlog, htransient, hs'.queue, hcount, hs'.table, ?_⟩
  rw [hs'.table]
  exact hs'.nodup

/-- A request of the porch for messages, which takes the place of an earlier one and is to be retried. -/
def waitingPorch (topic : String) : RegisterRequest :=
  { program := "porch", function := { name := "light", mode := .adaptive (.user "porch") },
    trigger := .message [topic], tolerance := .retry }

/-- A dispatcher to which three requests came while there was no broker, twice for the lamp and once for
the bell. -/
def porchWaiting : DispatchState :=
  let register (s : DispatchState) (topic : String) : DispatchState :=
    ((Happening.call (.register (waitingPorch topic))).flow.play (refusing "bell") s false).2.1
  let queued := register (register (register {} "lamp") "lamp") "bell"
  (Happening.brokerSet.flow.play (refusing "bell") queued false).2.1

theorem dispatched_porchWaiting : Dispatched porchWaiting :=
  ((((Dispatched.start {}).play _ _ _).play _ _ _).play _ _ _).play .brokerSet _ _

/-- The sweep that follows, with a broker that refuses bells. -/
def porchSwept : Nat × DispatchState × Bool :=
  Dispatching.retryPending.play (refusing "bell") porchWaiting false

/-- Of three that waited two are entered, the later in the place of the earlier, and one waits again. -/
theorem Dispatched.porch_retries :
    porchWaiting.pending.length = 3 ∧
    Flow.Ends anyAnswers Dispatching.retryPending porchWaiting false 2 porchSwept.2.1 porchSwept.2.2 ∧
    (∃ attempts w₁, attempts.map (·.request) = porchWaiting.pending ∧
      Swept anyAnswers attempts { porchWaiting with pending := [] } false porchSwept.2.1 w₁ ∧
      (enteredIn attempts).length = 2 ∧ porchSwept.2.1.pending = failedIn attempts ∧
      porchSwept.2.1.table.registrations =
        unreplaced (enteredIn attempts) porchWaiting.table.registrations ++
          standing (enteredIn attempts)) ∧
    porchSwept.2.1.pending.map (·.trigger.same (.message ["bell"])) = [true] ∧
    porchSwept.2.1.table.registrations.map (·.id) = [2] := by
  have hends : Flow.Ends anyAnswers Dispatching.retryPending porchWaiting false porchSwept.1
      porchSwept.2.1 porchSwept.2.2 :=
    Flow.ends_play (fun _ _ => trivial) Dispatching.retryPending porchWaiting false
  rw [show porchSwept.1 = 2 by decide] at hends
  obtain ⟨-, hsweeps, -⟩ := Dispatched.retryPending_retries dispatched_porchWaiting
  obtain ⟨attempts, w₁, hattempts, hswept, -, -, hqueue, hcount, htable, -⟩ := hsweeps hends
  exact ⟨by decide, hends, ⟨attempts, w₁, hattempts, hswept, hcount.symm, hqueue, htable⟩, by decide,
    by decide⟩

end DriverHub
