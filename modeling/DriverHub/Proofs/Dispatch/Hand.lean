import DriverHub.Proofs.Dispatch.Table
import DriverHub.Proofs.Flow.Session

/-! What a call of the dispatcher has in hand. A call draws a number before it enters a registration
under it, and takes a registration out of the table before it delivers to it for the last time. As
nobody else can enter under a number or take out what is taken out, the numbers and the registrations
in hand are the call's own, whatever others do in between. -/

namespace DriverHub

/-- The calls of the dispatcher: those of scripts and of the hub, and the events that it is told. -/
inductive DispatchCall where
  | register (request : RegisterRequest)
  | unregister (id : RegistrationId)
  | unregisterProgram (program : String)
  | dropAnnotations (driver : Option DriverId) (device : Option DeviceId)
  | event (event : DispatchEvent)

namespace DispatchCall

@[reducible]
def Result : DispatchCall → Type
  | register _ => Except DispatchError RegistrationId
  | unregister _ => Bool
  | unregisterProgram _ => Nat
  | dropAnnotations .. => Nat
  | event _ => Unit

def flow : (call : DispatchCall) → Dispatching call.Result
  | register request => Dispatching.register request
  | unregister id => Dispatching.unregister id
  | unregisterProgram program => Dispatching.unregisterProgram program
  | dropAnnotations driver device => Dispatching.dropAnnotations driver device
  | event e => Dispatching.handle e

end DispatchCall

abbrev DispatchAct := Flow.Act dispatchServices DispatchState

abbrev DispatchTurn := Flow.Turn dispatchServices DispatchState

/-- Whether a call may deliver to registrations that fire once: a timer that fires, or a job that
ends. -/
def DispatchCall.fires : DispatchCall → Bool
  | event (.timer _) | event (.jobTerminated _) => true
  | _ => false

/-- The numbers that a call has drawn and not used, and the registrations that it has taken out and
not delivered to. -/
structure Hand where
  fires : Bool
  drawn : List RegistrationId := []
  taken : List RegistrationId := []

/-- Delivers to a registration that fires once. -/
def DispatchService.lastFor : DispatchService → Option RegistrationId
  | deliver r _ => if r.request.trigger.isOneShot then some r.id else none
  | _ => none

namespace Hand

/-- What the holder of a hand finds whenever its turn comes: the table is sound, and nothing has been
entered under its numbers. -/
structure Relies (g : Hand) (s : DispatchState) : Prop where
  sound : s.Sound
  drawn : ∀ id ∈ g.drawn, id < s.nextId ∧ s.table.get? id = none

inductive Moves : Hand → DispatchState → DispatchAct → Hand → Prop
  | aside {g s update} (table : (update s).table = s.table) (nextId : (update s).nextId = s.nextId) :
    Moves g s (.accessed update) g
  | draw {fires drawn taken s update} (table : (update s).table = s.table)
      (nextId : (update s).nextId = s.nextId + 1) :
    Moves ⟨fires, drawn, taken⟩ s (.accessed update) ⟨fires, s.nextId :: drawn, taken⟩
  | enter {r fires drawn taken s update} (table : (update s).table = (s.table.insert r).2)
      (nextId : (update s).nextId = s.nextId) :
    Moves ⟨fires, r.id :: drawn, taken⟩ s (.accessed update) ⟨fires, drawn, taken⟩
  | take {id r fires drawn taken s update} (found : s.table.get? id = some r)
      (table : (update s).table = (s.table.remove id).2) (nextId : (update s).nextId = s.nextId) :
    Moves ⟨fires, drawn, taken⟩ s (.accessed update) ⟨fires, drawn, id :: taken⟩
  | ask {g s q b} (quiet : q.lastFor = none) : Moves g s (.asked q b) g
  | deliver {id drawn taken s q b} (last : q.lastFor = some id) :
    Moves ⟨true, drawn, id :: taken⟩ s (.asked q b) ⟨true, drawn, taken⟩

/-- The protocol of hands; whatever is asked, any answer is reckoned with. -/
def protocol : Flow.Protocol dispatchServices DispatchState Hand where
  relies := Relies
  answers _ _ := True
  moves := Moves

/-- A hand with more registrations taken out. -/
def took (got : List RegistrationId) (g : Hand) : Hand := { g with taken := got ++ g.taken }

@[simp] theorem took_took (got more : List RegistrationId) (g : Hand) :
    (g.took got).took more = g.took (more ++ got) := by
  simp [took]

end Hand

/-! ### Steps -/

namespace Dispatching

open Hand

variable {α β : Type} {g : Hand}

theorem keeps_look {f : DispatchState → α} {Q : α → Hand → Prop} (h : ∀ s, g.Relies s → Q (f s) g) :
    (look f).Keeps Hand.protocol g Q :=
  fun s hs => ⟨g, .aside rfl rfl, h s hs⟩

theorem keeps_ask {q : DispatchService} {Q : q.Answer → Hand → Prop} (quiet : q.lastFor = none)
    (h : ∀ b, Q b g) : (ask q).Keeps Hand.protocol g Q :=
  fun _ b _ _ => ⟨g, .ask quiet, h b⟩

/-- An access that leaves the table and the numbers alone. -/
theorem keeps_exchange {f : DispatchState → α × DispatchState} {Q : α → Hand → Prop}
    (table : ∀ s, (f s).2.table = s.table) (nextId : ∀ s, (f s).2.nextId = s.nextId)
    (h : ∀ a, Q a g) : (Flow.exchange f : Dispatching α).Keeps Hand.protocol g Q :=
  fun s _ => ⟨g, .aside (table s) (nextId s), h _⟩

theorem keeps_change {f : DispatchState → DispatchState} {Q : Unit → Hand → Prop}
    (table : ∀ s, (f s).table = s.table) (nextId : ∀ s, (f s).nextId = s.nextId) (h : Q () g) :
    (Flow.change f : Dispatching Unit).Keeps Hand.protocol g Q :=
  fun s _ => ⟨g, .aside (table s) (nextId s), h⟩

theorem keeps_takeId {Q : RegistrationId → Hand → Prop}
    (h : ∀ id, Q id { g with drawn := id :: g.drawn }) : takeId.Keeps Hand.protocol g Q :=
  fun s _ => ⟨_, .draw rfl rfl, h s.nextId⟩

theorem keeps_insertEntry {r : Registration} {Q : List String → Hand → Prop}
    (h : ∀ fresh, Q fresh g) :
    (insertEntry r).Keeps Hand.protocol { g with drawn := r.id :: g.drawn } Q :=
  fun s _ => ⟨_, .enter rfl rfl, h (s.table.insert r).1⟩

theorem keeps_removeEntry {id : RegistrationId}
    {Q : Option (Registration × List String) → Hand → Prop}
    (hnone : Q none g) (hsome : ∀ r orphaned, r.id = id → Q (some (r, orphaned)) (g.took [id])) :
    (removeEntry id).Keeps Hand.protocol g Q := by
  intro s hs
  cases hr : s.table.get? id with
  | none =>
    have hremove := RegistrationTable.remove_of_none hr
    refine ⟨g, .aside ?_ rfl, ?_⟩
    · simp only [hremove]
    · simpa only [Flow.Keeps, hremove] using hnone
  | some r =>
    refine ⟨_, .take hr rfl rfl, ?_⟩
    simp only [RegistrationTable.remove_fst hr]
    exact hsome r _ (hs.sound.indexed.id_eq hr)

theorem keeps_detach {id : RegistrationId} {Q : Option (Registration × List String) → Hand → Prop}
    (hnone : Q none g) (hsome : ∀ r orphaned, r.id = id → Q (some (r, orphaned)) (g.took [id])) :
    (detach id).Keeps Hand.protocol g Q := by
  refine Flow.keeps_bind.2 (keeps_removeEntry hnone ?_)
  intro r orphaned hr
  refine Flow.keeps_bind.2 (keeps_exchange (fun _ => rfl) (fun _ => rfl) ?_)
  intro armed
  have hend : Q (some (r, orphaned)) (g.took [id]) := hsome r orphaned hr
  cases armed with
  | false => exact hend
  | true => exact Flow.keeps_bind.2 (keeps_ask rfl fun _ => hend)

/-! ### Registering and unregistering -/

theorem keeps_unsubscribeEach (failed : String) (topics : List String) {Q : Unit → Hand → Prop}
    (h : Q () g) : (unsubscribeEach failed topics).Keeps Hand.protocol g Q := by
  induction topics with
  | nil => exact h
  | cons topic rest ih =>
    refine Flow.keeps_bind.2 (keeps_ask rfl ?_)
    intro answer
    rcases answer with reason | ⟨⟩
    · exact Flow.keeps_bind.2 (keeps_ask rfl fun _ => ih)
    · exact ih

theorem keeps_unsubscribeAll (topics : List String) {Q : Unit → Hand → Prop} (h : Q () g) :
    (unsubscribeAll topics).Keeps Hand.protocol g Q := by
  unfold unsubscribeAll
  split
  · exact h
  · refine Flow.keeps_bind.2 (keeps_look ?_)
    intro s _
    split
    · exact keeps_unsubscribeEach _ _ h
    · exact h

/-- Where a call answers that it took a registration back, it has taken it out. -/
theorem keeps_unregister {id : RegistrationId} {Q : Bool → Hand → Prop} (hfalse : Q false g)
    (htrue : Q true (g.took [id])) : (unregister id).Keeps Hand.protocol g Q := by
  refine Flow.keeps_bind.2 (keeps_detach hfalse ?_)
  intro r orphaned _
  exact Flow.keeps_bind.2 (keeps_unsubscribeAll orphaned htrue)

/-- A call that takes back several has taken out as many as it says. -/
theorem keeps_unregisterAll (ids : List RegistrationId) {Q : Nat → Hand → Prop}
    (h : ∀ got, Q got.length (g.took got)) : (unregisterAll ids).Keeps Hand.protocol g Q := by
  induction ids generalizing g Q with
  | nil => exact h []
  | cons id rest ih =>
    refine Flow.keeps_bind.2 (keeps_unregister ?_ ?_)
    · exact Flow.keeps_bind.2 (ih h)
    · refine Flow.keeps_bind.2 (ih ?_)
      intro got
      have hgot := h (got ++ [id])
      rw [← took_took, List.length_append] at hgot
      exact hgot

theorem keeps_unregisterProgram (program : String) {Q : Nat → Hand → Prop}
    (h : ∀ got, Q got.length (g.took got)) :
    (unregisterProgram program).Keeps Hand.protocol g Q :=
  Flow.keeps_bind.2 (keeps_look fun _ _ => keeps_unregisterAll _ h)

theorem keeps_dropAnnotations (driver : Option DriverId) (device : Option DeviceId)
    {Q : Nat → Hand → Prop} (h : ∀ got, Q got.length (g.took got)) :
    (dropAnnotations driver device).Keeps Hand.protocol g Q := by
  refine Flow.keeps_bind.2 (keeps_change (fun _ => rfl) (fun _ => rfl) ?_)
  exact Flow.keeps_bind.2 (keeps_look fun _ _ => keeps_unregisterAll _ h)

theorem keeps_subscribeAll (id : RegistrationId) (subscribed topics : List String)
    {Q : Except DispatchError Unit → Hand → Prop} (h : ∀ x got, Q x (g.took got)) :
    (subscribeAll id subscribed topics).Keeps Hand.protocol g Q := by
  induction topics generalizing subscribed with
  | nil => exact h _ []
  | cons topic rest ih =>
    refine Flow.keeps_bind.2 (keeps_ask rfl ?_)
    intro answer
    rcases answer with reason | ⟨⟩
    · refine Flow.keeps_bind.2 (keeps_removeEntry (h _ []) ?_)
      intro r orphaned _
      exact Flow.keeps_bind.2 (keeps_unsubscribeEach _ _ (h _ [id]))
    · exact ih _

theorem keeps_armTimer (id : RegistrationId) (trigger : Trigger) {Q : Unit → Hand → Prop}
    (h : Q () g) : (armTimer id trigger).Keeps Hand.protocol g Q := by
  unfold armTimer
  split
  · refine Flow.keeps_bind.2 (keeps_ask rfl fun now => ?_)
    refine Flow.keeps_bind.2 (keeps_ask rfl fun _ => ?_)
    exact keeps_change (fun _ => rfl) (fun _ => rfl) h
  · exact h

theorem keeps_checkReady (trigger : Trigger) {Q : Except DispatchError Unit → Hand → Prop}
    (h : ∀ x, Q x g) : (DispatchAttempt.checkReady trigger).run.Keeps Hand.protocol g Q := by
  unfold DispatchAttempt.checkReady
  split
  · refine Attempt.keeps_bind.2 (Attempt.keeps_lift.2 (keeps_look fun s _ => ?_))
    dsimp only
    split <;> exact h _
  · refine Attempt.keeps_bind.2 (Attempt.keeps_lift.2 (keeps_look fun s _ => ?_))
    dsimp only
    split <;> exact h _
  · exact h _

/-- A call that enters a request uses up the number that it draws, and may have taken others out. -/
theorem keeps_enter (request : RegisterRequest)
    {Q : Except DispatchError RegistrationId → Hand → Prop}
    (h : ∀ x got, Q x (g.took got)) :
    (DispatchAttempt.enter request).run.Keeps Hand.protocol g Q := by
  refine Attempt.keeps_bind.2 (Attempt.keeps_some (h _ []) fun trigger _ => ?_)
  refine Attempt.keeps_bind.2 (keeps_checkReady trigger ?_)
  intro ready
  rcases ready with e | ⟨⟩
  · exact h _ []
  refine Attempt.keeps_bind.2 (Attempt.keeps_lift.2 (keeps_look fun s _ => ?_))
  refine Attempt.keeps_bind.2 (Attempt.keeps_lift.2 (keeps_takeId fun id => ?_))
  refine Attempt.keeps_bind.2 (Attempt.keeps_lift.2 (keeps_insertEntry fun fresh => ?_))
  refine Attempt.keeps_bind.2 (Flow.keeps_bind.2 (keeps_subscribeAll id [] fresh ?_))
  intro x got
  rcases x with e | ⟨⟩
  · exact h _ got
  refine Attempt.keeps_bind.2 (Attempt.keeps_lift.2 (keeps_armTimer id trigger ?_))
  refine Attempt.keeps_bind.2 (Attempt.keeps_lift.2 (keeps_unregisterAll _ fun more => ?_))
  refine Attempt.keeps_bind.2 (Attempt.keeps_lift.2 (keeps_ask rfl fun _ => ?_))
  have hend := h (.ok id) (more ++ got)
  rw [← took_took] at hend
  exact hend

theorem keeps_register (request : RegisterRequest)
    {Q : Except DispatchError RegistrationId → Hand → Prop} (h : ∀ x got, Q x (g.took got)) :
    (register request).Keeps Hand.protocol g Q := by
  refine Flow.keeps_bind.2 (keeps_enter request ?_)
  intro x got
  rcases x with e | id
  · dsimp only
    split
    · refine Flow.keeps_bind.2 (keeps_ask rfl fun _ => ?_)
      exact Flow.keeps_bind.2 (keeps_change (fun _ => rfl) (fun _ => rfl) (h _ got))
    · exact h _ got
  · exact h _ got

/-! ### Events -/

/-- A flow that may be run with anything in hand; where `fires`, as a part of a call that may deliver
to registrations that fire once. -/
def Handles (fires : Bool) (flow : Dispatching α) : Prop :=
  ∀ g : Hand, (fires = true → g.fires = true) →
    flow.Keeps Hand.protocol g fun _ h => h.fires = g.fires

variable {fires : Bool}

theorem Handles.bind {flow : Dispatching α} {k : α → Dispatching β} (h : Handles fires flow)
    (hk : ∀ a, Handles fires (k a)) : Handles fires (flow >>= k) := by
  intro g hg
  refine Flow.keeps_bind.2 ((h g hg).mono ?_)
  intro a g' hfires
  have hrest := hk a g' fun hf => hfires ▸ hg hf
  rwa [hfires] at hrest

theorem handles_pure (a : α) : Handles fires (pure a : Dispatching α) := fun _ _ => rfl

theorem handles_look (f : DispatchState → α) : Handles fires (look f) :=
  fun _ _ => keeps_look fun _ _ => rfl

theorem handles_ask {q : DispatchService} (quiet : q.lastFor = none) : Handles fires (ask q) :=
  fun _ _ => keeps_ask quiet fun _ => rfl

theorem handles_registerQueued (requests : List RegisterRequest) :
    Handles fires (registerQueued requests) := by
  induction requests with
  | nil => exact handles_pure 0
  | cons request rest ih =>
    refine Handles.bind (fun _ _ => keeps_register request fun _ _ => rfl) ?_
    intro x
    rcases x with e | id
    · dsimp only
      split
      · exact Handles.bind (handles_ask rfl) fun _ => ih
      · exact ih
    · exact Handles.bind ih fun _ => handles_pure _

theorem handles_retryPending : Handles fires retryPending := by
  refine Handles.bind (fun _ _ => keeps_exchange (fun _ => rfl) (fun _ => rfl) fun _ => rfl) ?_
  intro queued
  split
  · exact handles_pure 0
  · refine Handles.bind (handles_registerQueued queued) fun count => ?_
    exact Handles.bind (handles_ask rfl) fun _ => handles_pure count

theorem handles_resubscribeEach (topics : List String) : Handles fires (resubscribeEach topics) := by
  induction topics with
  | nil => exact handles_pure ()
  | cons topic rest ih =>
    refine Handles.bind (handles_ask rfl) ?_
    intro answer
    rcases answer with reason | ⟨⟩
    · exact Handles.bind (handles_ask rfl) fun _ => ih
    · exact ih

theorem handles_resubscribe : Handles fires resubscribe := by
  have hretry : Handles fires (retryPending >>= fun _ => (pure PUnit.unit : Dispatching PUnit)) :=
    handles_retryPending.bind fun _ => handles_pure _
  refine Handles.bind (handles_look _) ?_
  intro broker
  cases broker with
  | false => exact hretry
  | true =>
    refine Handles.bind (handles_look _) fun topics => ?_
    exact Handles.bind (handles_resubscribeEach topics) fun _ => hretry

/-- To deliver to a registration that fires once, a call must have taken it out. -/
theorem keeps_deliver_taken (r : Registration) (params : List (String × ScriptType))
    (args : List Value) {Q : Unit → Hand → Prop} (hg : g.fires = true) (h : Q () g)
    (hspare : Q () (g.took [r.id])) :
    (deliver r params args).Keeps Hand.protocol (g.took [r.id]) Q := by
  let q : DispatchService := .deliver r (r.request.function.call params args)
  obtain ⟨fires, drawn, taken⟩ := g
  obtain rfl : fires = true := hg
  intro s b _ _
  by_cases hlast : r.request.trigger.isOneShot = true
  · have hq : q.lastFor = some r.id := if_pos hlast
    exact ⟨_, .deliver hq, h⟩
  · have hq : q.lastFor = none := if_neg hlast
    exact ⟨_, .ask hq, hspare⟩

theorem handles_deliver {r : Registration} (hr : r.request.trigger.isOneShot = false)
    (params : List (String × ScriptType)) (args : List Value) :
    Handles fires (deliver r params args) := by
  have hq : (DispatchService.deliver r (r.request.function.call params args)).lastFor = none :=
    if_neg (by simp [hr])
  exact Handles.bind (handles_ask hq) fun _ => handles_pure _

theorem handles_deliverEach (params : Registration → List (String × ScriptType))
    (args : Registration → List Value) {rs : List Registration}
    (hrs : ∀ r ∈ rs, r.request.trigger.isOneShot = false) :
    Handles fires (deliverEach params args rs) := by
  induction rs with
  | nil => exact handles_pure ()
  | cons r rest ih =>
    have hrest := ih fun r hr => hrs r (List.mem_cons_of_mem _ hr)
    exact Handles.bind (handles_deliver (hrs r List.mem_cons_self) _ _) fun _ => hrest

theorem handles_deliverMessage (topic payload : String) :
    Handles fires (deliverMessage topic payload) := by
  intro g hg
  refine Flow.keeps_bind.2 (keeps_look fun s hs => ?_)
  have hlisteners : ∀ r ∈ s.table.listeners topic, r.request.trigger.isOneShot = false :=
    fun r hr => Registration.not_isOneShot_of_mem_topics (hs.sound.indexed.topic_of_mem_listeners hr)
  exact Handles.bind (handles_deliverEach _ _ hlisteners) (fun _ => handles_pure _) g hg

theorem handles_emit (driver : DriverId) (device : DeviceId) (topic : String) (data : Value) :
    Handles fires (emit driver device topic data) := by
  intro g hg
  refine Flow.keeps_bind.2 (keeps_look fun s _ => ?_)
  have hlisteners : ∀ r ∈ s.table.deviceListeners driver device topic,
      r.request.trigger.isOneShot = false :=
    fun r hr => RegistrationTable.not_isOneShot_of_mem_deviceListeners hr
  exact Handles.bind (handles_deliverEach _ _ hlisteners) (fun _ => handles_pure _) g hg

theorem handles_fireTimer (id : RegistrationId) : Handles true (fireTimer id) := by
  refine Handles.bind (handles_look _) ?_
  intro trigger
  split
  · exact handles_pure 0
  · intro g hg
    refine Flow.keeps_bind.2 (keeps_detach rfl ?_)
    rintro r orphaned rfl
    refine Flow.keeps_bind.2 (keeps_ask rfl fun now => ?_)
    exact Flow.keeps_bind.2 (keeps_deliver_taken r _ _ (hg rfl) rfl rfl)
  · exact Handles.bind (handles_ask rfl) fun _ => handles_pure 0

theorem handles_deliverKills (ids : List RegistrationId) : Handles true (deliverKills ids) := by
  induction ids with
  | nil => exact handles_pure 0
  | cons id rest ih =>
    intro g hg
    refine Flow.keeps_bind.2 (keeps_detach (ih g hg) ?_)
    rintro r orphaned rfl
    have hrest := Handles.bind ih fun count => handles_pure (count + 1)
    exact Flow.keeps_bind.2 (keeps_deliver_taken r [] [] (hg rfl) (hrest g hg) (hrest _ hg))

theorem handles_jobTerminated (job : JobId) : Handles true (jobTerminated job) := by
  refine Handles.bind (handles_look _) fun ids => ?_
  refine Handles.bind (handles_deliverKills ids) fun fired => ?_
  refine Handles.bind (fun _ _ => keeps_change (fun _ => rfl) (fun _ => rfl) rfl) fun _ => ?_
  exact handles_pure fired

theorem handles_handle (event : DispatchEvent) :
    Handles (DispatchCall.fires (.event event)) (handle event) := by
  have hdiscard {fires : Bool} {flow : Dispatching Nat} (h : Handles fires flow) :
      Handles fires (discard flow) := h.bind fun _ => handles_pure ()
  cases event with
  | timer id => exact hdiscard (handles_fireTimer id)
  | message topic payload => exact hdiscard (handles_deliverMessage topic payload)
  | jobTerminated job => exact hdiscard (handles_jobTerminated job)
  | deviceEvent driver device topic data => exact hdiscard (handles_emit driver device topic data)
  | brokerConnected => exact handles_resubscribe
  | retryPending => exact hdiscard handles_retryPending

end Dispatching

namespace DispatchCall

/-- What a call has in hand when it ends, by what it answers: what it took back, it has taken out and
does not deliver to. -/
def Ends : (call : DispatchCall) → call.Result → Hand → Prop
  | unregister id, found, g => found = true → id ∈ g.taken
  | unregisterProgram _, count, g => count = g.taken.length
  | _, _, _ => True

/-- Every call keeps to the protocol of hands, and starts with empty ones. -/
theorem keeps_flow (call : DispatchCall) :
    call.flow.Keeps Hand.protocol ⟨call.fires, [], []⟩ call.Ends := by
  cases call with
  | register request => exact Dispatching.keeps_register request fun _ _ => trivial
  | unregister id =>
    refine Dispatching.keeps_unregister ?_ ?_
    · exact fun h => Bool.noConfusion h
    · exact fun _ => List.mem_cons_self
  | unregisterProgram program =>
    refine Dispatching.keeps_unregisterProgram program fun got => ?_
    simp [Ends, Hand.took]
  | dropAnnotations driver device =>
    exact Dispatching.keeps_dropAnnotations driver device fun _ => trivial
  | event e => exact (Dispatching.handles_handle e _ id).mono fun _ _ _ => trivial

end DispatchCall

end DriverHub
