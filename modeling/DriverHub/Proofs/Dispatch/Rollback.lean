import DriverHub.Proofs.Dispatch.Sequence
import DriverHub.Proofs.Flow.Questions

/-! A registration that fails leaves nothing behind. If the broker refuses a topic, the registration is
taken out of the table again, which is then as it was, and whatever was subscribed for it so far is
unsubscribed. -/

namespace DriverHub

namespace RegistrationTable

variable {id : RegistrationId} {r : Registration} {table : RegistrationTable} {topic : String}

theorem Listed.not_mem {ids : List RegistrationId} {p : Registration → Prop} (h : table.Listed ids p)
    (hr : table.get? id = none) : id ∉ ids := by
  rw [h, hr]
  simp

theorem filter_appended {ids : List RegistrationId} (h : id ∉ ids) :
    (ids ++ [id]).filter (· ≠ id) = ids := by
  rw [List.filter_append, List.filter_eq_self.2]
  · simp
  · intro k hk
    have hne : k ≠ id := ne_of_mem_of_not_mem hk h
    simpa using hne

theorem find?_eq_of_getD {κ : Type} [DecidableEq κ] {index other : Dict κ (List RegistrationId)} {k : κ}
    (h : Dict.find? k index ≠ some []) (h' : Dict.find? k other ≠ some [])
    (heq : (Dict.find? k index).getD [] = (Dict.find? k other).getD []) :
    Dict.find? k index = Dict.find? k other := by
  cases hindex : Dict.find? k index <;> cases hother : Dict.find? k other <;> simp_all

/-- Taking out what was just entered leaves the table as it was, and orphans the topics that were
fresh. -/
theorem Tidy.remove_insert (h : table.Tidy) (hr : table.get? r.id = none) :
    ∃ orphaned, (table.insert r).2.remove r.id = (some (r, orphaned), table) ∧ orphaned.Nodup ∧
      ∀ topic, topic ∈ orphaned ↔ topic ∈ (table.insert r).1 := by
  have hinserted := h.insert hr
  have hremoved := hinserted.remove r.id
  have hfound : (table.insert r).2.get? r.id = some r := by rw [get?_insert, if_pos rfl]
  have hids : ∀ topic, idsOn topic ((table.insert r).2.remove r.id).2.listening =
      idsOn topic table.listening := by
    intro topic
    have hnew : r.id ∉ idsOn topic table.listening := by
      rw [h.indexed.mem_iff, hr]
      simp
    rw [hinserted.indexed.idsOn_remove, h.indexed.idsOn_insert hr]
    split
    · exact filter_appended hnew
    · refine List.filter_eq_self.2 fun k hk => ?_
      have hne : k ≠ r.id := ne_of_mem_of_not_mem hk hnew
      simpa using hne
  have hall : ((table.insert r).2.remove r.id).2.all = table.all := by
    refine Dict.ext_of_sorted hremoved.sorted h.sorted fun k => ?_
    rw [all_remove, all_insert, Dict.find?_erase, Dict.find?_insert]
    split
    · next hk => exact hk ▸ hr.symm
    · rfl
  have hlistening : ((table.insert r).2.remove r.id).2.listening = table.listening :=
    Dict.ext_of_sorted hremoved.sorted_topics h.sorted_topics fun topic =>
      find?_eq_of_getD (hremoved.indexed.filled topic) (h.indexed.filled topic) (hids topic)
  have hkills : ((table.insert r).2.remove r.id).2.kills = table.kills := by
    refine Dict.ext_of_sorted hremoved.sorted_kills h.sorted_kills fun job => ?_
    refine find?_eq_of_getD (hremoved.kills_filled job) (h.kills_filled job) ?_
    have hwaiting := waitingFor_remove hfound job
    rw [waitingFor_insert] at hwaiting
    refine hwaiting.trans ?_
    split
    · exact filter_appended (Listed.not_mem (h.kills job) hr)
    · rfl
  have hdevices : ((table.insert r).2.remove r.id).2.deviceEvents = table.deviceEvents := by
    rw [deviceEvents_remove hfound, deviceEvents_insert]
    split
    · exact filter_appended (Listed.not_mem h.devices hr)
    · rfl
  refine ⟨_, Prod.ext (remove_fst hfound) ?_, nodup_orphaned hinserted.indexed.filled _ _, ?_⟩
  · -- a table is its four parts
    generalize ((table.insert r).2.remove r.id).2 = after at *
    cases after
    cases table
    simp_all
  · intro topic
    rw [hinserted.indexed.mem_orphaned_iff hfound, h.indexed.mem_insert_fst hr,
      hremoved.indexed.listeners_eq_nil_iff, hids, h.indexed.listeners_eq_nil_iff, and_comm]

end RegistrationTable

/-! ### What the broker is asked -/

abbrev DispatchExchange := Flow.Exchange dispatchServices

/-- The topic that was subscribed by a question, if the broker did not refuse. -/
def DispatchService.subscribed? : (q : DispatchService) → q.Answer → Option String
  | subscribe topic, .ok _ => some topic
  | _, _ => none

/-- The topic that the broker was asked to unsubscribe from, whether it did or not. -/
def DispatchService.unsubscribed? : DispatchService → Option String
  | unsubscribe topic => some topic
  | _ => none

/-- The topics that were subscribed, in this order. -/
def subscribed (said : List DispatchExchange) : List String :=
  said.filterMap fun e => e.question.subscribed? e.answer

/-- The topics that were to be unsubscribed, in this order. -/
def unsubscribed (said : List DispatchExchange) : List String :=
  said.filterMap fun e => e.question.unsubscribed?

theorem subscribed_concat (said : List DispatchExchange) (q : DispatchService) (b : q.Answer) :
    subscribed (said ++ [⟨q, b⟩]) = subscribed said ++ (q.subscribed? b).toList := by
  unfold subscribed
  rw [List.filterMap_append]
  cases h : q.subscribed? b <;> simp [h]

theorem unsubscribed_concat (said : List DispatchExchange) (q : DispatchService) (b : q.Answer) :
    unsubscribed (said ++ [⟨q, b⟩]) = unsubscribed said ++ q.unsubscribed?.toList := by
  unfold unsubscribed
  rw [List.filterMap_append]
  cases h : q.unsubscribed? <;> simp [h]

variable {W : Type} {R : Surroundings dispatchServices W} {s s' : DispatchState}
  {w : W × List DispatchExchange} {request : RegisterRequest}

namespace Dispatching

theorem ensures_said (q : DispatchService) : (ask q).Ensures (Flow.Recording R) s w fun b s' w' =>
    s' = s ∧ w'.2 = w.2 ++ [⟨q, b⟩] :=
  Flow.ensures_recorded q s w

/-- Each topic is unsubscribed, whatever the broker answers, and no other. -/
theorem ensures_unsubscribed (failed : String) (topics : List String) :
    (unsubscribeEach failed topics).Ensures (Flow.Recording R) s w fun _ s' w' => s' = s ∧
      subscribed w'.2 = subscribed w.2 ∧ unsubscribed w'.2 = unsubscribed w.2 ++ topics := by
  induction topics generalizing w with
  | nil => exact ⟨rfl, rfl, (List.append_nil _).symm⟩
  | cons topic rest ih =>
    refine Flow.Ensures.bind (ensures_said _) ?_
    rintro (reason | ⟨⟩) _ w₁ ⟨rfl, hsaid⟩
    · refine Flow.Ensures.bind (ensures_said _) ?_
      rintro _ _ w₂ ⟨rfl, hlogged⟩
      refine Flow.Ensures.mono ih ?_
      rintro _ _ w' ⟨rfl, hsub, hunsub⟩
      rw [hsub, hunsub, hlogged, hsaid, subscribed_concat, subscribed_concat, unsubscribed_concat,
        unsubscribed_concat]
      simp [DispatchService.subscribed?, DispatchService.unsubscribed?]
    · refine Flow.Ensures.mono ih ?_
      rintro _ _ w' ⟨rfl, hsub, hunsub⟩
      rw [hsub, hunsub, hsaid, subscribed_concat, unsubscribed_concat]
      simp [DispatchService.subscribed?, DispatchService.unsubscribed?]

/-- If the broker refuses a topic, the registration is taken out of the table, and of the topics that
this orphans those are unsubscribed that were subscribed before. -/
theorem ensures_subscribed (id : RegistrationId) (before topics : List String) :
    (subscribeAll id before topics).Ensures (Flow.Recording R) s w fun x s' w' => ∀ e, x = .error e →
      s' = { s with table := (s.table.remove id).2 } ∧
      ∃ first, first <+: topics ∧ subscribed w'.2 = subscribed w.2 ++ first ∧
        ∀ r orphaned, (s.table.remove id).1 = some (r, orphaned) →
          unsubscribed w'.2 = unsubscribed w.2 ++ orphaned.filter (· ∈ before ++ first) := by
  induction topics generalizing before w with
  | nil => exact nofun
  | cons topic rest ih =>
    refine Flow.Ensures.bind (ensures_said _) ?_
    rintro (reason | ⟨⟩) s w₁ ⟨rfl, hsaid⟩
    · refine Flow.Ensures.bind (P := fun x s' w' => x = (s.table.remove id).1 ∧
        s' = { s with table := (s.table.remove id).2 } ∧ w' = w₁) ⟨rfl, rfl, rfl⟩ ?_
      rintro _ _ _ ⟨rfl, rfl, rfl⟩
      cases hremoved : (s.table.remove id).1 with
      | none =>
        rintro e ⟨⟩
        refine ⟨rfl, [], List.nil_prefix, ?_, nofun⟩
        rw [hsaid, subscribed_concat]
        rfl
      | some removed =>
        obtain ⟨r, orphaned⟩ := removed
        refine Flow.Ensures.bind (ensures_unsubscribed _ _) ?_
        rintro _ _ w' ⟨rfl, hsub, hunsub⟩ e ⟨⟩
        refine ⟨rfl, [], List.nil_prefix, ?_, ?_⟩
        · rw [hsub, hsaid, subscribed_concat]
          rfl
        · rintro _ _ ⟨⟩
          rw [hunsub, hsaid, unsubscribed_concat]
          simp [DispatchService.unsubscribed?]
    · refine Flow.Ensures.mono (ih (before ++ [topic])) ?_
      intro x s' w' h e he
      obtain ⟨hs', first, hfirst, hsub, hunsub⟩ := h e he
      refine ⟨hs', topic :: first, List.prefix_cons_inj topic |>.2 hfirst, ?_, ?_⟩
      · rw [hsub, hsaid, subscribed_concat]
        simp [DispatchService.subscribed?]
      · intro r orphaned hremoved
        rw [hunsub r orphaned hremoved, hsaid, unsubscribed_concat]
        simp [DispatchService.unsubscribed?]

end Dispatching

namespace DispatchAttempt

theorem ensures_checkReady {V : Type} {S : Surroundings dispatchServices V} {v : V} (trigger : Trigger) :
    (checkReady trigger).Ensures S s v fun _ s' v' => s' = s ∧ v' = v :=
  (ensures_ready trigger).mono fun _ _ _ h => ⟨h.1, h.2.1⟩

theorem ensures_lift_bind {V α β : Type} {S : Surroundings dispatchServices V} {v : V}
    {flow : Dispatching α} {k : α → DispatchAttempt β}
    {Q : Except DispatchError β → DispatchState → V → Prop}
    (h : ∀ a s v, (k a).Ensures S s v Q) :
    (Attempt.lift flow >>= k : DispatchAttempt β).Ensures S s v Q := by
  rw [Attempt.ensures_bind, Attempt.ensures_lift, Flow.ensures_iff]
  exact fun a s' v' _ => h a s' v'

/-- Entering a request that fails leaves everything as it was, except that a number may be used up. The
broker unsubscribes from just the topics that it subscribed to, which nobody listened on. -/
theorem ensures_enter_failed (hs : s.Sound) (htidy : s.table.Tidy) :
    (enter request).Ensures (Flow.Recording R) s w fun x s' w' => ∀ e, x = .error e →
      s' = { s with nextId := s'.nextId } ∧
      ∃ topics undone, subscribed w'.2 = subscribed w.2 ++ topics ∧
        unsubscribed w'.2 = unsubscribed w.2 ++ undone ∧ undone.Perm topics ∧ topics.Nodup ∧
        ∀ topic ∈ topics, s.table.listeners topic = [] := by
  have hnothing : ∀ said : List DispatchExchange, ∃ topics undone,
      subscribed said = subscribed said ++ topics ∧ unsubscribed said = unsubscribed said ++ undone ∧
        undone.Perm topics ∧ topics.Nodup ∧ ∀ topic ∈ topics, s.table.listeners topic = [] :=
    fun said => ⟨[], [], by simp⟩
  unfold enter
  cases hadmitted : request.trigger.admitted? with
  | none => exact fun _ _ => ⟨rfl, hnothing w.2⟩
  | some trigger =>
    rw [Attempt.ensures_bind, Attempt.ensures_some_some]
    refine Attempt.Ensures.bind (ensures_checkReady trigger) ?_ ?_
    · rintro ⟨⟩ s w ⟨rfl, rfl⟩
      let r : Registration := ⟨s.nextId, { request with trigger }⟩
      change Attempt.Ensures _ (Attempt.of (fun e => e) (Dispatching.subscribeAll r.id []
        (s.table.insert r).1) >>= fun _ => _) { s with
          nextId := s.nextId + 1, table := (s.table.insert r).2 } w _
      rw [Attempt.ensures_bind, Attempt.ensures_of]
      refine (Dispatching.ensures_subscribed r.id [] (s.table.insert r).1).mono ?_
      rintro (reason | ⟨⟩) s' w' h
      · rintro e -
        obtain ⟨rfl, first, hfirst, hsub, hunsub⟩ := h _ rfl
        obtain ⟨orphaned, hremove, hnodup, horphaned⟩ := htidy.remove_insert (r := r) hs.get?_nextId
        dsimp only at hunsub ⊢
        rw [hremove] at hunsub ⊢
        have hfresh : (s.table.insert r).1.Nodup := by
          rw [RegistrationTable.insert_fst]
          exact RegistrationTable.nodup_fresh _ _ _
        refine ⟨rfl, first, _, hsub, hunsub r orphaned rfl, ?_, hfresh.sublist hfirst.sublist, ?_⟩
        · rw [List.perm_ext_iff_of_nodup (hnodup.filter _) (hfresh.sublist hfirst.sublist)]
          intro topic
          rw [List.mem_filter, horphaned, List.nil_append, decide_eq_true_iff]
          exact and_iff_right_of_imp fun h => hfirst.subset h
        · intro topic htopic
          exact ((htidy.indexed.mem_insert_fst hs.get?_nextId).1 (hfirst.subset htopic)).1
      · -- from here on nothing can fail
        refine ensures_lift_bind fun _ _ _ => ?_
        refine ensures_lift_bind fun _ _ _ => ?_
        exact ensures_lift_bind fun _ _ _ => nofun
    · rintro e s w ⟨rfl, rfl⟩ _ _
      exact ⟨rfl, hnothing w.2⟩

end DispatchAttempt

namespace Dispatching

/-- Registering a request that fails changes at most the queue and the number that is given out next.
-/
theorem ensures_register_failed (hs : s.Sound) (htidy : s.table.Tidy) :
    (register request).Ensures (Flow.Recording R) s w fun x s' w' => ∀ e, x = .error e →
      s' = { s with nextId := s'.nextId, pending := s'.pending } ∧
      s'.pending = (if e.isTransient ∧ request.tolerance = .retry then s.pending ++ [request]
        else s.pending) ∧
      ∃ topics undone, subscribed w'.2 = subscribed w.2 ++ topics ∧
        unsubscribed w'.2 = unsubscribed w.2 ++ undone ∧ undone.Perm topics ∧ topics.Nodup ∧
        ∀ topic ∈ topics, s.table.listeners topic = [] := by
  unfold register
  refine Flow.Ensures.bind (DispatchAttempt.ensures_enter_failed hs htidy) ?_
  rintro (e | id) s₁ w₁ h
  · obtain ⟨hs₁, hsaid₁⟩ := h e rfl
    generalize s₁.nextId = next at hs₁
    subst hs₁
    change Flow.Ensures _ (if _ then _ else _) _ w₁ _
    split
    · next hqueued =>
      refine Flow.Ensures.bind (ensures_said _) ?_
      rintro _ _ w₂ ⟨rfl, hlogged⟩ e' he
      cases he
      rw [if_pos hqueued]
      refine ⟨rfl, rfl, ?_⟩
      rw [hlogged, subscribed_concat, unsubscribed_concat]
      simpa [DispatchService.subscribed?, DispatchService.unsubscribed?] using hsaid₁
    · next hqueued =>
      rintro e' he
      cases he
      rw [if_neg hqueued]
      exact ⟨rfl, rfl, hsaid₁⟩
  · exact nofun

/-- After one thing and another has happened to a dispatcher, a request that cannot be registered leaves
the table with all its indices and the timers as they were. It is queued if it may succeed later and is
to be retried. The broker is asked to unsubscribe from each topic that it had subscribed to in between,
and from no other; nobody listened on these before. -/
theorem register_failed_traceless {V : Type} {S : Surroundings dispatchServices V} {v v' : V}
    {e : DispatchError} (hs : Dispatched s)
    (ends : Flow.Ends S (register request) s v (.error e) s' v') :
    s'.table = s.table ∧ s'.timers = s.timers ∧
    s'.pending = (if e.isTransient ∧ request.tolerance = .retry then s.pending ++ [request]
      else s.pending) ∧
    s' = { s with nextId := s'.nextId, pending := s'.pending } ∧
    (∃ said, Flow.Ends (Flow.Recording S) (register request) s (v, []) (.error e) s' (v', said)) ∧
    ∀ said, Flow.Ends (Flow.Recording S) (register request) s (v, []) (.error e) s' (v', said) →
      (unsubscribed said).Perm (subscribed said) ∧ (subscribed said).Nodup ∧
      ∀ topic ∈ subscribed said, s.table.listeners topic = [] := by
  have hafter : ∀ said,
      Flow.Ends (Flow.Recording S) (register request) s (v, []) (.error e) s' (v', said) → _ :=
    fun said h => (ensures_register_failed hs.sound hs.tidy).ends h e rfl
  obtain ⟨said, hsaid⟩ := ends.exists_recording []
  obtain ⟨hsame, hpending, -⟩ := hafter said hsaid
  refine ⟨by rw [hsame], by rw [hsame], hpending, hsame, ⟨said, hsaid⟩, fun said hsaid => ?_⟩
  obtain ⟨-, -, topics, undone, hsub, hunsub, hperm, hnodup, hfree⟩ := hafter said hsaid
  rw [hsub, hunsub]
  exact ⟨hperm, hnodup, hfree⟩

end Dispatching

/-- A broker that refuses one topic. -/
def refusing (bad : String) (w : Bool) : (q : DispatchService) → q.Answer × Bool
  | .subscribe topic => (if topic = bad then .error "busy" else .ok (), w)
  | q => ((refusingOnce w q).1, w)

/-- A dispatcher with a broker that refuses bells. A callback of the porch listens on the lamp. -/
def porchState : DispatchState :=
  let connected := (Happening.brokerSet.flow.play (refusing "bell") {} false).2.1
  ((Happening.call (.register (RegistrationTable.porch 1 (.message ["lamp"])).request)).flow.play
    (refusing "bell") connected false).2.1

theorem dispatched_porchState : Dispatched porchState :=
  (Dispatched.play (.start {}) .brokerSet _ _).play _ _ _

/-- A request for the lamp and two more topics, one of them named twice, and for the bell. -/
def porchRequest : RegisterRequest :=
  { (RegistrationTable.porch 2 (.message ["lamp", "door", "bell", "door", "gate"])).request with
    tolerance := .retry }

/-- How this is registered, and what the broker is asked. -/
def porchAttempt : Except DispatchError RegistrationId × DispatchState × Bool × List DispatchExchange :=
  (Dispatching.register porchRequest).play (Flow.recorded (refusing "bell")) porchState (false, [])

/-- The door is subscribed and unsubscribed again, and the lamp and the gate are left alone. -/
theorem Dispatching.porch_register_failed :
    Flow.Ends (Flow.Recording anyAnswers) (register porchRequest) porchState (false, [])
      (.error (.broker "busy")) porchAttempt.2.1 (false, porchAttempt.2.2.2) ∧
    porchAttempt.2.1.table = porchState.table ∧ porchAttempt.2.1.timers = porchState.timers ∧
    porchAttempt.2.1.pending = [porchRequest] ∧ subscribed porchAttempt.2.2.2 = ["door"] ∧
    unsubscribed porchAttempt.2.2.2 = ["door"] := by
  have hattempt : Flow.Ends (Flow.Recording anyAnswers) (register porchRequest) porchState (false, [])
      porchAttempt.1 porchAttempt.2.1 porchAttempt.2.2 :=
    Flow.ends_recorded (fun _ _ => trivial) (register porchRequest) porchState (false, [])
  have hplayed : Flow.Ends (Flow.Recording anyAnswers) (register porchRequest) porchState (false, [])
      (.error (.broker "busy")) porchAttempt.2.1 (false, porchAttempt.2.2.2) := hattempt
  have hends := hplayed.map (f := Prod.fst) fun _ _ _ _ h => h.1
  obtain ⟨htable, htimers, hpending, -, -, hsaid⟩ :=
    register_failed_traceless dispatched_porchState hends
  obtain ⟨hperm, -⟩ := hsaid _ hplayed
  have hsub : subscribed porchAttempt.2.2.2 = ["door"] := by decide
  rw [hsub] at hperm
  exact ⟨hplayed, htable, htimers, hpending, hsub, List.perm_singleton.1 hperm⟩

end DriverHub
