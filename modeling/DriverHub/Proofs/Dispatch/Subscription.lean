import DriverHub.Proofs.Dispatch.OneShot
import DriverHub.Proofs.Dispatch.Stage

/-! Subscriptions and the table. A topic is subscribed just if somebody listens on it, as soon as all
calls have ended, provided that no call has to do with the topic while another one that had to do with
it is in progress. Calls that overlap on a topic may leave a listener without a subscription. -/

namespace DriverHub

open DispatchState DispatchTurn

/-- What a broker does, by the topics that it is subscribed to. It may refuse to subscribe, but not to
unsubscribe. -/
def subscriptions : Surroundings dispatchServices (List String)
  | w, .subscribe topic, .ok (), v => v = topic :: w
  | w, .subscribe _, .error _, v => v = w
  | w, .unsubscribe topic, answer, v => answer = .ok () ∧ v = w.filter (· ≠ topic)
  | w, _, _, v => v = w

theorem subscriptions_obliging {w v : List String} {q : DispatchService} {b : q.Answer}
    (h : subscriptions w q b v) : q.obliging b := by
  cases q with
  | unsubscribe topic => exact h.1
  | _ => trivial

theorem mem_subscriptions_of_not_about {topic : String} {w v : List String} {q : DispatchService}
    {b : q.Answer} (h : subscriptions w q b v) (hq : q.isAbout topic = false) :
    topic ∈ v ↔ topic ∈ w := by
  cases q with
  | subscribe t =>
    have hne : t ≠ topic := by simpa [DispatchService.isAbout] using hq
    rcases b with reason | ⟨⟩
    · obtain rfl : v = w := h
      rfl
    · obtain rfl : v = t :: w := h
      simp [Ne.symm hne]
  | unsubscribe t =>
    have hne : t ≠ topic := by simpa [DispatchService.isAbout] using hq
    obtain ⟨-, rfl⟩ := h
    simp [Ne.symm hne]
  | _ =>
    obtain rfl : v = w := h
    rfl

theorem mem_subscriptions_of_untouched {topic : String} {s : DispatchState} {act : DispatchAct}
    {w v : List String} (h : act.Answered subscriptions w v)
    (htouch : touches topic s act = false) : topic ∈ v ↔ topic ∈ w := by
  cases act with
  | accessed update =>
    obtain rfl : v = w := h
    rfl
  | asked q b =>
    simp only [touches, Bool.or_eq_false_iff] at htouch
    exact mem_subscriptions_of_not_about h htouch.2

/-! ### What a stage says about the table and the broker -/

namespace Stage

variable {topic : String} {g g' : Stage} {s s' : DispatchState} {act : DispatchAct}
  {w w' : List String}

/-- Whether the table and the broker may disagree, or the call may have to make them disagree. -/
def isBusy : Stage → Bool
  | joining _ | first _ | later _ | leaving => true
  | _ => false

/-- The table and the broker, as the only call that is busy with the topic leaves them between its
steps; or as they are when none is. -/
def Fits (topic : String) : Stage → DispatchState → List String → Prop
  | joining id, s, w => listenersOn topic s = [id] ∧ topic ∉ w
  | first id, s, w => listenersOn topic s = [id] ∧ topic ∈ w
  | later id, s, w => id ∈ listenersOn topic s ∧ (∃ k ∈ listenersOn topic s, k ≠ id) ∧ topic ∈ w
  | leaving, s, w => listenersOn topic s = [] ∧ topic ∈ w
  | _, s, w => topic ∈ w ↔ listenersOn topic s ≠ []

theorem fits_of_idle (hg : g.isBusy = false) :
    g.Fits topic s w ↔ (topic ∈ w ↔ listenersOn topic s ≠ []) := by
  cases g with
  | clear | numbered | outside => rfl
  | _ => cases hg

theorem fits_congr (hs : listenersOn topic s' = listenersOn topic s) (hw : topic ∈ w' ↔ topic ∈ w) :
    g.Fits topic s' w' ↔ g.Fits topic s w := by
  cases g <;> simp only [Fits, hs, hw]

theorem Fits.sees (h : g.Fits topic s w) : g.Sees topic s := by
  cases g with
  | joining id | first id => simp [Sees, h.1]
  | later id => exact h.1
  | _ => trivial

theorem Fits.settled (h : g.Fits topic s w) : g.settled.Fits topic s w := by
  cases g with
  | first id => simp [Stage.settled, Fits, h.1, h.2]
  | later id =>
    have hne : listenersOn topic s ≠ [] := List.ne_nil_of_mem h.1
    simp [Stage.settled, Fits, hne, h.2.2]
  | _ => exact h

/-- A registration that was entered and does not listen. -/
def Outside (topic : String) (id : RegistrationId) (s : DispatchState) : Prop :=
  ∀ r, s.table.get? id = some r → topic ∉ r.topics

section Changes

variable {r : Registration} {id : RegistrationId} {update : DispatchState → DispatchState} (hs : s.Sound)
include hs

theorem Outside.listenersOn_remove (h : Outside topic id s)
    (table : (update s).table = (s.table.remove id).2) :
    listenersOn topic (update s) = listenersOn topic s := by
  rw [hs.listenersOn_remove topic table]
  refine List.filter_eq_self.2 fun k hk => ?_
  have hne : k ≠ id := by
    rintro rfl
    obtain ⟨r, hr, ht⟩ := (hs.mem_listenersOn topic).1 hk
    exact h r hr ht
  simpa using hne

theorem fits_entered (hr : s.table.get? r.id = none) (table : (update s).table = (s.table.insert r).2)
    (hagree : topic ∈ w ↔ listenersOn topic s ≠ []) : (entered topic r s).Fits topic (update s) w := by
  have hlisteners := hs.listenersOn_enter topic hr table
  have hnew : r.id ∉ listenersOn topic s := by
    rw [hs.mem_listenersOn, hr]
    simp
  unfold Stage.entered
  split
  · next ht =>
    rw [if_pos ht] at hlisteners
    split
    · next hnil => exact ⟨by simp [hlisteners, hnil], by simp [hagree, hnil]⟩
    · next hne =>
      obtain ⟨k, hk⟩ := List.exists_mem_of_ne_nil _ hne
      refine ⟨by simp [hlisteners], ⟨k, ?_, ne_of_mem_of_not_mem hk hnew⟩, hagree.2 hne⟩
      simp [hlisteners, hk]
  · next ht =>
    rw [if_neg ht] at hlisteners
    simpa [Fits, hlisteners] using hagree

theorem fits_rolledBack (holder : g.holder = some id) (houtside : g = outside id → Outside topic id s)
    (table : (update s).table = (s.table.remove id).2) (hfits : g.Fits topic s w) :
    g.rolledBack.Fits topic (update s) w := by
  have hlisteners := hs.listenersOn_remove topic table
  cases g with
  | joining k | first k =>
    obtain rfl : k = id := Option.some.inj holder
    simp [Stage.rolledBack, Fits, hlisteners, hfits.1, hfits.2]
  | later k =>
    obtain rfl : k = id := Option.some.inj holder
    obtain ⟨-, ⟨other, hother, hne⟩, hsubscribed⟩ := hfits
    have hleft : other ∈ (listenersOn topic s).filter (· ≠ k) := by simp [hother, hne]
    simp only [Stage.rolledBack, Fits, hlisteners]
    exact ⟨fun _ => List.ne_nil_of_mem hleft, fun _ => hsubscribed⟩
  | outside k =>
    obtain rfl : k = id := Option.some.inj holder
    simp only [Stage.rolledBack, Fits, (houtside rfl).listenersOn_remove hs table]
    exact hfits
  | _ => cases holder

theorem fits_removed (table : (update s).table = (s.table.remove id).2)
    (hagree : topic ∈ w ↔ listenersOn topic s ≠ []) : (removed topic id s).Fits topic (update s) w := by
  have hlisteners := hs.listenersOn_remove topic table
  unfold Stage.removed
  split
  · next h =>
    refine ⟨?_, hagree.2 h.1⟩
    rw [hlisteners]
    exact h.2
  · next h =>
    simp only [Fits, hlisteners, hagree]
    refine ⟨fun hne hnil => h ⟨hne, hnil⟩, ?_⟩
    intro hne hnil
    rw [hnil] at hne
    exact hne rfl

end Changes

namespace Moves

/-- A move of the only busy call, or of any call if none is, leads from what its stage says to what its
next stage says. -/
theorem fits (h : g.Moves topic s act g') (hs : s.Sound)
    (hnumbered : ∀ id, g = numbered id → s.table.get? id = none)
    (houtside : ∀ id, g = outside id → Outside topic id s) (hfits : g.Fits topic s w)
    (hw : act.Answered subscriptions w w') : g'.Fits topic (act.after s) w' := by
  induction h with
  | aside _ untouched =>
    rw [fits_congr (listenersOn_of_untouched untouched)
      (mem_subscriptions_of_untouched hw untouched)]
    exact hfits
  | draw table =>
    have huntouched := @untouched_of_table topic _ _ table
    have hcongr := fits_congr (g := clear) (listenersOn_of_untouched huntouched)
      (mem_subscriptions_of_untouched hw huntouched)
    exact hcongr.2 hfits
  | enter table =>
    obtain rfl : w' = w := hw
    exact fits_entered hs (hnumbered _ rfl) table hfits
  | granted =>
    obtain rfl : w' = topic :: w := hw
    exact ⟨hfits.1, List.mem_cons_self⟩
  | refused =>
    obtain rfl : w' = w := hw
    exact hfits
  | rollBack holder table =>
    obtain rfl : w' = w := hw
    exact fits_rolledBack hs holder (houtside _) table hfits
  | remove table =>
    obtain rfl : w' = w := hw
    exact fits_removed hs table hfits
  | released =>
    obtain ⟨-, rfl⟩ : _ ∧ w' = w.filter (· ≠ topic) := hw
    simp [Fits, hfits.1]
  | settle _ ih => exact (ih hs hnumbered houtside hfits hw).settled

/-- Where a call has drawn a number, this was its last turn. -/
theorem eq_nextId (h : g.Moves topic s act g') {id : RegistrationId} (hg' : g' = numbered id) :
    id = s.nextId ∧ (act.after s).nextId = s.nextId + 1 := by
  induction h with
  | aside still => exact absurd hg' (still id)
  | draw table nextId =>
    cases hg'
    exact ⟨rfl, nextId⟩
  | enter =>
    unfold Stage.entered at hg'
    split at hg'
    · split at hg' <;> cases hg'
    · cases hg'
  | granted | refused | released => cases hg'
  | @rollBack g =>
    cases g <;> cases hg'
  | remove =>
    unfold Stage.removed at hg'
    split at hg' <;> cases hg'
  | @settle g s act g' _ ih =>
    refine ih ?_
    cases g' with
    | numbered => exact hg'
    | _ => cases hg'

/-- Where a call has entered a registration that does not listen, it did so before or just now. -/
theorem eq_outside (h : g.Moves topic s act g') {id : RegistrationId} (hg' : g' = outside id) :
    g = outside id ∨
      ∃ r, r.id = id ∧ topic ∉ r.topics ∧ (act.after s).table = (s.table.insert r).2 := by
  induction h with
  | aside => exact .inl hg'
  | @enter r s update table =>
    unfold Stage.entered at hg'
    split at hg'
    · split at hg' <;> cases hg'
    · next ht =>
      cases hg'
      exact .inr ⟨r, rfl, ht, table⟩
  | draw | granted | refused | released => cases hg'
  | @rollBack g =>
    cases g <;> cases hg'
  | remove =>
    unfold Stage.removed at hg'
    split at hg' <;> cases hg'
  | @settle g s act g' _ _ =>
    cases g' <;> cases hg'

/-- A call gets busy with a topic only in a turn that has to do with it. -/
theorem touches_of_busy (h : g.Moves topic s act g') (hs : s.Sound)
    (hnumbered : ∀ id, g = numbered id → s.table.get? id = none) (hidle : g.isBusy = false)
    (hbusy : g'.isBusy = true) : touches topic s act = true := by
  induction h with
  | aside => rw [hidle] at hbusy; cases hbusy
  | draw => cases hbusy
  | @enter r s update table =>
    have hnone := hnumbered r.id rfl
    have hlisteners := hs.listenersOn_enter topic hnone table
    unfold Stage.entered at hbusy
    split at hbusy
    · next ht =>
      rw [if_pos ht] at hlisteners
      simp [touches, hlisteners]
    · cases hbusy
  | granted | refused => cases hidle
  | @rollBack g id s update holder table =>
    cases g with
    | outside => cases hbusy
    | clear | numbered => cases holder
    | _ => cases hidle
  | @remove id s update table =>
    have hlisteners := hs.listenersOn_remove topic table
    unfold Stage.removed at hbusy
    split at hbusy
    · next h =>
      simp only [touches, Flow.Act.after_accessed, hlisteners, h.2, Bool.or_false, decide_eq_true_eq]
      exact Ne.symm h.1
    · cases hbusy
  | released => cases hbusy
  | @settle g s act g' _ ih =>
    refine ih hs hnumbered hidle ?_
    cases g' with
    | outside | first | later => cases hbusy
    | _ => exact hbusy

end Moves

end Stage

/-! ### Sessions -/

/-- A number that was given out and is in no hand. -/
def Hand.Used (id : RegistrationId) (hands : List Hand) (s : DispatchState) : Prop :=
  ahead id s + (hands.map fun g => g.drawn.count id).sum = 0

namespace Hand.Moves

variable {g g' : Hand} {s : DispatchState} {act : DispatchAct} {left right : List Hand}
  {id : RegistrationId}

theorem used (h : g.Moves s act g') (hid : Used id (left ++ g :: right) s) :
    Used id (left ++ g' :: right) (act.after s) := by
  have hle := h.numbers_le id
  simp only [Used, List.map_append, List.map_cons, List.sum_append, List.sum_cons] at hid ⊢
  omega

theorem outside {topic : String} (h : g.Moves s act g') (hid : Used id (left ++ g :: right) s)
    (hout : Stage.Outside topic id s) : Stage.Outside topic id (act.after s) := by
  intro r hr
  rcases h.get?_after hr with hr | hdrawn
  · exact hout r hr
  · have hpos := List.count_pos_iff.2 hdrawn
    simp only [Used, List.map_append, List.map_cons, List.sum_append, List.sum_cons] at hid
    omega

end Hand.Moves

theorem Ledger.used {hands : List Hand} {s : DispatchState} {turns : List DispatchTurn}
    (h : Ledger hands s turns) {id : RegistrationId} {r : Registration}
    (hr : s.table.get? id = some r) : Hand.Used id hands s := by
  have honce := h.once id
  rw [entered, hr, Option.isSome_some, if_pos rfl] at honce
  unfold Hand.Used
  omega

/-- The hands and the stages of the callers of a session, for one topic: who is busy with it and has
had to do with it, and what follows about the table and the broker. -/
structure Tended (topic : String) (book : List (Hand × Stage)) (s : DispatchState) (w : List String)
    (turns : List DispatchTurn) : Prop where
  ledger : Ledger (book.map (·.1)) s turns
  broker : s.broker = true
  numbered : ∀ x ∈ book, ∀ id, x.2 = .numbered id → id ∈ x.1.drawn
  outside : ∀ x ∈ book, ∀ id, x.2 = .outside id →
    Hand.Used id (book.map (·.1)) s ∧ Stage.Outside topic id s
  busy : ∀ x ∈ book, x.2.isBusy = true → x.2.Fits topic s w
  quiet : (∀ x ∈ book, x.2.isBusy = false) → (topic ∈ w ↔ listenersOn topic s ≠ [])
  touched : ∀ i x, book[i]? = some x → x.2.isBusy = true →
    ∃ t ∈ turns, t.caller = i ∧ touches topic t.state t.act = true

namespace Tended

variable {topic : String} {book left right : List (Hand × Stage)} {x : Hand × Stage} {g g' : Hand}
  {a a' : Stage} {s : DispatchState} {w w' : List String} {turns : List DispatchTurn}
  {act : DispatchAct}

theorem nothing (hs : s.Sound) (hbroker : s.broker = true)
    (hagree : topic ∈ w ↔ listenersOn topic s ≠ []) : Tended topic [] s w [] where
  ledger := .nothing hs
  broker := hbroker
  numbered _ hx := by cases hx
  outside _ hx := by cases hx
  busy _ hx := by cases hx
  quiet _ := hagree
  touched i x hx := by simp at hx

theorem call (h : Tended topic book s w turns) (fires : Bool) :
    Tended topic (book ++ [(⟨fires, [], []⟩, .clear)]) s w turns := by
  have hledger := h.ledger.call fires
  refine ⟨by simpa using hledger, h.broker, ?_, ?_, ?_, ?_, ?_⟩
  · intro x hx id hid
    rcases List.mem_append.1 hx with hx | hx
    · exact h.numbered x hx id hid
    · rw [List.mem_singleton.1 hx] at hid
      cases hid
  · intro x hx id hid
    rcases List.mem_append.1 hx with hx | hx
    · obtain ⟨hused, houtside⟩ := h.outside x hx id hid
      refine ⟨?_, houtside⟩
      simpa [Hand.Used] using hused
    · rw [List.mem_singleton.1 hx] at hid
      cases hid
  · intro x hx hbusy
    rcases List.mem_append.1 hx with hx | hx
    · exact h.busy x hx hbusy
    · rw [List.mem_singleton.1 hx] at hbusy
      cases hbusy
  · intro hidle
    exact h.quiet fun x hx => hidle x (List.mem_append_left _ hx)
  · intro i x hx hbusy
    by_cases hlt : i < book.length
    · rw [List.getElem?_append_left hlt] at hx
      exact h.touched i x hx hbusy
    · rw [List.getElem?_append_right (Nat.le_of_not_lt hlt)] at hx
      obtain rfl := List.mem_singleton.1 (List.mem_of_getElem? hx)
      cases hbusy

theorem relies (h : Tended topic (left ++ x :: right) s w turns) :
    (Hand.protocol.and (Stage.protocol topic)).relies x s := by
  have hledger := h.ledger
  rw [List.map_append, List.map_cons] at hledger
  have hbusy := h.busy x (by simp)
  refine ⟨hledger.relies, ⟨h.ledger.sound, h.broker, ?_, ?_⟩⟩
  · cases hstage : x.2.isBusy with
    | true => exact (hbusy hstage).sees
    | false =>
      obtain ⟨g, a⟩ := x
      cases a with
      | clear | numbered | outside => trivial
      | _ => cases hstage
  · intro id hid
    rw [hid] at hbusy
    exact (hbusy rfl).1

theorem get?_of_numbered (h : Tended topic (left ++ x :: right) s w turns) {id : RegistrationId}
    (hid : x.2 = .numbered id) : s.table.get? id = none :=
  (h.relies.1.drawn id (h.numbered x List.mem_append_cons_self id hid)).2

theorem fits (h : Tended topic (left ++ (g, a) :: right) s w turns) (hstage : a.Moves topic s act a')
    (hw : act.Answered subscriptions w w')
    (hor : a.isBusy = true ∨ ∀ x ∈ left ++ right, x.2.isBusy = false) :
    a'.Fits topic (act.after s) w' := by
  have hself : (g, a) ∈ left ++ (g, a) :: right := List.mem_append_cons_self
  refine hstage.fits h.ledger.sound (fun _ => h.get?_of_numbered)
    (fun id ha => (h.outside _ hself id ha).2) ?_ hw
  cases ha : a.isBusy with
  | true => exact h.busy _ hself ha
  | false =>
    rw [Stage.fits_of_idle ha]
    refine h.quiet fun x hx => ?_
    rcases Flow.eq_or_mem_others hx with rfl | hx
    · exact ha
    · exact hor.resolve_left (by simp [ha]) x hx

section Turns

variable (h : Tended topic (left ++ (g, a) :: right) s w turns) (hhand : g.Moves s act g')
  (hstage : a.Moves topic s act a')

include h hhand in
theorem ledger_turn : Ledger ((left ++ (g', a') :: right).map (·.1)) (act.after s)
    (turns ++ [⟨left.length, s, act⟩]) := by
  have hledger := h.ledger
  rw [List.map_append, List.map_cons] at hledger
  have hledger' := hledger.turn hhand
  rw [List.length_map] at hledger'
  simpa using hledger'

include h hhand hstage in
theorem outside_turn (hx : x ∈ left ++ (g', a') :: right) {id : RegistrationId} (hid : x.2 = .outside id) :
    Hand.Used id ((left ++ (g', a') :: right).map (·.1)) (act.after s) ∧
      Stage.Outside topic id (act.after s) := by
  have hbecome {id : RegistrationId} (hused : Hand.Used id ((left ++ (g, a) :: right).map (·.1)) s)
      (hout : Stage.Outside topic id s) :
      Hand.Used id ((left ++ (g', a') :: right).map (·.1)) (act.after s) ∧
        Stage.Outside topic id (act.after s) := by
    rw [List.map_append, List.map_cons] at hused ⊢
    exact ⟨hhand.used hused, hhand.outside hused hout⟩
  rcases Flow.eq_or_mem_others hx with rfl | hx
  · rcases hstage.eq_outside hid with ha | ⟨r, rfl, ht, table⟩
    · obtain ⟨hused, hout⟩ := h.outside _ List.mem_append_cons_self id ha
      exact hbecome hused hout
    · have hr : (act.after s).table.get? r.id = some r := by
        rw [table, RegistrationTable.get?_insert, if_pos rfl]
      refine ⟨(h.ledger_turn hhand).used hr, ?_⟩
      intro r' hr'
      rw [hr] at hr'
      exact Option.some.inj hr' ▸ ht
  · obtain ⟨hused, hout⟩ := h.outside x (Flow.mem_of_mem_others _ hx) id hid
    exact hbecome hused hout

include h hstage in
theorem touches_turn (hidle : a.isBusy = false) (hbusy : a'.isBusy = true) : touches topic s act = true :=
  hstage.touches_of_busy h.ledger.sound (fun _ => h.get?_of_numbered) hidle hbusy

include h hstage in
theorem busy_turn (hw : act.Answered subscriptions w w')
    (halone : touches topic s act = true → ∀ x ∈ left ++ right, x.2.isBusy = false)
    (hx : x ∈ left ++ (g', a') :: right) (hbusy : x.2.isBusy = true) : x.2.Fits topic (act.after s) w' := by
  rcases Flow.eq_or_mem_others hx with rfl | hx
  · refine h.fits hstage hw ?_
    cases ha : a.isBusy with
    | true => exact .inl rfl
    | false => exact .inr (halone (h.touches_turn hstage ha hbusy))
  · -- whoever else is busy with the topic sees that this turn has nothing to do with it
    have huntouched : touches topic s act = false := by
      by_contra htouch
      have hidle := halone (by simpa using htouch) x hx
      rw [hbusy] at hidle
      cases hidle
    rw [Stage.fits_congr (listenersOn_of_untouched huntouched) (mem_subscriptions_of_untouched hw huntouched)]
    exact h.busy x (Flow.mem_of_mem_others _ hx) hbusy

include h hstage in
theorem touched_turn {i : Nat} (hx : (left ++ (g', a') :: right)[i]? = some x) (hbusy : x.2.isBusy = true) :
    ∃ t ∈ turns ++ [⟨left.length, s, act⟩], t.caller = i ∧ touches topic t.state t.act = true := by
  by_cases hi : left.length = i
  · subst hi
    obtain rfl : (g', a') = x := by simpa using hx
    cases ha : a.isBusy with
    | true =>
      obtain ⟨t, ht, hby⟩ := h.touched left.length (g, a) (by simp) ha
      exact ⟨t, List.mem_append_left _ ht, hby⟩
    | false => exact ⟨_, List.mem_append_right _ List.mem_cons_self, rfl, h.touches_turn hstage ha hbusy⟩
  · rw [Flow.getElem?_other (g', a') (g, a) hi] at hx
    obtain ⟨t, ht, hby⟩ := h.touched i x hx hbusy
    exact ⟨t, List.mem_append_left _ ht, hby⟩

include h hhand hstage in
/-- A turn keeps what is written down, if nobody else is busy with the topic whenever the turn has to
do with it. -/
theorem turn (hbroker : (act.after s).broker = s.broker) (hw : act.Answered subscriptions w w')
    (halone : touches topic s act = true → ∀ x ∈ left ++ right, x.2.isBusy = false) :
    Tended topic (left ++ (g', a') :: right) (act.after s) w' (turns ++ [⟨left.length, s, act⟩]) where
  ledger := h.ledger_turn hhand
  broker := hbroker.trans h.broker
  numbered := by
    intro x hx id hid
    rcases Flow.eq_or_mem_others hx with rfl | hx
    · obtain ⟨rfl, hnext⟩ := hstage.eq_nextId hid
      exact hhand.mem_drawn_of_nextId hnext
    · exact h.numbered x (Flow.mem_of_mem_others _ hx) id hid
  outside _ hx _ hid := h.outside_turn hhand hstage hx hid
  busy _ hx hbusy := h.busy_turn hstage hw halone hx hbusy
  quiet := by
    intro hidle
    have ha' : a'.isBusy = false := hidle _ List.mem_append_cons_self
    have hrest : ∀ x ∈ left ++ right, x.2.isBusy = false :=
      fun x hx => hidle x (Flow.mem_of_mem_others _ hx)
    exact (Stage.fits_of_idle ha').1 (h.fits hstage hw (.inr hrest))
  touched _ _ hx hbusy := h.touched_turn hstage hx hbusy

end Turns

end Tended

/-! ### Calls that do not overlap on a topic -/

/-- A turn that has to do with the topic is taken only if whoever else had to do with it has ended. -/
def Apart (topic : String) (p : DispatchSession (List String)) (t : DispatchTurn) : Prop :=
  touches topic t.state t.act = true → ∀ u ∈ p.turns, u.caller ≠ t.caller →
    touches topic u.state u.act = true → (p.callers[u.caller]?).all (·.ended) = true

instance (topic : String) (p : DispatchSession (List String)) (t : DispatchTurn) :
    Decidable (Apart topic p t) :=
  inferInstanceAs (Decidable (_ → _))

/-- Calls that enter registrations and take them back, and a broker that may refuse to subscribe. -/
def registering (permits : DispatchSession (List String) → DispatchTurn → Prop) :
    Flow.Setting dispatchServices DispatchState (List String) DispatchCall.Result where
  answers := subscriptions
  flow := DispatchCall.flow
  admits call := call.isEvent = false
  permits := permits

instance (permits : DispatchSession (List String) → DispatchTurn → Prop)
    [permitted : ∀ p t, Decidable (permits p t)] (p : DispatchSession (List String))
    (t : DispatchTurn) :
    Decidable ((registering permits).permits p t) := permitted p t

namespace DispatchSession

variable {topic : String} {s : DispatchState} {w : List String} {p : DispatchSession (List String)}

/-- What a call has in hand at its end, and that it is through with the topic. -/
def Through (call : DispatchCall) (x : call.Result) (g : Hand × Stage) : Prop :=
  call.Ends x g.1 ∧ g.2 = .clear

theorem clear_of_ended {e : Flow.Standing (Hand.protocol.and (Stage.protocol topic)) Through}
    (h : e.caller.ended = true) : e.value.2 = .clear := by
  obtain ⟨⟨call, rest⟩, x, hkeeps⟩ := e
  cases rest with
  | done a => exact hkeeps.2
  | _ => cases h

theorem exists_tended (hs : s.Sound) (hbroker : s.broker = true)
    (hagree : topic ∈ w ↔ listenersOn topic s ≠ []) (h : (registering (Apart topic)).Leads s w p) :
    ∃ standings : List (Flow.Standing (Hand.protocol.and (Stage.protocol topic)) Through),
      p.callers = standings.map (·.caller) ∧
      Tended topic (standings.map (·.value)) p.state p.surroundings p.turns := by
  refine h.invariant (P := Hand.protocol.and (Stage.protocol topic)) (Q := Through)
    (fun call => (⟨call.fires, [], []⟩, .clear)) ?_
    (fun standings s w turns => Tended topic (standings.map (·.value)) s w turns)
    (.nothing hs hbroker hagree) ?_ ?_ ?_ ?_
  · exact fun call hcall => call.keeps_flow.and (DispatchCall.staged_flow topic hcall)
  · exact fun q b v _ hb => ⟨trivial, subscriptions_obliging hb⟩
  · intro left right e s w turns hinv
    rw [List.map_append, List.map_cons] at hinv
    exact hinv.relies
  · intro standings s w turns e _ he hinv
    rw [List.map_append, List.map_singleton, he]
    exact hinv.call _
  · intro left right e e' s w turns act w' hinv _ hmove hanswered hpermits
    rw [List.map_append, List.map_cons] at hinv ⊢
    obtain ⟨hhand, hbroker, hstage⟩ := hmove
    have hnext := hinv.turn hhand hstage hbroker hanswered ?_
    · rwa [List.length_map] at hnext
    · intro htouch x hx
      by_contra hbusy
      rw [← List.map_append] at hx
      obtain ⟨other, hother, rfl⟩ := List.mem_map.1 hx
      obtain ⟨i, hne, hi⟩ := Flow.exists_getElem?_other e hother
      have hvalue : ((left ++ e :: right).map (·.value))[i]? = some other.value := by
        rw [List.getElem?_map, hi, Option.map_some]
      rw [List.map_append, List.map_cons] at hvalue
      obtain ⟨t, ht, rfl, htouched⟩ := hinv.touched i other.value hvalue (by simpa using hbusy)
      have hended := hpermits htouch t ht hne htouched
      rw [List.getElem?_map, hi, Option.map_some, Option.all_some] at hended
      rw [clear_of_ended hended] at hbusy
      exact hbusy rfl

/-- Where calls do not overlap on a topic, it is subscribed just if somebody listens on it, whenever all
have ended. -/
theorem subscribed_iff_listened (hs : s.Sound) (hbroker : s.broker = true)
    (hagree : topic ∈ w ↔ s.Listened topic) (h : (registering (Apart topic)).Leads s w p)
    (hrest : p.AtRest) : topic ∈ p.surroundings ↔ p.state.Listened topic := by
  rw [← hs.listenersOn_ne_nil] at hagree
  obtain ⟨standings, hcallers, htended⟩ := exists_tended hs hbroker hagree h
  rw [← htended.ledger.sound.listenersOn_ne_nil]
  refine htended.quiet ?_
  intro x hx
  obtain ⟨e, he, rfl⟩ := List.mem_map.1 hx
  have hended : e.caller.ended = true := by
    refine hrest e.caller ?_
    rw [hcallers]
    exact List.mem_map_of_mem he
  rw [clear_of_ended hended]
  rfl

/-- A request to be called with the messages under some topics. -/
@[reducible]
def listening (topics : List String) : DispatchCall :=
  .register { program := "hall", function := { name := "on", mode := .allocate (.user "anna") }
              trigger := .message topics }

/-- A broker that refuses some topics. -/
def refusing (refused : List String) (w : List String) :
    (q : DispatchService) → q.Answer × List String
  | .subscribe topic => if topic ∈ refused then (.error "full", w) else (.ok (), topic :: w)
  | .unsubscribe topic => (.ok (), w.filter (· ≠ topic))
  | q => ((failing () q).1, w)

theorem subscriptions_refusing (refused w : List String) (q : DispatchService) :
    subscriptions w q (refusing refused w q).1 (refusing refused w q).2 := by
  cases q with
  | subscribe topic =>
    simp only [refusing]
    split <;> rfl
  | unsubscribe topic => exact ⟨rfl, rfl⟩
  | _ => rfl

/-- Calls that overlap, but not on the lamp's topic: one that listens on the door's comes while the
first subscription is on its way, and another one waits, is refused a topic and leaves again. -/
def orderly : DispatchSession (List String) :=
  let calls := [listening ["lamp"], listening ["door"], listening ["lamp", "bell"], .unregister 1,
    listening ["lamp"]]
  (Flow.Session.opened (registering (Apart "lamp")) calls { broker := true } []).turnsOf
    (registering (Apart "lamp")) (refusing ["bell"])
    ([0, 0, 0, 0] ++ List.replicate 6 1 ++ [2, 2, 2, 2] ++ [0, 0] ++ List.replicate 6 2 ++
      List.replicate 6 3 ++ List.replicate 6 4)

theorem leads_orderly : (registering (Apart "lamp")).Leads { broker := true } [] orderly :=
  (Flow.Setting.Leads.opened _ (by simp [registering, DispatchCall.isEvent])).turnsOf
    (subscriptions_refusing _) _

/-- The last to come is the only one who listens in the end, and the topic is subscribed. -/
theorem orderly_subscribed : orderly.AtRest ∧ "lamp" ∈ orderly.surroundings ∧
    ("lamp" ∈ orderly.surroundings ↔ orderly.state.Listened "lamp") := by
  have hs : DispatchState.Sound { broker := true } := ⟨.empty, nofun⟩
  have hagree : "lamp" ∈ ([] : List String) ↔ DispatchState.Listened "lamp" { broker := true } := by
    refine ⟨nofun, ?_⟩
    rintro ⟨id, r, h, -⟩
    cases h
  have hrest : orderly.AtRest := by decide
  exact ⟨hrest, by decide, subscribed_iff_listened hs rfl hagree leads_orderly hrest⟩

/-- Two calls listen on the same topic. The second comes while the subscription of the first is on its
way, and relies on it; then the broker refuses it. -/
def overlap : DispatchSession (List String) :=
  (Flow.Session.opened (registering fun _ _ => True) [listening ["lamp"], listening ["lamp"]]
    { broker := true } []).turnsOf (registering fun _ _ => True) (refusing ["lamp"])
    ([0, 0, 0, 0] ++ List.replicate 5 1 ++ [0, 0])

/-- So the second is told that it is registered, and has no subscription when all have ended. -/
theorem overlap_unsubscribed :
    (registering fun _ _ => True).Leads { broker := true } [] overlap ∧ overlap.AtRest ∧
      overlap.callers[1]? = some ⟨listening ["lamp"], .done (.ok 2)⟩ ∧
      overlap.state.Listened "lamp" ∧ "lamp" ∉ overlap.surroundings := by
  refine ⟨?_, by decide, rfl, ?_, by decide⟩
  · exact (Flow.Setting.Leads.opened _ (by simp [registering, DispatchCall.isEvent])).turnsOf
      (subscriptions_refusing _) _
  · exact ⟨2, _, rfl, by decide⟩

end DispatchSession

end DriverHub
