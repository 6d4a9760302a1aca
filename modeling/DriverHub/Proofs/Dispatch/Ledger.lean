import DriverHub.Proofs.Dispatch.Hand
import Mathlib.Algebra.BigOperators.Group.List.Basic
import Mathlib.Algebra.GroupWithZero.Nat

/-! The ledger of a session: where each number is. It is still to be given out, or drawn by a call, or
the number of a registration in the table, or of one that was taken out; and who took it out has it in
hand or has delivered to it. No turn makes a number be in two places. -/

namespace DriverHub

/-! ### What a turn does to a number -/

namespace DispatchState

/-- 1 for a number that is still to be given out. -/
def ahead (id : RegistrationId) (s : DispatchState) : Nat := if s.nextId ≤ id then 1 else 0

/-- 1 for the number of a registration in the table. -/
def entered (id : RegistrationId) (s : DispatchState) : Nat :=
  if (s.table.get? id).isSome then 1 else 0

end DispatchState

namespace DispatchTurn

/-- The turn takes a registration out of the table. -/
def takes (id : RegistrationId) (t : DispatchTurn) : Bool :=
  (t.state.table.get? id).isSome && (t.after.table.get? id).isNone

/-- The turn delivers to a registration that fires once. -/
def delivers (id : RegistrationId) (t : DispatchTurn) : Bool :=
  match t.act with
  | .accessed _ => false
  | .asked q _ => q.lastFor = some id

theorem takes_of_table_eq {caller : Nat} {s : DispatchState} {act : DispatchAct}
    (h : (act.after s).table = s.table) (id : RegistrationId) :
    takes id ⟨caller, s, act⟩ = false := by
  simp only [takes, Flow.Turn.after, h]
  cases s.table.get? id <;> rfl

end DispatchTurn

namespace Hand.Moves

open DispatchState DispatchTurn

variable {g g' : Hand} {s : DispatchState} {act : DispatchAct}

theorem fires_eq (h : g.Moves s act g') : g'.fires = g.fires := by
  cases h <;> rfl

/-- A move leaves the table sound. -/
theorem sound (h : g.Moves s act g') (hs : g.Relies s) : (act.after s).Sound := by
  obtain ⟨⟨hindexed, hdrawn⟩, hfree⟩ := hs
  cases h with
  | aside table nextId =>
    refine ⟨?_, ?_⟩
    · rw [Flow.Act.after_accessed, table]
      exact hindexed
    · intro id r hr
      rw [Flow.Act.after_accessed] at hr ⊢
      rw [table] at hr
      rw [nextId]
      exact hdrawn hr
  | draw table nextId =>
    refine ⟨?_, ?_⟩
    · rw [Flow.Act.after_accessed, table]
      exact hindexed
    · intro id r hr
      rw [Flow.Act.after_accessed] at hr ⊢
      rw [table] at hr
      rw [nextId]
      exact Nat.lt_succ_of_lt (hdrawn hr)
  | @enter r _ _ _ _ update table nextId =>
    obtain ⟨hlt, hnone⟩ := hfree r.id List.mem_cons_self
    refine ⟨?_, ?_⟩
    · rw [Flow.Act.after_accessed, table]
      exact hindexed.insert hnone
    · intro id r' hr
      rw [Flow.Act.after_accessed] at hr ⊢
      rw [table, RegistrationTable.get?_insert] at hr
      rw [nextId]
      split at hr
      · next hid => exact hid ▸ hlt
      · exact hdrawn hr
  | @take id r _ _ _ _ update found table nextId =>
    refine ⟨?_, ?_⟩
    · rw [Flow.Act.after_accessed, table]
      exact hindexed.remove id
    · intro k r' hr
      rw [Flow.Act.after_accessed] at hr ⊢
      rw [table, RegistrationTable.get?_remove] at hr
      rw [nextId]
      split at hr
      · cases hr
      · exact hdrawn hr
  | ask | deliver => exact ⟨hindexed, hdrawn⟩

theorem balance (h : g.Moves s act g') (hs : g.Relies s) (caller : Nat) (id : RegistrationId) :
    let t : DispatchTurn := ⟨caller, s, act⟩
    ahead id (act.after s) + g'.drawn.count id + entered id (act.after s) +
        (if takes id t then 1 else 0) =
      ahead id s + g.drawn.count id + entered id s ∧
    (if takes id t then 1 else 0) + g.taken.count id =
      g'.taken.count id + if delivers id t then 1 else 0 := by
  cases h with
  | @aside _ _ update table nextId =>
    have htakes : takes id ⟨caller, s, .accessed update⟩ = false :=
      @takes_of_table_eq caller s (.accessed update) table id
    simp [htakes, ahead, entered, delivers, table, nextId]
  | @draw _ drawn _ _ update table nextId =>
    have htakes : takes id ⟨caller, s, .accessed update⟩ = false :=
      @takes_of_table_eq caller s (.accessed update) table id
    have hcount :
        ahead id (update s) + (s.nextId :: drawn).count id = ahead id s + drawn.count id := by
      simp only [ahead, nextId, List.count_cons, beq_iff_eq]
      grind
    simp only [Flow.Act.after_accessed, htakes, entered, delivers, table]
    simpa using hcount
  | @enter r _ drawn _ _ update table nextId =>
    have hnone : s.table.get? r.id = none := (hs.drawn r.id List.mem_cons_self).2
    simp only [Flow.Act.after_accessed, ahead, entered, takes, delivers, Flow.Turn.after, table,
      nextId, RegistrationTable.get?_insert, List.count_cons, beq_iff_eq]
    by_cases hid : r.id = id
    · subst hid
      simp [hnone, Nat.add_assoc]
    · cases s.table.get? id <;> simp [hid]
  | @take k r _ _ taken _ update found table nextId =>
    simp only [Flow.Act.after_accessed, ahead, entered, takes, delivers, Flow.Turn.after, table,
      nextId, RegistrationTable.get?_remove, List.count_cons, beq_iff_eq]
    by_cases hid : k = id
    · subst hid
      simp [found, Nat.add_comm]
    · cases s.table.get? id <;> simp [hid]
  | @ask _ _ q b quiet =>
    have htakes : takes id ⟨caller, s, .asked q b⟩ = false := takes_of_table_eq rfl id
    simp [htakes, delivers, quiet]
  | @deliver k _ taken _ q b last =>
    have htakes : takes id ⟨caller, s, .asked q b⟩ = false := takes_of_table_eq rfl id
    simp [htakes, delivers, last, List.count_cons]

theorem numbers_le (h : g.Moves s act g') (id : RegistrationId) :
    ahead id (act.after s) + g'.drawn.count id ≤ ahead id s + g.drawn.count id := by
  cases h with
  | aside table nextId | take found table nextId => simp [ahead, nextId]
  | enter table nextId =>
    simp only [Flow.Act.after_accessed, ahead, nextId, List.count_cons]
    omega
  | draw table nextId =>
    simp only [Flow.Act.after_accessed, ahead, nextId, List.count_cons, beq_iff_eq]
    grind
  | ask | deliver => exact Nat.le_refl _

theorem mem_drawn_of_nextId (h : g.Moves s act g') (hnext : (act.after s).nextId = s.nextId + 1) :
    s.nextId ∈ g'.drawn := by
  cases h with
  | draw => exact List.mem_cons_self
  | aside table nextId | take found table nextId | enter table nextId =>
    rw [Flow.Act.after_accessed, nextId] at hnext
    exact absurd hnext.symm (Nat.succ_ne_self _)
  | ask | deliver => exact absurd hnext.symm (Nat.succ_ne_self _)

theorem get?_after (h : g.Moves s act g') {id : RegistrationId} {r : Registration}
    (hr : (act.after s).table.get? id = some r) : s.table.get? id = some r ∨ id ∈ g.drawn := by
  cases h with
  | aside table | draw table =>
    rw [Flow.Act.after_accessed, table] at hr
    exact .inl hr
  | @enter new _ _ _ _ update table =>
    rw [Flow.Act.after_accessed, table, RegistrationTable.get?_insert] at hr
    split at hr
    · next hid => exact .inr (hid ▸ List.mem_cons_self)
    · exact .inl hr
  | take found table =>
    rw [Flow.Act.after_accessed, table, RegistrationTable.get?_remove] at hr
    split at hr
    · cases hr
    · exact .inl hr
  | ask | deliver => exact .inl hr

theorem get?_kept (h : g.Moves s act g') (hs : g.Relies s) {id : RegistrationId} {r : Registration}
    (hr : s.table.get? id = some r) (caller : Nat)
    (hkept : takes id ⟨caller, s, act⟩ = false) : (act.after s).table.get? id = some r := by
  cases h with
  | aside table | draw table => rwa [Flow.Act.after_accessed, table]
  | @enter new _ _ _ _ update table =>
    have hnone : s.table.get? new.id = none := (hs.drawn new.id List.mem_cons_self).2
    rw [Flow.Act.after_accessed, table, RegistrationTable.get?_insert, if_neg, hr]
    rintro rfl
    rw [hnone] at hr
    cases hr
  | @take k _ _ _ _ _ update found table =>
    simp only [takes, Flow.Turn.after, Flow.Act.after_accessed, hr, table,
      RegistrationTable.get?_remove] at hkept ⊢
    by_cases hid : k = id
    · simp [hid] at hkept
    · rw [if_neg hid]
  | ask | deliver => exact hr

theorem killsIndexed (h : g.Moves s act g') (hs : g.Relies s) (hkills : s.table.KillsIndexed) :
    (act.after s).table.KillsIndexed := by
  cases h with
  | aside table | draw table => rwa [Flow.Act.after_accessed, table]
  | @enter new _ _ _ _ update table =>
    rw [Flow.Act.after_accessed, table]
    exact hkills.insert (hs.drawn new.id List.mem_cons_self).2
  | take found table =>
    rw [Flow.Act.after_accessed, table]
    exact hkills.remove _
  | ask | deliver => exact hkills

end Hand.Moves

/-! ### The ledger -/

open DispatchState DispatchTurn

/-- How often the caller at a place has a registration in hand. -/
def Hand.takenBy (hands : List Hand) (caller : Nat) (id : RegistrationId) : Nat :=
  match hands[caller]? with
  | none => 0
  | some g => g.taken.count id

theorem Hand.takenBy_append (hands : List Hand) (fires : Bool) (caller : Nat) (id : RegistrationId) :
    takenBy (hands ++ [⟨fires, [], []⟩]) caller id = takenBy hands caller id := by
  unfold takenBy
  by_cases hlt : caller < hands.length
  · rw [List.getElem?_append_left hlt]
  · rw [List.getElem?_append_right (Nat.le_of_not_lt hlt), List.getElem?_singleton,
      List.getElem?_eq_none (Nat.le_of_not_lt hlt)]
    by_cases hcaller : caller - hands.length = 0 <;> simp [hcaller]

theorem Hand.takenBy_self (left right : List Hand) (g : Hand) (id : RegistrationId) :
    takenBy (left ++ g :: right) left.length id = g.taken.count id := by
  simp [takenBy]

theorem Hand.takenBy_other {left right : List Hand} {caller : Nat} (g g' : Hand)
    (h : left.length ≠ caller) (id : RegistrationId) :
    takenBy (left ++ g :: right) caller id = takenBy (left ++ g' :: right) caller id := by
  unfold takenBy
  rw [Flow.getElem?_other g g' h]

structure Ledger (hands : List Hand) (s : DispatchState) (turns : List DispatchTurn) : Prop where
  sound : s.Sound
  /-- A number is in one place at most; what is taken out stays so. -/
  once : ∀ id, ahead id s + (hands.map fun g => g.drawn.count id).sum + entered id s +
    turns.countP (takes id) ≤ 1
  /-- What was taken out is in hand, or was delivered to. -/
  spent : ∀ id, turns.countP (takes id) =
    (hands.map fun g => g.taken.count id).sum + turns.countP (delivers id)
  /-- Each caller has in hand, or has delivered to, what it has taken out itself. -/
  own : ∀ caller id, turns.countP (fun t => t.caller = caller && takes id t) =
    Hand.takenBy hands caller id + turns.countP (fun t => t.caller = caller && delivers id t)
  /-- Only those deliver who may. -/
  fired : ∀ t ∈ turns, ∀ id, delivers id t = true → ∃ g, hands[t.caller]? = some g ∧ g.fires = true
  /-- Every turn was a move of some hand. -/
  moved : ∀ t ∈ turns, ∃ g g' : Hand, g.Relies t.state ∧ g.Moves t.state t.act g'

namespace Ledger

variable {left right hands : List Hand} {g g' : Hand} {s : DispatchState}
  {turns : List DispatchTurn} {act : DispatchAct}

theorem nothing (hs : s.Sound) : Ledger [] s [] where
  sound := hs
  once := by
    intro id
    have hdrawn : (s.table.get? id).isSome = true → id < s.nextId := by
      intro h
      obtain ⟨r, hr⟩ := Option.isSome_iff_exists.1 h
      exact hs.drawn hr
    simp only [ahead, entered, List.map_nil, List.sum_nil, List.countP_nil]
    grind
  spent _ := by simp
  own _ _ := by simp [Hand.takenBy]
  fired _ ht := by cases ht
  moved _ ht := by cases ht

theorem relies (h : Ledger (left ++ g :: right) s turns) : g.Relies s := by
  refine ⟨h.sound, ?_⟩
  intro id hid
  have hpos : 0 < g.drawn.count id := List.count_pos_iff.2 hid
  have honce := h.once id
  simp only [List.map_append, List.map_cons, List.sum_append, List.sum_cons, ahead, entered] at honce
  refine ⟨?_, ?_⟩
  · by_contra hlt
    rw [if_pos (Nat.le_of_not_lt hlt)] at honce
    omega
  · by_contra hne
    rw [if_pos (Option.isSome_iff_ne_none.2 hne)] at honce
    omega

theorem call (h : Ledger hands s turns) (fires : Bool) :
    Ledger (hands ++ [⟨fires, [], []⟩]) s turns := by
  refine ⟨h.sound, ?_, ?_, ?_, ?_, h.moved⟩
  · intro id
    simpa using h.once id
  · intro id
    simpa using h.spent id
  · intro caller id
    rw [h.own, Hand.takenBy_append]
  · intro t ht id hid
    obtain ⟨g, hg, hfires⟩ := h.fired t ht id hid
    refine ⟨g, ?_, hfires⟩
    rw [List.getElem?_append_left (List.getElem?_eq_some_iff.1 hg).1]
    exact hg

/-- A turn that is a move keeps the ledger. -/
theorem turn (h : Ledger (left ++ g :: right) s turns) (hmove : g.Moves s act g') :
    Ledger (left ++ g' :: right) (act.after s) (turns ++ [⟨left.length, s, act⟩]) := by
  have hrelies := h.relies
  have hbalance := hmove.balance hrelies left.length
  refine ⟨hmove.sound hrelies, ?_, ?_, ?_, ?_, ?_⟩
  · intro id
    have honce := h.once id
    have hid := (hbalance id).1
    simp only [List.map_append, List.map_cons, List.sum_append, List.sum_cons, List.countP_append,
      List.countP_singleton] at honce ⊢
    omega
  · intro id
    have hspent := h.spent id
    have hid := (hbalance id).2
    simp only [List.map_append, List.map_cons, List.sum_append, List.sum_cons, List.countP_append,
      List.countP_singleton] at hspent ⊢
    omega
  · intro caller id
    have hown := h.own caller id
    have hid := (hbalance id).2
    simp only [List.countP_append, List.countP_singleton]
    by_cases hcaller : left.length = caller
    · subst hcaller
      rw [Hand.takenBy_self] at hown ⊢
      simp only [decide_true, Bool.true_and]
      omega
    · rw [Hand.takenBy_other g' g hcaller]
      simpa [hcaller] using hown
  · intro t ht id hid
    rcases List.mem_append.1 ht with ht | ht
    · obtain ⟨x, hx, hfires⟩ := h.fired t ht id hid
      by_cases hcaller : left.length = t.caller
      · rw [← hcaller] at hx ⊢
        refine ⟨g', by simp, ?_⟩
        obtain rfl : g = x := by simpa using hx
        rw [hmove.fires_eq, hfires]
      · exact ⟨x, by rw [Flow.getElem?_other g' g hcaller, hx], hfires⟩
    · obtain rfl := List.mem_singleton.1 ht
      refine ⟨g', by simp, ?_⟩
      cases hmove with
      | ask quiet => simp [delivers, quiet] at hid
      | deliver => rfl
      | _ => cases hid
  · intro t ht
    rcases List.mem_append.1 ht with ht | ht
    · exact h.moved t ht
    · rw [List.mem_singleton.1 ht]
      exact ⟨g, g', hrelies, hmove⟩

end Ledger

end DriverHub
