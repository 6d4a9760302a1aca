import DriverHub.Proofs.Dispatch.Ledger
import Mathlib.Algebra.Order.BigOperators.Group.List
import Mathlib.Algebra.Order.Group.Nat

/-! Registrations that fire once. Timers that fire, jobs that end, calls that take registrations back
and registrations that replace others may all be after the same one, and their steps may come in any
order. Taking it out of the table decides between them: only one of them gets it, and only if that is
a timer or the end of a job is its callback run, and then once. -/

namespace DriverHub

open DispatchTurn DispatchState

abbrev DispatchSession (W : Type) :=
  Flow.Session dispatchServices DispatchState W DispatchCall.Result

/-- All calls of the dispatcher, in any order of turns. -/
def DispatchCall.setting {W : Type} (answers : Surroundings dispatchServices W) :
    Flow.Setting dispatchServices DispatchState W DispatchCall.Result where
  answers := answers
  flow := DispatchCall.flow
  admits _ := True
  permits _ _ := True

instance {W : Type} (answers : Surroundings dispatchServices W) (p : DispatchSession W)
    (t : DispatchTurn) : Decidable ((DispatchCall.setting answers).permits p t) :=
  inferInstanceAs (Decidable True)

namespace DispatchSession

variable {W : Type} {s : DispatchState} {w : W} {p : DispatchSession W}

/-- Where all calls keep to the protocol of hands, the callers of a session with their hands agree with
its ledger. -/
theorem exists_ledger_of {κ : Type} {Result : κ → Type}
    {S : Flow.Setting dispatchServices DispatchState W Result}
    {p : Flow.Session dispatchServices DispatchState W Result} (fires : κ → Bool)
    (Ends : (call : κ) → Result call → Hand → Prop)
    (hkeeps : ∀ call, (S.flow call).Keeps Hand.protocol ⟨fires call, [], []⟩ (Ends call)) (hs : s.Sound)
    (h : S.Leads s w p) :
    ∃ standings : List (Flow.Standing Hand.protocol Ends),
      p.callers = standings.map (·.caller) ∧
      Ledger (standings.map (·.value)) p.state p.turns ∧
      ∀ e ∈ standings, e.value.fires = fires e.caller.call := by
  refine h.invariant (P := Hand.protocol) (Q := Ends) (fun call => ⟨fires call, [], []⟩)
    (fun call _ => hkeeps call)
    (fun standings s _ turns => Ledger (standings.map (·.value)) s turns ∧
      ∀ e ∈ standings, e.value.fires = fires e.caller.call) ⟨.nothing hs, by simp⟩
    (fun _ _ _ _ _ => trivial) ?_ ?_ ?_
  · intro left right e s w turns hinv
    have hledger := hinv.1
    rw [List.map_append, List.map_cons] at hledger
    exact hledger.relies
  · intro standings s w turns e _ he hinv
    refine ⟨?_, ?_⟩
    · rw [List.map_append, List.map_singleton, he]
      exact hinv.1.call _
    · intro e' hmem
      rcases List.mem_append.1 hmem with hmem | hmem
      · exact hinv.2 e' hmem
      · rw [List.mem_singleton.1 hmem, he]
  · intro left right e e' s w turns act w' hinv hcall hmove _ _
    refine ⟨?_, ?_⟩
    · have hledger := hinv.1
      rw [List.map_append, List.map_cons] at hledger
      have hnext := hledger.turn hmove
      rw [List.length_map] at hnext
      simpa using hnext
    · intro x hx
      have he : e.value.fires = fires e.caller.call := hinv.2 e (by simp)
      rcases List.mem_append.1 hx with hx | hx
      · exact hinv.2 x (List.mem_append_left _ hx)
      · rcases List.mem_cons.1 hx with rfl | hx
        · rw [hmove.fires_eq, he, hcall]
        · exact hinv.2 x (by simp [hx])

theorem exists_ledger {S : Flow.Setting dispatchServices DispatchState W DispatchCall.Result}
    (hflow : S.flow = DispatchCall.flow) (hs : s.Sound) (h : S.Leads s w p) :
    ∃ standings : List (Flow.Standing Hand.protocol DispatchCall.Ends),
      p.callers = standings.map (·.caller) ∧
      Ledger (standings.map (·.value)) p.state p.turns ∧
      ∀ e ∈ standings, e.value.fires = e.caller.call.fires := by
  refine exists_ledger_of DispatchCall.fires DispatchCall.Ends ?_ hs h
  intro call
  rw [hflow]
  exact call.keeps_flow

/-- What has become of a registration. -/
structure ConsumedOnce (p : DispatchSession W) (id : RegistrationId) : Prop where
  /-- As one that fires once, it was delivered to at most once. -/
  at_most_once : p.turns.countP (delivers id) ≤ 1
  /-- Since then it has not been in the table. -/
  gone : ∀ t ∈ p.turns, delivers id t = true → p.state.table.get? id = none
  /-- Who delivered to it is a timer that fired or a job that ended, and nobody else took it out. -/
  taken_by_firing : ∀ t ∈ p.turns, ∀ u ∈ p.turns, delivers id t = true → takes id u = true →
    u.caller = t.caller ∧ ∃ c, p.callers[t.caller]? = some c ∧ c.call.fires = true
  /-- Nobody was told that it was taken back. -/
  not_taken_back : ∀ t ∈ p.turns, delivers id t = true → ⟨.unregister id, .done true⟩ ∉ p.callers

theorem countP_eq_add {A : Type} (p q : A → Bool) (as : List A) :
    as.countP p = as.countP (fun a => q a && p a) + as.countP fun a => !q a && p a := by
  induction as with
  | nil => rfl
  | cons a rest ih =>
    simp only [List.countP_cons, ih]
    cases q a <;> simp <;> omega

/-- What a caller at a place took back: so many registrations, each of which it took out itself, and
none of which was delivered to as one that fires once. -/
def TookBack (p : DispatchSession W) (caller count : Nat) : Prop :=
  ∃ ids : List RegistrationId, ids.length = count ∧ ids.Nodup ∧ ∀ id ∈ ids,
    (∃ t ∈ p.turns, t.caller = caller ∧ takes id t = true) ∧ ∀ t ∈ p.turns, delivers id t = false

section

variable {standings : List (Flow.Standing Hand.protocol DispatchCall.Ends)}

theorem count_taken_le {e : Flow.Standing Hand.protocol DispatchCall.Ends} (he : e ∈ standings)
    (id : RegistrationId) :
    e.value.taken.count id ≤ ((standings.map (·.value)).map fun g => g.taken.count id).sum := by
  refine List.single_le_sum (fun _ _ => Nat.zero_le _) _ ?_
  simp only [List.map_map, List.mem_map, Function.comp_apply]
  exact ⟨e, he, rfl⟩

/-- Who delivers to a registration that fires once is a timer that fired or a job that ended. -/
theorem fires_of_delivers (hcallers : p.callers = standings.map (·.caller))
    (hledger : Ledger (standings.map (·.value)) p.state p.turns)
    (hfires : ∀ e ∈ standings, e.value.fires = e.caller.call.fires) {t : DispatchTurn}
    (ht : t ∈ p.turns) {id : RegistrationId} (hid : delivers id t = true) :
    ∃ c, p.callers[t.caller]? = some c ∧ c.call.fires = true := by
  obtain ⟨g, hg, hgfires⟩ := hledger.fired t ht id hid
  rw [List.getElem?_map, Option.map_eq_some_iff] at hg
  obtain ⟨e, he, rfl⟩ := hg
  refine ⟨e.caller, ?_, ?_⟩
  · rw [hcallers, List.getElem?_map, he, Option.map_some]
  · rw [← hfires e (List.mem_of_getElem? he), hgfires]

theorem consumedOnce_of_ledger (hcallers : p.callers = standings.map (·.caller))
    (hledger : Ledger (standings.map (·.value)) p.state p.turns)
    (hfires : ∀ e ∈ standings, e.value.fires = e.caller.call.fires) (id : RegistrationId) :
    p.ConsumedOnce id := by
  have honce := hledger.once id
  have hspent := hledger.spent id
  have hdelivered {t : DispatchTurn} (ht : t ∈ p.turns) (hid : delivers id t = true) :
      0 < p.turns.countP (delivers id) := List.countP_pos_iff.2 ⟨t, ht, hid⟩
  refine ⟨by omega, ?_, ?_, ?_⟩
  · intro t ht hid
    have hpos := hdelivered ht hid
    by_contra hne
    rw [entered, if_pos (Option.isSome_iff_ne_none.2 hne)] at honce
    omega
  · intro t ht u hu hid htakes
    refine ⟨?_, ?_⟩
    · by_contra hne
      -- two turns by different callers would have taken it out
      have hown := hledger.own t.caller id
      have hsplit := countP_eq_add (takes id) (fun v => v.caller = t.caller) p.turns
      have hsame : 0 < p.turns.countP fun v => v.caller = t.caller && delivers id v :=
        List.countP_pos_iff.2 ⟨t, ht, by simp [hid]⟩
      have hother : 0 < p.turns.countP fun v => !decide (v.caller = t.caller) && takes id v :=
        List.countP_pos_iff.2 ⟨u, hu, by simp [htakes, hne]⟩
      omega
    · exact fires_of_delivers hcallers hledger hfires ht hid
  · intro t ht hid hmem
    have hpos := hdelivered ht hid
    rw [hcallers, List.mem_map] at hmem
    obtain ⟨⟨c, g, hkeeps⟩, he, rfl⟩ := hmem
    have htaken : id ∈ g.taken := hkeeps rfl
    have hcount := List.count_pos_iff.2 htaken
    have hle : g.taken.count id ≤ _ := count_taken_le he id
    omega

theorem tookBack_of_ledger (hcallers : p.callers = standings.map (·.caller))
    (hledger : Ledger (standings.map (·.value)) p.state p.turns) {caller count : Nat}
    {program : String}
    (hcaller : p.callers[caller]? = some ⟨.unregisterProgram program, .done count⟩) :
    p.TookBack caller count := by
  rw [hcallers, List.getElem?_map, Option.map_eq_some_iff] at hcaller
  obtain ⟨⟨c, g, hkeeps⟩, he, rfl⟩ := hcaller
  have hcount (id : RegistrationId) :
      g.taken.count id + p.turns.countP (delivers id) ≤ 1 := by
    have honce := hledger.once id
    have hspent := hledger.spent id
    have hle : g.taken.count id ≤ _ := count_taken_le (List.mem_of_getElem? he) id
    omega
  refine ⟨g.taken, hkeeps.symm, ?_, ?_⟩
  · refine List.nodup_iff_count_le_one.2 fun id => ?_
    have := hcount id
    omega
  · intro id hid
    have hpos := List.count_pos_iff.2 hid
    refine ⟨?_, ?_⟩
    · have hown := hledger.own caller id
      have htaken : Hand.takenBy (standings.map (·.value)) caller id = g.taken.count id := by
        simp [Hand.takenBy, List.getElem?_map, he]
      have htakes : 0 < p.turns.countP fun t => t.caller = caller && takes id t := by omega
      obtain ⟨t, ht, hby⟩ := List.countP_pos_iff.1 htakes
      exact ⟨t, ht, by simpa using hby⟩
    · have hzero : p.turns.countP (delivers id) = 0 := by
        have := hcount id
        omega
      intro t ht
      simpa using List.countP_eq_zero.1 hzero t ht

end

/-- Whatever order the turns of any calls come in, a registration that fires once is delivered to at
most once; then no other call took it out, nobody is told that it was taken back, and it is not in the
table again. Nor is one delivered to that counts as taken back with its program. -/
theorem one_shot_consumed_once {answers : Surroundings dispatchServices W} (hs : s.Sound)
    (h : (DispatchCall.setting answers).Leads s w p) :
    (∀ id, p.ConsumedOnce id) ∧ ∀ caller program count,
      p.callers[caller]? = some ⟨.unregisterProgram program, .done count⟩ → p.TookBack caller count := by
  obtain ⟨standings, hcallers, hledger, hfires⟩ := exists_ledger rfl hs h
  refine ⟨consumedOnce_of_ledger hcallers hledger hfires, ?_⟩
  intro caller program count hcaller
  exact tookBack_of_ledger hcallers hledger hcaller

/-- Surroundings in which nothing goes wrong but the callbacks. -/
def failing (_ : Unit) : (q : DispatchService) → q.Answer × Unit
  | .subscribe _ | .unsubscribe _ => (.ok (), ())
  | .now => (0, ())
  | .armTimer .. | .disarmTimer _ | .log _ => ((), ())
  | .deliver .. => (false, ())
  | .record _ => (.error (.decode "lamp"), ())
  | .prepare driver => (.error (.driverNotFound driver.id), ())
  | .invoke target _ => (.error (.driverNotFound target.driver), ())

/-- A timer is registered. Then it fires twice, while one call takes it back and another takes back
all that its program registered; the first firing is the first to get to the table. -/
def race : DispatchSession Unit :=
  let request : RegisterRequest :=
    { program := "lamp", function := { name := "off", mode := .allocate (.user "anna") }
      trigger := .atTime { fireAt := .deadline 1000, registeredAt := 0 } }
  let calls : List DispatchCall :=
    [.register request, .event (.timer 1), .event (.timer 1), .unregister 1, .unregisterProgram "lamp"]
  (Flow.Session.opened (DispatchCall.setting fun _ _ _ _ => True) calls {} ()).turnsOf
    (DispatchCall.setting fun _ _ _ _ => True) failing
    ([0, 0, 0, 0, 0, 0, 0] ++ [1, 2, 4, 1, 2, 3, 4] ++ [1, 1, 1, 1])

theorem leads_race : (DispatchCall.setting fun _ _ _ _ => True).Leads {} () race :=
  (Flow.Setting.Leads.opened _ fun _ _ => trivial).turnsOf (fun _ _ => trivial) _

/-- The callback is run, and its failure changes nothing: it is not run again. -/
theorem race_consumed_once :
    race.ConsumedOnce 1 ∧ race.turns.countP (delivers 1) = 1 ∧ race.turns.countP (takes 1) = 1 ∧
      race.AtRest ∧ ⟨.unregister 1, .done false⟩ ∈ race.callers ∧ race.TookBack 4 0 := by
  have hs : DispatchState.Sound {} := ⟨.empty, nofun⟩
  obtain ⟨honce, htook⟩ := one_shot_consumed_once hs leads_race
  refine ⟨honce 1, by decide, by decide, by decide, ?_, htook 4 "lamp" 0 rfl⟩
  exact List.mem_of_getElem? (i := 3) rfl

end DispatchSession

end DriverHub
