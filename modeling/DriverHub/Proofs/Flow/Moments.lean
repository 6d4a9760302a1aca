import DriverHub.Proofs.Flow.Order

/-! Moments of a session. Before each turn there is a state that its caller finds, and there is what
this caller has done so far, which tells what the turn can be. A value that some turns replace and the
others leave alone is, at any moment, as the last of these turns has left it. -/

namespace DriverHub

/-- Each element is as `role` says of it and of those before it. -/
def Each {D : Type} (role : List D → D → Prop) (ds : List D) : Prop :=
  ∀ left d right, ds = left ++ d :: right → role left d

namespace Each

variable {D : Type} {role : List D → D → Prop} {ds more : List D} {d : D}

theorem nil : Each role [] := by
  intro left d right h
  simp at h

theorem singleton (h : role [] d) : Each role [d] := by
  intro left e right hsplit
  obtain ⟨rfl, hd⟩ | ⟨left, rfl, hrest⟩ := List.append_eq_cons_iff.1 hsplit.symm
  · obtain ⟨rfl, -⟩ := List.cons.inj hd
    exact h
  · simp at hrest

theorem of_forall_mem (h : ∀ d ∈ ds, ∀ left, role left d) : Each role ds := by
  rintro left d right rfl
  exact h d (by simp) left

theorem append (h : Each role ds) (hmore : Each (fun left => role (ds ++ left)) more) :
    Each role (ds ++ more) := by
  intro left d right hsplit
  rcases List.append_eq_append_iff.1 hsplit with ⟨rest, rfl, hrest⟩ | ⟨rest, rfl, hrest⟩
  · exact hmore rest d right hrest
  · cases rest with
    | nil =>
      have hfirst := hmore [] d right hrest.symm
      rwa [List.append_nil, List.append_nil] at hfirst
    | cons e rest =>
      obtain ⟨rfl, -⟩ := List.cons.inj hrest
      exact h left d rest rfl

end Each

/-! ### What an attempt does after what was done before -/

namespace Flow

variable {I : Interface} {σ α : Type}

/-- Where all questions can be answered, a flow can come to an end. -/
theorem Does.exists [Nonempty σ] [∀ q : I.Question, Nonempty (I.Answer q)] {flow : Flow I σ α}
    {P : α → List (σ × Act I σ) → Prop} (h : flow.Does P) : ∃ a ds, P a ds := by
  induction flow generalizing P with
  | done a => exact ⟨a, [], h⟩
  | access update next ih =>
    obtain ⟨s⟩ := ‹Nonempty σ›
    obtain ⟨a, ds, hP⟩ := ih s (h s)
    exact ⟨a, _, hP⟩
  | ask q next ih =>
    obtain ⟨s⟩ := ‹Nonempty σ›
    obtain ⟨b⟩ : Nonempty (I.Answer q) := inferInstance
    obtain ⟨a, ds, hP⟩ := ih b (h s b)
    exact ⟨a, _, hP⟩

end Flow

namespace Attempt

variable {I : Interface} {σ ε α β : Type}

/-- With these deeds behind it, each deed of an attempt is as `role` says of it and of all deeds before
it. If the attempt succeeds, its value and all deeds by then are as `F` says. -/
def Recalls (attempt : Attempt I σ ε α)
    (role : List (σ × Flow.Act I σ) → σ × Flow.Act I σ → Prop) (past : List (σ × Flow.Act I σ))
    (F : α → List (σ × Flow.Act I σ) → Prop) : Prop :=
  attempt.Does fun x ds => Each (fun left => role (past ++ left)) ds ∧ ∀ a, x = .ok a → F a (past ++ ds)

namespace Recalls

variable {attempt : Attempt I σ ε α} {role : List (σ × Flow.Act I σ) → σ × Flow.Act I σ → Prop}
  {past : List (σ × Flow.Act I σ)} {F : α → List (σ × Flow.Act I σ) → Prop}

theorem bind {k : α → Attempt I σ ε β} {G : β → List (σ × Flow.Act I σ) → Prop}
    (h : attempt.Recalls role past F)
    (hk : ∀ a past', past <+: past' → F a past' → (k a).Recalls role past' G) :
    (attempt >>= k).Recalls role past G := by
  refine Does.bind h ?_ ?_
  · rintro a ds ⟨hds, hF⟩
    refine Does.mono (hk a (past ++ ds) (List.prefix_append past ds) (hF a rfl)) ?_
    rintro x more ⟨hmore, hG⟩
    simp only [List.append_assoc] at hmore hG
    exact ⟨hds.append hmore, hG⟩
  · rintro e ds ⟨hds, -⟩
    exact ⟨hds, nofun⟩

theorem pure {a : α} (h : F a past) : (Pure.pure a : Attempt I σ ε α).Recalls role past F := by
  refine ⟨.nil, ?_⟩
  rintro _ ⟨⟩
  rwa [List.append_nil]

theorem fail (e : ε) : (Attempt.fail e : Attempt I σ ε α).Recalls role past F := ⟨.nil, nofun⟩

theorem of_done {δ : Type} (wrap : δ → ε) {x : Except δ α} (h : ∀ a, x = .ok a → F a past) :
    (Attempt.of wrap (.done x) : Attempt I σ ε α).Recalls role past F := by
  refine ⟨.nil, ?_⟩
  cases x with
  | error e => nofun
  | ok a =>
    rintro _ ⟨⟩
    rw [List.append_nil]
    exact h a rfl

end Recalls

end Attempt

namespace Flow

variable {I : Interface} {σ W κ V : Type} {Result : κ → Type}

/-- The state before the turn with this number, or the state now if there is none. -/
def Session.stateAt (p : Session I σ W Result) (n : Nat) : σ :=
  match p.turns[n]? with
  | some t => t.state
  | none => p.state

theorem Session.stateAt_of_turn {p : Session I σ W Result} {n : Nat} {t : Turn I σ}
    (h : p.turns[n]? = some t) : p.stateAt n = t.state := by
  unfold stateAt
  rw [h]

theorem Session.stateAt_of_none {p : Session I σ W Result} {n : Nat} (h : p.turns[n]? = none) :
    p.stateAt n = p.state := by
  unfold stateAt
  rw [h]

namespace Setting.Leads

variable {S : Setting I σ W Result} {s₀ : σ} {w₀ : W} {p : Session I σ W Result} {n : Nat}
  {t : Turn I σ}

/-- What is told of the deeds of each call holds of each turn, by what its caller has done before. -/
theorem each_at [Nonempty σ] [∀ q : I.Question, Nonempty (I.Answer q)] (h : S.Leads s₀ w₀ p)
    (role : κ → List (σ × Act I σ) → σ × Act I σ → Prop)
    (hdoes : ∀ call, S.admits call → (S.flow call).Does fun _ ds => Each (role call) ds)
    (ht : p.turns[n]? = some t) :
    ∃ c, p.callers[t.caller]? = some c ∧ S.admits c.call ∧
      role c.call (deeds (p.turns.take n) t.caller) t.deed := by
  have hc := List.getElem?_eq_getElem (h.caller_lt t (List.mem_of_getElem? ht))
  have hadmitted := h.admitted _ (List.mem_of_getElem? hc)
  obtain ⟨a, ds, heach⟩ := (h.does_rest hc (hdoes _ hadmitted)).exists
  rw [deeds_at ht, List.append_assoc, List.cons_append] at heach
  exact ⟨_, hc, hadmitted, heach _ _ _ rfl⟩

/-! ### The state at each moment -/

theorem state_of_nil (h : S.Leads s₀ w₀ p) (hturns : p.turns = []) : p.state = s₀ := by
  induction h with
  | nothing => rfl
  | call _ _ ih => exact ih hturns
  | turn => simp at hturns

theorem stateAt_zero (h : S.Leads s₀ w₀ p) : p.stateAt 0 = s₀ := by
  obtain ⟨p', hp', hnone, hstate⟩ := h.up_to [] p.turns rfl
  cases hturns : p.turns with
  | nil => exact (Session.stateAt_of_none (by simp [hturns])).trans (h.state_of_nil hturns)
  | cons t after =>
    rw [hturns] at hstate
    rw [Session.stateAt_of_turn (t := t) (by simp [hturns]), ← hstate t rfl]
    exact hp'.state_of_nil hnone

theorem stateAt_succ (h : S.Leads s₀ w₀ p) (ht : p.turns[n]? = some t) : p.stateAt (n + 1) = t.after := by
  have hbefore : p.turns.take (n + 1) = p.turns.take n ++ [t] := by
    rw [List.take_add_one, ht]
    rfl
  obtain ⟨p', hp', hturns, hstate⟩ := h.up_to (p.turns.take (n + 1)) (p.turns.drop (n + 1))
    (List.take_append_drop _ _).symm
  rw [List.head?_drop] at hstate
  cases hnext : p.turns[n + 1]? with
  | none =>
    have hall : p.turns = p.turns.take n ++ [t] := by
      rw [← hbefore, List.take_of_length_le (List.getElem?_eq_none_iff.1 hnext)]
    rw [Session.stateAt_of_none hnext]
    exact h.state_of_last hall
  | some u =>
    rw [Session.stateAt_of_turn hnext, ← hstate u hnext]
    exact hp'.state_of_last (hturns.trans hbefore)

section

variable (h : S.Leads s₀ w₀ p) (value : σ → Option V) (new : σ × Act I σ → Option V)
  (hturns : ∀ t ∈ p.turns, value t.after = (new t.deed).or (value t.state))

include h hturns

theorem value_succ (n : Nat) :
    value (p.stateAt (n + 1)) = (p.turns[n]?.bind (new ·.deed)).or (value (p.stateAt n)) := by
  cases ht : p.turns[n]? with
  | none =>
    have hnext : p.turns[n + 1]? = none :=
      List.getElem?_eq_none_iff.2 (Nat.le_succ_of_le (List.getElem?_eq_none_iff.1 ht))
    rw [Session.stateAt_of_none ht, Session.stateAt_of_none hnext]
    rfl
  | some t =>
    rw [h.stateAt_succ ht, Session.stateAt_of_turn ht]
    exact hturns t (List.mem_of_getElem? ht)

/-- A value that some turns replace and all others leave alone is as it was at first, or as the last of
these turns has left it. -/
theorem exists_last (n : Nat) :
    ((∀ k < n, ¬ At p.turns k (new · ≠ none)) ∧ value (p.stateAt n) = value s₀) ∨
      ∃ m < n, ∃ v, At p.turns m (new · = some v) ∧ value (p.stateAt n) = some v ∧
        ∀ k, m < k → k < n → ¬ At p.turns k (new · ≠ none) := by
  induction n with
  | zero =>
    rw [h.stateAt_zero]
    exact .inl ⟨nofun, rfl⟩
  | succ n ih =>
    rw [value_succ h value new hturns n]
    cases hnew : p.turns[n]?.bind (new ·.deed) with
    | some v =>
      obtain ⟨t, ht, hv⟩ := Option.bind_eq_some_iff.1 hnew
      exact .inr ⟨n, Nat.lt_succ_self n, v, (at_iff ht).2 hv, rfl, fun k hk hk' => by omega⟩
    | none =>
      have hquiet : ¬ At p.turns n (new · ≠ none) := by
        rintro ⟨t, ht, hne⟩
        rw [ht] at hnew
        exact hne hnew
      rcases ih with ⟨hnever, hfirst⟩ | ⟨m, hm, v, hv, hvalue, hlast⟩
      · exact .inl ⟨Nat.forall_lt_succ_right.2 ⟨hnever, hquiet⟩, hfirst⟩
      · refine .inr ⟨m, Nat.lt_succ_of_lt hm, v, hv, hvalue, fun k hmk hk => ?_⟩
        rcases Nat.lt_succ_iff_lt_or_eq.1 hk with hk | rfl
        · exact hlast k hmk hk
        · exact hquiet

end

end Setting.Leads

end Flow

end DriverHub
