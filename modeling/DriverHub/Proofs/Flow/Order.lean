import DriverHub.Proofs.Flow.History

/-! The order of the turns of a session. Turns are told apart by their numbers, and so one can say
which of them came first, what came between two of them, and whether what one turn has brought about
is still so at another. -/

namespace DriverHub.Flow

variable {I : Interface} {σ W κ : Type} {Result : κ → Type}

def Turn.deed (t : Turn I σ) : σ × Act I σ := (t.state, t.act)

/-- The turn with this number is as `P` says. -/
def At (turns : List (Turn I σ)) (n : Nat) (P : σ × Act I σ → Prop) : Prop :=
  ∃ t, turns[n]? = some t ∧ P t.deed

/-- The turn with this number is one of the caller at a place, and as `P` says. -/
def Did (turns : List (Turn I σ)) (i n : Nat) (P : σ × Act I σ → Prop) : Prop :=
  ∃ t, turns[n]? = some t ∧ t.caller = i ∧ P t.deed

/-- Before the turn with this number, one turn has brought something about, and none has undone it
since. -/
def Lasts (turns : List (Turn I σ)) (on off : σ × Act I σ → Prop) (n : Nat) : Prop :=
  ∃ m < n, At turns m on ∧ ∀ k, m < k → k < n → ¬ At turns k off

section

variable {turns more : List (Turn I σ)} {t : Turn I σ} {i k m n : Nat} {P on off : σ × Act I σ → Prop}

theorem at_iff (h : turns[n]? = some t) : At turns n P ↔ P t.deed := by
  constructor
  · rintro ⟨u, hu, hP⟩
    obtain rfl := Option.some.inj (h.symm.trans hu)
    exact hP
  · exact fun hP => ⟨t, h, hP⟩

theorem At.lt (h : At turns n P) : n < turns.length := by
  obtain ⟨_, ht, -⟩ := h
  exact (List.getElem?_eq_some_iff.1 ht).1

theorem At.mono {Q : σ × Act I σ → Prop} (h : At turns n P) (hPQ : ∀ {d}, P d → Q d) : At turns n Q := by
  obtain ⟨t, ht, hP⟩ := h
  exact ⟨t, ht, hPQ hP⟩

theorem Did.at (h : Did turns i n P) : At turns n P := by
  obtain ⟨t, ht, -, hP⟩ := h
  exact ⟨t, ht, hP⟩

theorem Did.mono {Q : σ × Act I σ → Prop} (h : Did turns i n P) (hPQ : ∀ {d}, P d → Q d) :
    Did turns i n Q := by
  obtain ⟨t, ht, hi, hP⟩ := h
  exact ⟨t, ht, hi, hPQ hP⟩

theorem Did.caller_eq {j : Nat} {Q : σ × Act I σ → Prop} (hi : Did turns i n P)
    (hj : Did turns j n Q) : i = j := by
  obtain ⟨t, ht, rfl, -⟩ := hi
  obtain ⟨u, hu, rfl, -⟩ := hj
  exact congrArg Turn.caller (Option.some.inj (ht.symm.trans hu))

theorem At.did (h : At turns n P) : ∃ i, Did turns i n P := by
  obtain ⟨t, ht, hP⟩ := h
  exact ⟨t.caller, t, ht, rfl, hP⟩

theorem At.ne {Q : σ × Act I σ → Prop} (hm : At turns m P) (hn : At turns n Q)
    (h : ∀ t ∈ turns, P t.deed → ¬ Q t.deed) : m ≠ n := by
  rintro rfl
  obtain ⟨t, ht, hP⟩ := hm
  exact h t (List.mem_of_getElem? ht) hP ((at_iff ht).1 hn)

theorem not_at_after (h : ∀ k, m < k → k < turns.length → ¬ At turns k P) :
    ∀ k, m < k → ¬ At turns k P :=
  fun k hk hP => h k hk hP.lt hP

theorem at_append (h : n < turns.length) : At (turns ++ more) n P ↔ At turns n P := by
  unfold At
  rw [List.getElem?_append_left h]

theorem lasts_append (h : n ≤ turns.length) :
    Lasts (turns ++ more) on off n ↔ Lasts turns on off n := by
  refine exists_congr fun m => and_congr_right fun hm => ?_
  refine and_congr (at_append (Nat.lt_of_lt_of_le hm h)) (forall_congr' fun k => ?_)
  exact forall₂_congr fun _ hk => not_congr (at_append (Nat.lt_of_lt_of_le hk h))

/-- After one more turn, something is so if that turn has brought it about, or if it was so before and
the turn has not undone it. -/
theorem lasts_concat :
    Lasts (turns ++ [t]) on off (turns.length + 1) ↔
      on t.deed ∨ Lasts turns on off turns.length ∧ ¬ off t.deed := by
  have hlast : (turns ++ [t])[turns.length]? = some t := List.getElem?_concat_length
  constructor
  · rintro ⟨m, hm, hon, hoff⟩
    rcases Nat.lt_succ_iff_lt_or_eq.1 hm with hm | rfl
    · refine .inr ⟨⟨m, hm, (at_append hm).1 hon, fun k hmk hk hk' => ?_⟩, fun h => ?_⟩
      · exact hoff k hmk (Nat.lt_succ_of_lt hk) ((at_append hk).2 hk')
      · exact hoff _ hm (Nat.lt_succ_self _) ((at_iff hlast).2 h)
    · exact .inl ((at_iff hlast).1 hon)
  · rintro (hon | ⟨⟨m, hm, hon, hoff⟩, hlasts⟩)
    · exact ⟨_, Nat.lt_succ_self _, (at_iff hlast).2 hon, fun k hk hk' => by omega⟩
    · refine ⟨m, Nat.lt_succ_of_lt hm, (at_append hm).2 hon, fun k hmk hk => ?_⟩
      rcases Nat.lt_succ_iff_lt_or_eq.1 hk with hk | rfl
      · rw [at_append hk]
        exact hoff k hmk hk
      · rw [at_iff hlast]
        exact hlasts

namespace Lasts

/-- What is so no longer has been undone in between. -/
theorem lost (h : Lasts turns on off m) (hmn : m ≤ n) (hn : ¬ Lasts turns on off n) :
    ∃ k, m ≤ k ∧ k < n ∧ At turns k off := by
  obtain ⟨l, hl, hon, hoff⟩ := h
  by_contra hnone
  refine hn ⟨l, Nat.lt_of_lt_of_le hl hmn, hon, fun k hlk hk hundone => ?_⟩
  rcases Nat.lt_or_ge k m with hkm | hkm
  · exact hoff k hlk hkm hundone
  · exact hnone ⟨k, hkm, hk, hundone⟩

theorem lost_after (h : At turns m on) (hmn : m < n) (hn : ¬ Lasts turns on off n) :
    ∃ k, m < k ∧ k < n ∧ At turns k off := by
  have hafter : Lasts turns on off (m + 1) := ⟨m, Nat.lt_succ_self m, h, fun k hk hk' => by omega⟩
  exact hafter.lost hmn hn

/-- The first turn of those that have brought about what is still so. -/
theorem first (h : Lasts turns on off n) (hapart : ∀ t ∈ turns, on t.deed → ¬ off t.deed) :
    ∃ m < n, At turns m on ∧ (∀ k, m < k → k < n → ¬ At turns k off) ∧ ¬ Lasts turns on off m := by
  induction n using Nat.strongRecOn with
  | ind n ih =>
    obtain ⟨m, hm, hon, hoff⟩ := h
    by_cases hm' : Lasts turns on off m
    · obtain ⟨l, hl, hon', hoff', hfirst⟩ := ih m hm hm'
      refine ⟨l, Nat.lt_trans hl hm, hon', fun k hlk hk hundone => ?_, hfirst⟩
      rcases Nat.lt_trichotomy k m with hkm | rfl | hkm
      · exact hoff' k hlk hkm hundone
      · exact hon.ne hundone hapart rfl
      · exact hoff k hkm hk hundone
    · exact ⟨m, hm, hon, hoff, hm'⟩

end Lasts

/-! ### Deeds -/

theorem eq_take_append_drop (h : turns[n]? = some t) :
    turns = turns.take n ++ t :: turns.drop (n + 1) := by
  obtain ⟨hn, rfl⟩ := List.getElem?_eq_some_iff.1 h
  simp

theorem deeds_at (h : turns[n]? = some t) :
    deeds turns t.caller =
      deeds (turns.take n) t.caller ++ t.deed :: deeds (turns.drop (n + 1)) t.caller := by
  conv_lhs => rw [eq_take_append_drop h, List.append_cons, deeds_append, deeds_append,
    deeds_singleton_self]
  rw [List.append_assoc, List.singleton_append]
  rfl

theorem exists_did_before {d : σ × Act I σ} (h : d ∈ deeds (turns.take n) i) (hP : P d) :
    ∃ m < n, Did turns i m P := by
  obtain ⟨m, hm⟩ := List.mem_iff_getElem?.1 (mem_deeds.1 h)
  rw [List.getElem?_take] at hm
  split at hm
  · next hmn => exact ⟨m, hmn, _, hm, rfl, hP⟩
  · cases hm

theorem exists_did_after {d : σ × Act I σ} (h : d ∈ deeds (turns.drop (n + 1)) i) (hP : P d) :
    ∃ m, n < m ∧ Did turns i m P := by
  obtain ⟨m, hm⟩ := List.mem_iff_getElem?.1 (mem_deeds.1 h)
  rw [List.getElem?_drop] at hm
  exact ⟨n + 1 + m, by omega, _, hm, rfl, hP⟩

end

/-! ### Flags -/

namespace Setting.Leads

variable {S : Setting I σ W Result} {s₀ : σ} {w₀ : W} {p : Session I σ W Result}

/-- A flag that some turns put up and others take down is up if it was put up and not taken down
since. -/
theorem lasts (h : S.Leads s₀ w₀ p) (Flag : σ → W → Prop)
    (on off : σ × Act I σ → Prop) (hfirst : ¬ Flag s₀ w₀)
    (hturns : ∀ t ∈ p.turns, ∀ w w', t.act.Answered S.answers w w' →
      (Flag t.after w' ↔ on t.deed ∨ Flag t.state w ∧ ¬ off t.deed)) :
    Flag p.state p.surroundings ↔ Lasts p.turns on off p.turns.length := by
  induction h with
  | nothing => exact iff_of_false hfirst (by rintro ⟨m, hm, -⟩; cases hm)
  | call _ _ ih => exact ih hturns
  | @turn left call rest right s w turns act rest' s' w' _ step _ ih =>
    have hstep : s' = act.after s ∧ act.Answered S.answers w w' := by
      cases step with
      | access => exact ⟨rfl, rfl⟩
      | ask answered => exact ⟨rfl, answered⟩
    have hlast := hturns ⟨left.length, s, act⟩ (by simp) w w' hstep.2
    have hbefore : Flag s w ↔ Lasts turns on off turns.length :=
      ih fun t ht => hturns t (List.mem_append_left _ ht)
    have hafter : Flag s' w' ↔ on (s, act) ∨ Flag s w ∧ ¬ off (s, act) := hstep.1 ▸ hlast
    rw [List.length_append, List.length_singleton, lasts_concat, ← hbefore]
    exact hafter

/-- At each turn, the flag is up if it was put up and not taken down since. -/
theorem lasts_at (h : S.Leads s₀ w₀ p) (Flag : σ → W → Prop)
    (on off : σ × Act I σ → Prop) (hfirst : ¬ Flag s₀ w₀)
    (hturns : ∀ t ∈ p.turns, ∀ w w', t.act.Answered S.answers w w' →
      (Flag t.after w' ↔ on t.deed ∨ Flag t.state w ∧ ¬ off t.deed))
    {n : Nat} {t : Turn I σ} (hn : p.turns[n]? = some t) :
    ∃ w w', t.act.Answered S.answers w w' ∧ (Flag t.state w ↔ Lasts p.turns on off n) := by
  obtain ⟨p', w', hp', hbefore, hstate, hanswered⟩ := h.before_turn (eq_take_append_drop hn)
  refine ⟨_, w', hanswered, ?_⟩
  have hflag := hp'.lasts Flag on off hfirst fun t ht => hturns t (List.mem_of_mem_take (hbefore ▸ ht))
  have hlength : (p.turns.take n).length = n :=
    List.length_take_of_le (Nat.le_of_lt (List.getElem?_eq_some_iff.1 hn).1)
  rw [hstate, hbefore, hlength] at hflag
  have hlasts : Lasts (p.turns.take n ++ p.turns.drop n) on off n ↔ Lasts (p.turns.take n) on off n :=
    lasts_append (Nat.le_of_eq hlength.symm)
  rw [List.take_append_drop] at hlasts
  rw [hflag, hlasts]

end Setting.Leads

end DriverHub.Flow
