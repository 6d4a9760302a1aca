import DriverHub.Proofs.Flow.Matter

/-! The history of a session: what a call found at each of its turns, and what it did. Of a call that
has come to its end this tells all, whatever others did in between; and whatever was the case once is
the case now, unless some turn has changed it. -/

namespace DriverHub.Flow

variable {I : Interface} {σ W κ G α β : Type} {Result : κ → Type}

theorem Caller.exists_done {c : Caller I σ Result} (h : c.ended = true) :
    ∃ call x, c = ⟨call, .done x⟩ := by
  obtain ⟨call, _ | _ | _⟩ := c
  · exact ⟨call, _, rfl⟩
  all_goals cases h

/-- Whatever a flow finds and is answered, its result and its deeds are as `P` says. -/
def Does : Flow I σ α → (α → List (σ × Act I σ) → Prop) → Prop
  | .done a, P => P a []
  | .access update next, P => ∀ s, (next s).Does fun a ds => P a ((s, .accessed update) :: ds)
  | .ask q next, P => ∀ s b, (next b).Does fun a ds => P a ((s, .asked q b) :: ds)

namespace Does

variable {flow : Flow I σ α} {P P' : α → List (σ × Act I σ) → Prop}

theorem mono (h : flow.Does P) (hP : ∀ a ds, P a ds → P' a ds) : flow.Does P' := by
  induction flow generalizing P P' with
  | done a => exact hP a [] h
  | access update next ih => exact fun s => ih s (h s) fun a ds => hP a _
  | ask q next ih => exact fun s b => ih b (h s b) fun a ds => hP a _

theorem bind {k : α → Flow I σ β} {Q : β → List (σ × Act I σ) → Prop} (h : flow.Does P)
    (hk : ∀ a ds, P a ds → (k a).Does fun b more => Q b (ds ++ more)) : (flow.bind k).Does Q := by
  induction flow generalizing P Q with
  | done a => exact hk a [] h
  | access update next ih => exact fun s => ih s (h s) fun a ds => hk a _
  | ask q next ih => exact fun s b => ih b (h s b) fun a ds => hk a _

theorem bind_done {f : α → β} {Q : β → List (σ × Act I σ) → Prop}
    (h : flow.Does fun a ds => Q (f a) ds) : (flow.bind fun a => .done (f a)).Does Q := by
  refine h.bind fun a ds hQ => ?_
  rw [← List.append_nil ds] at hQ
  exact hQ

theorem step {R : Surroundings I W} {flow' : Flow I σ α} {s s' : σ} {w w' : W} {act : Act I σ}
    (h : flow.Does P) (hstep : Step R flow s w act flow' s' w') :
    flow'.Does fun a ds => P a ((s, act) :: ds) := by
  cases hstep with
  | access => exact h s
  | ask => exact h s _

theorem any (flow : Flow I σ α) : flow.Does fun _ _ => True := by
  induction flow with
  | done => trivial
  | access update next ih => exact fun s => ih s
  | ask q next ih => exact fun _ b => ih b

end Does

theorem does_exchange (f : σ → α × σ) : (exchange f : Flow I σ α).Does fun a ds =>
    ∃ s, a = (f s).1 ∧ ds = [(s, .accessed fun s => (f s).2)] :=
  fun s => ⟨s, rfl, rfl⟩

/-- What leaves something of the state alone and asks questions of a kind has only deeds that are so. -/
theorem does_forall {V : Type} {view : σ → V} {P : I.Question → Prop} {flow : Flow I σ α}
    {R : Act I σ → Prop} (hleaves : flow.Leaves view) (hasks : flow.Asks P)
    (haccess : ∀ update : σ → σ, (∀ s, view (update s) = view s) → R (.accessed update))
    (hask : ∀ q b, P q → R (.asked q b)) : flow.Does fun _ ds => ∀ d ∈ ds, R d.2 := by
  induction flow with
  | done a => nofun
  | access update next ih =>
    refine fun s => (ih s (hleaves.2 s) (hasks s)).mono fun _ ds hds => ?_
    exact List.forall_mem_cons.2 ⟨haccess update hleaves.1, hds⟩
  | ask q next ih =>
    refine fun s b => (ih b (hleaves b) (hasks.2 b)).mono fun _ ds hds => ?_
    exact List.forall_mem_cons.2 ⟨hask q b hasks.1, hds⟩

/-- Every step is as `R` says, whatever state it finds and whatever it is answered. -/
def Protocol.stepwise (R : σ → Act I σ → Prop) : Protocol I σ Unit where
  relies _ _ := True
  answers _ _ := True
  moves _ s act _ := R s act

theorem keeps_stepwise {R : σ → Act I σ → Prop} (hR : ∀ s act, R s act) (flow : Flow I σ α) :
    flow.Keeps (.stepwise R) () fun _ _ => True := by
  induction flow with
  | done => trivial
  | access update next ih => exact fun s _ => ⟨(), hR s _, ih s⟩
  | ask q next ih => exact fun s b _ _ => ⟨(), hR s _, ih b⟩

/-- What the caller at a place has done, with the states that it found. -/
def deeds (turns : List (Turn I σ)) (i : Nat) : List (σ × Act I σ) :=
  (turns.filter (·.caller = i)).map fun t => (t.state, t.act)

theorem mem_deeds {turns : List (Turn I σ)} {i : Nat} {s : σ} {act : Act I σ} :
    (s, act) ∈ deeds turns i ↔ ⟨i, s, act⟩ ∈ turns := by
  unfold deeds
  rw [List.mem_map]
  constructor
  · rintro ⟨t, ht, heq⟩
    obtain ⟨ht, hcaller⟩ := List.mem_filter.1 ht
    cases heq
    rwa [← of_decide_eq_true hcaller]
  · exact fun ht => ⟨_, List.mem_filter.2 ⟨ht, decide_eq_true rfl⟩, rfl⟩

theorem deeds_append (turns more : List (Turn I σ)) (i : Nat) :
    deeds (turns ++ more) i = deeds turns i ++ deeds more i := by
  simp [deeds]

theorem deeds_singleton_self (t : Turn I σ) : deeds [t] t.caller = [(t.state, t.act)] := by
  simp [deeds]

theorem deeds_singleton_other {t : Turn I σ} {i : Nat} (hi : t.caller ≠ i) : deeds [t] i = [] := by
  simp [deeds, hi]

/-- At each of its deeds, a caller has done what comes before it and nothing else. -/
theorem exists_turn_of_deeds {turns : List (Turn I σ)} {i : Nat} {d : σ × Act I σ}
    {left right : List (σ × Act I σ)} (h : deeds turns i = left ++ d :: right) :
    ∃ before after, turns = before ++ ⟨i, d.1, d.2⟩ :: after ∧ deeds before i = left := by
  obtain ⟨ts, us, hts, rfl, hus⟩ := List.map_eq_append_iff.1 h
  obtain ⟨t, us, rfl, rfl, -⟩ := List.map_eq_cons_iff.1 hus
  obtain ⟨before, rest, rfl, rfl, hrest⟩ := List.filter_eq_append_iff.1 hts
  obtain ⟨others, after, rfl, hothers, hcaller, -⟩ := List.filter_eq_cons_iff.1 hrest
  refine ⟨before ++ others, after, ?_, ?_⟩
  · rw [List.append_assoc, ← of_decide_eq_true hcaller]
  · unfold deeds
    rw [List.filter_append, List.filter_eq_nil_iff.2 fun u hu => hothers u hu, List.append_nil]

theorem countP_deeds (turns : List (Turn I σ)) (i : Nat) (f : Turn I σ → Bool) :
    (deeds turns i).countP (fun d => f ⟨i, d.1, d.2⟩) =
      turns.countP fun t => t.caller = i && f t := by
  unfold deeds
  rw [List.countP_map, List.countP_filter]
  refine List.countP_congr fun t _ => ?_
  by_cases hi : t.caller = i
  · subst hi
    simp
  · simp [hi]

theorem Session.found?_eq (p : Session I σ W Result) (i : Nat) :
    p.found? i = (deeds p.turns i).head?.map (·.1) := by
  unfold found? deeds
  rw [List.head?_map, List.head?_filter, Option.map_map]
  rfl

namespace Setting.Leads

variable {S : Setting I σ W Result} {s₀ : σ} {w₀ : W} {p : Session I σ W Result}

theorem deeds_of_ge (h : S.Leads s₀ w₀ p) {i : Nat} (hi : p.callers.length ≤ i) :
    deeds p.turns i = [] := by
  unfold deeds
  rw [List.map_eq_nil_iff, List.filter_eq_nil_iff]
  intro t ht
  have hlt : t.caller < i := Nat.lt_of_lt_of_le (h.caller_lt t ht) hi
  simpa using Nat.ne_of_lt hlt

/-- What is left of a call does the rest of what is told of it. -/
theorem does_rest (h : S.Leads s₀ w₀ p) {i : Nat} {c : Caller I σ Result}
    (hc : p.callers[i]? = some c) {Q : Result c.call → List (σ × Act I σ) → Prop}
    (hflow : (S.flow c.call).Does Q) : c.rest.Does fun a ds => Q a (deeds p.turns i ++ ds) := by
  induction h generalizing c with
  | nothing => cases hc
  | @call callers _ _ turns _ before _ ih =>
    rcases Nat.lt_or_ge i callers.length with hi | hi
    · rw [List.getElem?_append_left hi] at hc
      exact ih hc hflow
    · rw [List.getElem?_append_right hi, List.getElem?_singleton] at hc
      split at hc
      · cases hc
        have hnothing : deeds turns i = [] := before.deeds_of_ge hi
        rwa [hnothing]
      · cases hc
  | @turn left call rest right s w turns act rest' s' w' before step _ ih =>
    by_cases hi : left.length = i
    · subst hi
      obtain rfl : ⟨call, rest'⟩ = c := by simpa using hc
      have hrest := (ih (c := ⟨call, rest⟩) (by simp) hflow).step step
      have hlast : deeds [⟨left.length, s, act⟩] left.length = [(s, act)] :=
        deeds_singleton_self ⟨left.length, s, act⟩
      refine hrest.mono fun a ds hQ => ?_
      rwa [deeds_append, hlast, List.append_assoc]
    · rw [getElem?_other _ ⟨call, rest⟩ hi] at hc
      rw [deeds_append, deeds_singleton_other hi, List.append_nil]
      exact ih hc hflow

theorem told (h : S.Leads s₀ w₀ p) {i : Nat} {call : κ} {a : Result call}
    (hc : p.callers[i]? = some ⟨call, .done a⟩) {Q : Result call → List (σ × Act I σ) → Prop}
    (hflow : (S.flow call).Does Q) : Q a (deeds p.turns i) := by
  have hrest : Q a (deeds p.turns i ++ []) := h.does_rest hc hflow
  rwa [List.append_nil] at hrest

theorem admitted (h : S.Leads s₀ w₀ p) : ∀ c ∈ p.callers, S.admits c.call := by
  induction h with
  | nothing => nofun
  | call _ admitted ih =>
    intro c hc
    rcases List.mem_append.1 hc with hc | hc
    · exact ih c hc
    · exact List.mem_singleton.1 hc ▸ admitted
  | @turn left call rest right _ _ _ _ _ _ _ _ _ _ ih =>
    intro c hc
    rcases eq_or_mem_others hc with rfl | hc
    · exact ih ⟨call, rest⟩ (by simp)
    · exact ih c (mem_of_mem_others _ hc)

/-- What each step of a call keeps to, each of its turns does. -/
theorem each_turn (h : S.Leads s₀ w₀ p) (R : κ → σ → Act I σ → Prop)
    (hkeeps : ∀ call, (S.flow call).Keeps (.stepwise (R call)) () fun _ _ => True) :
    ∀ t ∈ p.turns, ∃ c, p.callers[t.caller]? = some c ∧ R c.call t.state t.act := by
  have hboth : (∀ c ∈ p.callers, c.rest.Keeps (.stepwise (R c.call)) () fun _ _ => True) ∧
      ∀ t ∈ p.turns, ∃ c, p.callers[t.caller]? = some c ∧ R c.call t.state t.act := by
    induction h with
    | nothing => exact ⟨nofun, nofun⟩
    | call _ _ ih =>
      refine ⟨?_, ?_⟩
      · intro c hc
        rcases List.mem_append.1 hc with hc | hc
        · exact ih.1 c hc
        · rw [List.mem_singleton.1 hc]
          exact hkeeps _
      · intro t ht
        obtain ⟨c, hc, hR⟩ := ih.2 t ht
        refine ⟨c, ?_, hR⟩
        rw [List.getElem?_append_left (List.getElem?_eq_some_iff.1 hc).1]
        exact hc
    | @turn left call rest right s w turns act rest' s' w' _ step _ ih =>
      obtain ⟨-, -, _, hR, hnext⟩ :=
        (ih.1 ⟨call, rest⟩ (by simp)).step (fun _ _ _ _ => trivial) trivial step
      refine ⟨?_, ?_⟩
      · intro c hc
        rcases eq_or_mem_others hc with rfl | hc
        · exact hnext
        · exact ih.1 c (mem_of_mem_others _ hc)
      · intro t ht
        rcases List.mem_append.1 ht with ht | ht
        · obtain ⟨c, hc, hR⟩ := ih.2 t ht
          by_cases hi : left.length = t.caller
          · obtain rfl : ⟨call, rest⟩ = c := by simpa [← hi] using hc
            exact ⟨⟨call, rest'⟩, by simp [← hi], hR⟩
          · exact ⟨c, by rwa [getElem?_other _ ⟨call, rest⟩ hi], hR⟩
        · rw [List.mem_singleton.1 ht]
          exact ⟨⟨call, rest'⟩, by simp, hR⟩
  exact hboth.2

/-- Before any turn, a session is one as well, and it may go on with this turn. -/
theorem before_turn (h : S.Leads s₀ w₀ p) {before after : List (Turn I σ)} {t : Turn I σ}
    (hturns : p.turns = before ++ t :: after) :
    ∃ p' w', S.Leads s₀ w₀ p' ∧ p'.turns = before ∧ p'.state = t.state ∧
      t.act.Answered S.answers p'.surroundings w' := by
  induction h generalizing after with
  | nothing => simp at hturns
  | call _ _ ih => exact ih hturns
  | @turn _ _ _ _ s w turns act _ _ w' hbefore hstep _ ih =>
    rcases List.eq_nil_or_concat after with rfl | ⟨after, last, rfl⟩
    · obtain ⟨rfl, hlast⟩ := List.append_inj' hturns rfl
      obtain rfl := List.head_eq_of_cons_eq hlast
      refine ⟨_, w', hbefore, rfl, rfl, ?_⟩
      cases hstep with
      | access => rfl
      | ask answered => exact answered
    · rw [List.concat_eq_append, ← List.cons_append, ← List.append_assoc] at hturns
      exact ih (List.append_inj' hturns rfl).1

/-- Up to any turn, a session is one as well. -/
theorem up_to (h : S.Leads s₀ w₀ p) (before after : List (Turn I σ))
    (hturns : p.turns = before ++ after) :
    ∃ p', S.Leads s₀ w₀ p' ∧ p'.turns = before ∧ ∀ t ∈ after.head?, p'.state = t.state := by
  cases after with
  | nil => exact ⟨p, h, by rwa [List.append_nil] at hturns, nofun⟩
  | cons t after =>
    obtain ⟨p', -, hp', hbefore, hstate, -⟩ := h.before_turn hturns
    refine ⟨p', hp', hbefore, ?_⟩
    rintro _ ⟨⟩
    exact hstate

theorem state_of_last (h : S.Leads s₀ w₀ p) {before : List (Turn I σ)} {t : Turn I σ}
    (hturns : p.turns = before ++ [t]) : p.state = t.after := by
  induction h with
  | nothing => simp at hturns
  | call _ _ ih => exact ih hturns
  | turn _ step _ _ =>
    obtain ⟨-, hlast⟩ := List.append_inj' hturns rfl
    rw [← List.head_eq_of_cons_eq hlast]
    cases step <;> rfl

/-- What no turn changes is so as soon as it was so at first or at any turn. -/
theorem since (h : S.Leads s₀ w₀ p) (Inv : σ → Prop)
    (hturns : ∀ t ∈ p.turns, Inv t.state → Inv t.after)
    (honce : Inv s₀ ∨ ∃ t ∈ p.turns, Inv t.state ∨ Inv t.after) : Inv p.state := by
  induction h with
  | nothing => simpa using honce
  | call _ _ ih => exact ih hturns honce
  | @turn left call rest right s w turns act rest' s' w' _ step _ ih =>
    have hstate : s' = act.after s := by cases step <;> rfl
    have hlast := hturns ⟨left.length, s, act⟩ (by simp)
    have hrest : (Inv s₀ ∨ ∃ t ∈ turns, Inv t.state ∨ Inv t.after) → Inv (act.after s) :=
      fun honce => hlast (ih (fun t ht => hturns t (List.mem_append_left _ ht)) honce)
    rw [show s' = _ from hstate]
    rcases honce with hfirst | ⟨t, ht, honce⟩
    · exact hrest (.inl hfirst)
    · rcases List.mem_append.1 ht with ht | ht
      · exact hrest (.inr ⟨t, ht, honce⟩)
      · rw [List.mem_singleton.1 ht] at honce
        exact honce.elim hlast id

end Setting.Leads

end DriverHub.Flow

namespace DriverHub.Attempt

variable {I : Interface} {σ ε δ α β : Type}

/-- Whatever an attempt finds and is answered, its value or error and its deeds are as `P` says. -/
def Does (attempt : Attempt I σ ε α) (P : Except ε α → List (σ × Flow.Act I σ) → Prop) : Prop :=
  attempt.run.Does P

namespace Does

variable {attempt : Attempt I σ ε α} {P P' : Except ε α → List (σ × Flow.Act I σ) → Prop}

theorem mono (h : attempt.Does P) (hP : ∀ x ds, P x ds → P' x ds) : attempt.Does P' :=
  Flow.Does.mono h hP

theorem bind {k : α → Attempt I σ ε β} {Q : Except ε β → List (σ × Flow.Act I σ) → Prop}
    (h : attempt.Does P) (hok : ∀ a ds, P (.ok a) ds → (k a).Does fun x more => Q x (ds ++ more))
    (herror : ∀ e ds, P (.error e) ds → Q (.error e) ds) : (attempt >>= k).Does Q := by
  refine Flow.Does.bind h ?_
  rintro (e | a) ds hP
  · exact (congrArg (Q _) (List.append_nil ds)).mpr (herror e ds hP)
  · exact hok a ds hP

theorem any (attempt : Attempt I σ ε α) : attempt.Does fun _ _ => True := Flow.Does.any attempt.run

theorem lift {flow : Flow I σ α} {P : α → List (σ × Flow.Act I σ) → Prop} (h : flow.Does P) :
    (Attempt.lift flow : Attempt I σ ε α).Does fun x ds => ∃ a, x = .ok a ∧ P a ds :=
  Flow.Does.bind_done (h.mono fun a _ hP => ⟨a, rfl, hP⟩)

theorem some (e : ε) (a : Option α) :
    (Attempt.some e a : Attempt I σ ε α).Does fun x _ => ∀ v, x = .ok v → a = Option.some v := by
  cases a with
  | none => nofun
  | some v =>
    rintro _ ⟨⟩
    rfl

end Does

end DriverHub.Attempt
