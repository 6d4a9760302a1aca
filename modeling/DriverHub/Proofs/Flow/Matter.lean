import DriverHub.Proofs.Flow.Session

/-! Calls that have to do with a matter, among calls that have not. The others leave the matter alone,
and those that have to do with it go one at a time; so each of them finds it at every step as it has
left it, and may be treated as if it ran alone. -/

namespace DriverHub.Flow

variable {I J : Interface} {σ τ W κ α β : Type} {Result : κ → Type} {R : Surroundings I W}

/-- A part of a state and its surroundings. -/
structure Matter (σ W : Type) where
  /-- What all flows keep, and may take for granted. -/
  sound : σ → W → Prop
  /-- Whether the matter is left alone on the way from one state to another. -/
  spares : σ → W → σ → W → Prop
  spares_refl : ∀ s w, spares s w s w
  spares_trans : ∀ {s w s₁ w₁ s₂ w₂}, spares s w s₁ w₁ → spares s₁ w₁ s₂ w₂ → spares s w s₂ w₂

namespace Matter

variable (m : Matter σ W)

/-- What others may do between two steps of a flow, which holds the matter or not. -/
def Relies (holds : Bool) (s : σ) (w : W) (s' : σ) (w' : W) : Prop :=
  m.sound s' w' ∧ (holds = true → m.spares s w s' w')

/-- What a flow that holds the matter or not may do in a step. -/
def Grants (holds : Bool) (s : σ) (w : W) (s' : σ) (w' : W) : Prop :=
  m.sound s' w' ∧ (holds = false → m.spares s w s' w')

variable {m} {holds : Bool} {s s₁ s₂ : σ} {w w₁ w₂ : W}

theorem Relies.refl (h : m.sound s w) : m.Relies holds s w s w := ⟨h, fun _ => m.spares_refl s w⟩

theorem Relies.trans (h : m.Relies holds s w s₁ w₁) (h' : m.Relies holds s₁ w₁ s₂ w₂) :
    m.Relies holds s w s₂ w₂ :=
  ⟨h'.1, fun hholds => m.spares_trans (h.2 hholds) (h'.2 hholds)⟩

theorem Relies.of_spares (h : m.sound s₁ w₁) (hspares : m.spares s w s₁ w₁) :
    m.Relies holds s w s₁ w₁ := ⟨h, fun _ => hspares⟩

theorem Grants.of_spares (h : m.sound s₁ w₁) (hspares : m.spares s w s₁ w₁) :
    m.Grants holds s w s₁ w₁ := ⟨h, fun _ => hspares⟩

end Matter

/-! ### Flows among others -/

/-- A flow that starts in `s` and `w`, while others work on the state between its steps. Each of its
steps is granted, and every end is as `Q` says. -/
def Guarded (R : Surroundings I W) (m : Matter σ W) (holds : Bool) :
    Flow I σ α → σ → W → (α → σ → W → Prop) → Prop
  | .done a, s, w, Q => Q a s w
  | .access update next, s, w, Q => m.Grants holds s w (update s) w ∧
    ∀ s' w', m.Relies holds (update s) w s' w' → (next s).Guarded R m holds s' w' Q
  | .ask q next, s, w, Q => ∀ b v, R w q b v → m.Grants holds s w s v ∧
    ∀ s' w', m.Relies holds s v s' w' → (next b).Guarded R m holds s' w' Q

variable {m : Matter σ W} {holds : Bool} {s s' : σ} {w w' : W}

theorem Guarded.mono {flow : Flow I σ α} {P Q : α → σ → W → Prop} (h : flow.Guarded R m holds s w P)
    (hPQ : ∀ a s w, P a s w → Q a s w) : flow.Guarded R m holds s w Q := by
  induction flow generalizing s w with
  | done a => exact hPQ a s w h
  | access update next ih => exact ⟨h.1, fun s' w' hrelies => ih s (h.2 s' w' hrelies)⟩
  | ask q next ih =>
    intro b v hb
    obtain ⟨hgrants, hnext⟩ := h b v hb
    exact ⟨hgrants, fun s' w' hrelies => ih b (hnext s' w' hrelies)⟩

theorem Guarded.bind {flow : Flow I σ α} {k : α → Flow I σ β} {P : α → σ → W → Prop}
    {Q : β → σ → W → Prop} (h : flow.Guarded R m holds s w P)
    (hk : ∀ a s w, P a s w → (k a).Guarded R m holds s w Q) :
    (flow >>= k).Guarded R m holds s w Q := by
  induction flow generalizing s w with
  | done a => exact hk a s w h
  | access update next ih => exact ⟨h.1, fun s' w' hrelies => ih s (h.2 s' w' hrelies)⟩
  | ask q next ih =>
    intro b v hb
    obtain ⟨hgrants, hnext⟩ := h b v hb
    exact ⟨hgrants, fun s' w' hrelies => ih b (hnext s' w' hrelies)⟩

theorem Guarded.step {flow flow' : Flow I σ α} {act : Act I σ} {Q : α → σ → W → Prop}
    (h : flow.Guarded R m holds s w Q) (hstep : Step R flow s w act flow' s' w') :
    m.Grants holds s w s' w' ∧
      ∀ s₁ w₁, m.Relies holds s' w' s₁ w₁ → flow'.Guarded R m holds s₁ w₁ Q := by
  cases hstep with
  | access => exact h
  | ask answered => exact h _ _ answered

/-- A flow that leaves the matter alone, whoever holds it. What it ends with is as `P` says. -/
def Harmless (R : Surroundings I W) (m : Matter σ W) (flow : Flow I σ α) (P : α → Prop) : Prop :=
  ∀ holds s w, m.sound s w →
    flow.Guarded R m holds s w fun a s' w' => m.Relies holds s w s' w' ∧ P a

namespace Harmless

variable {flow : Flow I σ α} {P : α → Prop}

theorem done {a : α} (h : P a) : (Flow.done a : Flow I σ α).Harmless R m P :=
  fun _ _ _ hsound => ⟨.refl hsound, h⟩

theorem access {update : σ → σ} {next : σ → Flow I σ α}
    (hupdate : ∀ s w, m.sound s w → m.sound (update s) w ∧ m.spares s w (update s) w)
    (hnext : ∀ s w, m.sound s w → (next s).Harmless R m P) :
    (Flow.access update next).Harmless R m P := by
  intro holds s w hsound
  obtain ⟨hafter, hspares⟩ := hupdate s w hsound
  refine ⟨.of_spares hafter hspares, fun s₁ w₁ hrelies => ?_⟩
  refine (hnext s w hsound holds s₁ w₁ hrelies.1).mono ?_
  rintro a s₂ w₂ ⟨hrelies', ha⟩
  exact ⟨((Matter.Relies.of_spares hafter hspares).trans hrelies).trans hrelies', ha⟩

theorem ask {q : I.Question} {next : I.Answer q → Flow I σ α}
    (hanswer : ∀ s w b v, m.sound s w → R w q b v →
      m.sound s v ∧ m.spares s w s v ∧ (next b).Harmless R m P) :
    (Flow.ask q next).Harmless R m P := by
  intro holds s w hsound b v hb
  obtain ⟨hafter, hspares, hnext⟩ := hanswer s w b v hsound hb
  refine ⟨.of_spares hafter hspares, fun s₁ w₁ hrelies => ?_⟩
  refine (hnext holds s₁ w₁ hrelies.1).mono ?_
  rintro a s₂ w₂ ⟨hrelies', ha⟩
  exact ⟨((Matter.Relies.of_spares hafter hspares).trans hrelies).trans hrelies', ha⟩

theorem mono {Q : α → Prop} (h : flow.Harmless R m P) (hPQ : ∀ a, P a → Q a) : flow.Harmless R m Q :=
  fun holds s w hsound => (h holds s w hsound).mono fun _ _ _ ⟨hrelies, ha⟩ => ⟨hrelies, hPQ _ ha⟩

theorem bind {k : α → Flow I σ β} {Q : β → Prop} (h : flow.Harmless R m P)
    (hk : ∀ a, P a → (k a).Harmless R m Q) : (flow >>= k).Harmless R m Q := by
  intro holds s w hsound
  refine (h holds s w hsound).bind ?_
  rintro a s₁ w₁ ⟨hrelies, ha⟩
  refine (hk a ha holds s₁ w₁ hrelies.1).mono ?_
  rintro b s₂ w₂ ⟨hrelies', hb⟩
  exact ⟨hrelies.trans hrelies', hb⟩

end Harmless

/-- A flow that goes on after another is a part of a larger flow after the other is. -/
theorem embed_bind {get : τ → σ} {set : σ → τ → τ} {answer : (q : I.Question) → Flow J τ (I.Answer q)}
    (flow : Flow I σ α) (k : α → Flow I σ β) :
    (flow >>= k).embed get set answer =
      flow.embed get set answer >>= fun a => (k a).embed get set answer := by
  induction flow with
  | done a => rfl
  | access update next ih => exact congrArg (Flow.access _) (funext fun t => ih (get t))
  | ask q next ih =>
    have hnext : (fun b => ((next b).bind k).embed get set answer) =
        fun b => (next b).embed get set answer >>= fun a => (k a).embed get set answer :=
      funext ih
    change (answer q).bind (fun b => ((next b).bind k).embed get set answer) = _
    rw [hnext]
    exact (bind_bind _ _ _).symm

theorem Guarded.attempt_bind {ε : Type} {get : τ → σ} {set : σ → τ → τ}
    {answer : (q : I.Question) → Flow J τ (I.Answer q)} {R : Surroundings J W} {m : Matter τ W}
    {s : τ} {attempt : Attempt I σ ε α} {k : α → Attempt I σ ε β} {P : Except ε α → τ → W → Prop}
    {Q : Except ε β → τ → W → Prop}
    (h : (attempt.run.embed get set answer).Guarded R m holds s w P)
    (hok : ∀ a s w, P (.ok a) s w → ((k a).run.embed get set answer).Guarded R m holds s w Q)
    (herror : ∀ e s w, P (.error e) s w → Q (.error e) s w) :
    ((attempt >>= k).run.embed get set answer).Guarded R m holds s w Q := by
  refine (congrArg (Guarded R m holds · s w Q) (embed_bind attempt.run _)).mpr (h.bind ?_)
  rintro (e | a) s w hP
  · exact herror e s w hP
  · exact hok a s w hP

/-! ### One at a time -/

section

variable (engages : κ → σ → Bool)

/-- The state that a caller found at its first turn. -/
def Session.found? (p : Session I σ W Result) (i : Nat) : Option σ :=
  (p.turns.find? (·.caller = i)).map (·.state)

/-- Whether a caller has begun, and has to do with the matter. -/
def Session.engaged (p : Session I σ W Result) (i : Nat) : Bool :=
  match p.callers[i]?, p.found? i with
  | some c, some s => engages c.call s
  | _, _ => false

/-- After a turn of a caller that has to do with the matter, all others who have to do with it have
ended. -/
def OneAtATime (p : Session I σ W Result) (t : Turn I σ) : Prop :=
  Session.engaged engages { p with turns := p.turns ++ [t] } t.caller = true →
    ∀ i < p.callers.length, i ≠ t.caller → p.engaged engages i = true →
      (p.callers[i]?).all (·.ended) = true

instance (p : Session I σ W Result) (t : Turn I σ) : Decidable (OneAtATime engages p t) :=
  inferInstanceAs (Decidable (_ → _))

/-- What holds of a session in which calls have to do with the matter one at a time. -/
structure Orderly (S : Setting I σ W Result) (m : Matter σ W) (rest : σ → W → Prop)
    (p : Session I σ W Result) : Prop where
  sound : m.sound p.state p.surroundings
  known : ∀ t ∈ p.turns, t.caller < p.callers.length
  fresh : ∀ i c, p.callers[i]? = some c → p.found? i = none →
    S.admits c.call ∧ c.rest = S.flow c.call
  /-- Whatever others do now, what is left of a call goes well. -/
  begun : ∀ i c, p.callers[i]? = some c → p.found? i ≠ none → c.ended = false →
    ∀ s w, m.Relies (p.engaged engages i) p.state p.surroundings s w →
      c.rest.Guarded S.answers m (p.engaged engages i) s w
        fun _ s w => p.engaged engages i = true → rest s w
  quiet : (∀ i c, p.callers[i]? = some c → p.engaged engages i = true → c.ended = true) →
    rest p.state p.surroundings

end

theorem Step.moving {call : κ} {flow flow' : Flow I σ (Result call)} {act : Act I σ}
    (h : Step R flow s w act flow' s' w') : (⟨call, flow⟩ : Caller I σ Result).ended = false := by
  cases h <;> rfl

namespace Session

variable {engages : κ → σ → Bool} {p p' : Session I σ W Result} {t : Turn I σ} {i : Nat} {call : κ}
  {flow flow' : Flow I σ (Result call)}

theorem not_engaged_of_not_found (h : p.found? i = none) : p.engaged engages i = false := by
  unfold engaged
  rw [h]
  cases p.callers[i]? <;> rfl

/-- From one session to another, a caller has taken its turn, and the others are as they were. -/
structure Turned (p p' : Session I σ W Result) (t : Turn I σ) (flow flow' : Flow I σ (Result call)) :
    Prop where
  turns : p'.turns = p.turns ++ [t]
  before : p.callers[t.caller]? = some ⟨call, flow⟩
  after : p'.callers[t.caller]? = some ⟨call, flow'⟩
  others : ∀ {i}, t.caller ≠ i → p'.callers[i]? = p.callers[i]?

theorem turned (left right : List (Caller I σ Result)) (s s' : σ) (w w' : W) (turns : List (Turn I σ))
    (act : Act I σ) :
    Turned ⟨left ++ ⟨call, flow⟩ :: right, s, w, turns⟩
      ⟨left ++ ⟨call, flow'⟩ :: right, s', w', turns ++ [⟨left.length, s, act⟩]⟩
      ⟨left.length, s, act⟩ flow flow' :=
  ⟨rfl, by simp, by simp, getElem?_other _ _⟩

namespace Turned

theorem found? (h : p.Turned p' t flow flow') (i : Nat) :
    p'.found? i = (p.found? i).or (if t.caller = i then some t.state else none) := by
  unfold Session.found?
  rw [h.turns, List.find?_append, Option.map_or, List.find?_singleton]
  by_cases hi : t.caller = i <;> simp [hi]

theorem found?_self (h : p.Turned p' t flow flow') :
    p'.found? t.caller = some ((p.found? t.caller).getD t.state) := by
  rw [h.found?, if_pos rfl]
  cases p.found? t.caller <;> rfl

theorem found?_of_ne (h : p.Turned p' t flow flow') (hi : t.caller ≠ i) :
    p'.found? i = p.found? i := by
  rw [h.found?, if_neg hi, Option.or_none]

theorem engaged_self (h : p.Turned p' t flow flow') :
    p'.engaged engages t.caller = engages call ((p.found? t.caller).getD t.state) := by
  unfold engaged
  rw [h.after, h.found?_self]

theorem engaged_of_found (h : p.Turned p' t flow flow') {s : σ} (hs : p.found? t.caller = some s) :
    p'.engaged engages t.caller = p.engaged engages t.caller := by
  rw [h.engaged_self, hs]
  unfold engaged
  rw [h.before, hs]
  rfl

theorem engaged_of_ne (h : p.Turned p' t flow flow') (hi : t.caller ≠ i) :
    p'.engaged engages i = p.engaged engages i := by
  unfold engaged
  rw [h.others hi, h.found?_of_ne hi]

theorem alone (h : p.Turned p' t flow flow') (hpermitted : OneAtATime engages p t)
    (hholds : p'.engaged engages t.caller = true) (hi : t.caller ≠ i) {c : Caller I σ Result}
    (hc : p.callers[i]? = some c) (hengaged : p.engaged engages i = true) : c.ended = true := by
  have hsame : p.Turned { p with turns := p.turns ++ [t] } t flow flow :=
    ⟨rfl, h.before, h.before, fun _ => rfl⟩
  have hi' : i < p.callers.length := (List.getElem?_eq_some_iff.1 hc).1
  have hended := hpermitted (hsame.engaged_self.trans (h.engaged_self.symm.trans hholds)) i hi'
    (Ne.symm hi) hengaged
  rwa [hc] at hended

end Turned

end Session

namespace Orderly

variable {engages : κ → σ → Bool} {S : Setting I σ W Result} {rest : σ → W → Prop}
  {callers : List (Caller I σ Result)} {turns : List (Turn I σ)} {p p' : Session I σ W Result}
  {t : Turn I σ} {call : κ} {flow flow' : Flow I σ (Result call)}

theorem add_call (h : Orderly engages S m rest ⟨callers, s, w, turns⟩) (admitted : S.admits call) :
    Orderly engages S m rest ⟨callers ++ [⟨call, S.flow call⟩], s, w, turns⟩ := by
  have hnew : Session.found? (⟨callers ++ [⟨call, S.flow call⟩], s, w, turns⟩ : Session I σ W Result)
      callers.length = none := by
    unfold Session.found?
    rw [List.find?_eq_none.2 fun t ht => ?_, Option.map_none]
    have hknown : t.caller < callers.length := h.known t ht
    simpa using Nat.ne_of_lt hknown
  have hold : ∀ {i : Nat} {c : Caller I σ Result}, (callers ++ [⟨call, S.flow call⟩])[i]? = some c →
      (i = callers.length ∧ c = ⟨call, S.flow call⟩) ∨ callers[i]? = some c := by
    intro i c hc
    rcases Nat.lt_trichotomy i callers.length with hi | rfl | hi
    · rw [List.getElem?_append_left hi] at hc
      exact .inr hc
    · rw [List.getElem?_concat_length] at hc
      exact .inl ⟨rfl, (Option.some.inj hc).symm⟩
    · rw [List.getElem?_eq_none (by rwa [List.length_append])] at hc
      cases hc
  have hengaged : ∀ {i : Nat} {c : Caller I σ Result}, callers[i]? = some c →
      Session.engaged engages ⟨callers ++ [⟨call, S.flow call⟩], s, w, turns⟩ i =
        Session.engaged engages ⟨callers, s, w, turns⟩ i := by
    intro i c hc
    have hi : i < callers.length := (List.getElem?_eq_some_iff.1 hc).1
    unfold Session.engaged
    rw [List.getElem?_append_left hi]
    rfl
  refine ⟨h.sound, ?_, ?_, ?_, ?_⟩
  · intro t ht
    rw [List.length_append]
    exact Nat.lt_add_right _ (h.known t ht)
  · intro i c hc hfound
    rcases hold hc with ⟨rfl, rfl⟩ | hc
    · exact ⟨admitted, rfl⟩
    · exact h.fresh i c hc hfound
  · intro i c hc hfound
    rcases hold hc with ⟨rfl, rfl⟩ | hc
    · exact absurd hnew hfound
    · rw [hengaged hc]
      exact h.begun i c hc hfound
  · intro hended
    refine h.quiet fun i c hc hi => ?_
    have hi' : i < callers.length := (List.getElem?_eq_some_iff.1 hc).1
    refine hended i c ?_ ((hengaged hc).trans hi)
    rwa [List.getElem?_append_left hi']

/-- What is left of the call of the caller whose turn it is goes well, whether it has begun or not. -/
theorem guarded (h : Orderly engages S m rest p) (hturned : p.Turned p' t flow flow')
    (hstate : t.state = p.state) (hmoving : (⟨call, flow⟩ : Caller I σ Result).ended = false)
    (hpermitted : OneAtATime engages p t)
    (hcall : S.admits call → (engages call p.state = true → rest p.state p.surroundings) →
      (S.flow call).Guarded S.answers m (engages call p.state) p.state p.surroundings
        fun _ s' w' => engages call p.state = true → rest s' w') :
    flow.Guarded S.answers m (p'.engaged engages t.caller) p.state p.surroundings
      fun _ s w => p'.engaged engages t.caller = true → rest s w := by
  cases hfirst : p.found? t.caller with
  | none =>
    obtain ⟨hadmits, hflow⟩ := h.fresh _ _ hturned.before hfirst
    have hengaged : p'.engaged engages t.caller = engages call p.state := by
      rw [hturned.engaged_self, hfirst, Option.getD_none, hstate]
    rw [hengaged, show flow = S.flow call from hflow]
    refine hcall hadmits fun hholds => h.quiet fun i c hc hi => ?_
    by_cases hself : t.caller = i
    · rw [Session.not_engaged_of_not_found (hself ▸ hfirst)] at hi
      cases hi
    · exact hturned.alone hpermitted (hengaged.trans hholds) hself hc hi
  | some first =>
    rw [hturned.engaged_of_found hfirst]
    exact h.begun _ _ hturned.before (by rw [hfirst]; nofun) hmoving _ _ (.refl h.sound)

theorem add_turn {act : Act I σ} (h : Orderly engages S m rest p) (hturned : p.Turned p' t flow flow')
    (hstate : t.state = p.state)
    (hrest : ∀ s w s' w', m.sound s w → m.spares s w s' w' → rest s w → rest s' w')
    (hcall : S.admits call → (engages call p.state = true → rest p.state p.surroundings) →
      (S.flow call).Guarded S.answers m (engages call p.state) p.state p.surroundings
        fun _ s' w' => engages call p.state = true → rest s' w')
    (hstep : Step S.answers flow p.state p.surroundings act flow' p'.state p'.surroundings)
    (hpermitted : OneAtATime engages p t) : Orderly engages S m rest p' := by
  have hmoving : (⟨call, flow⟩ : Caller I σ Result).ended = false := hstep.moving
  obtain ⟨hgrants, hnext⟩ := (h.guarded hturned hstate hmoving hpermitted hcall).step hstep
  refine ⟨hgrants.1, ?_, ?_, ?_, ?_⟩
  · intro t' ht
    rw [hturned.turns] at ht
    rcases List.mem_append.1 ht with ht | ht
    · by_cases hself : t.caller = t'.caller
      · exact hself ▸ (List.getElem?_eq_some_iff.1 hturned.after).1
      · have hc := List.getElem?_eq_getElem (h.known t' ht)
        rw [← hturned.others hself] at hc
        exact (List.getElem?_eq_some_iff.1 hc).1
    · rw [List.mem_singleton.1 ht]
      exact (List.getElem?_eq_some_iff.1 hturned.after).1
  · intro i c hc hnone
    by_cases hself : t.caller = i
    · subst hself
      rw [hturned.found?_self] at hnone
      cases hnone
    · exact h.fresh i c ((hturned.others hself).symm.trans hc)
        ((hturned.found?_of_ne hself).symm.trans hnone)
  · intro i c hc hsome hended s₁ w₁ hrelies
    by_cases hself : t.caller = i
    · subst hself
      cases hturned.after.symm.trans hc
      exact hnext s₁ w₁ hrelies
    · have hc' : p.callers[i]? = some c := (hturned.others hself).symm.trans hc
      rw [hturned.found?_of_ne hself] at hsome
      rw [hturned.engaged_of_ne hself] at hrelies ⊢
      refine h.begun i c hc' hsome hended s₁ w₁ ⟨hrelies.1, fun hholds => ?_⟩
      refine m.spares_trans (hgrants.2 ?_) (hrelies.2 hholds)
      by_contra hengaged
      have hother := hturned.alone hpermitted (by simpa using hengaged) hself hc' hholds
      rw [hother] at hended
      cases hended
  · intro hended
    cases hholds : p'.engaged engages t.caller with
    | true =>
      have hdone := hended _ _ hturned.after hholds
      cases flow' with
      | done a => exact hnext _ _ (.refl hgrants.1) hholds
      | access | ask => cases hdone
    | false =>
      refine hrest _ _ _ _ h.sound (hgrants.2 hholds) (h.quiet fun i c hc hi => ?_)
      by_cases hself : t.caller = i
      · subst hself
        cases hfirst : p.found? t.caller with
        | none =>
          rw [Session.not_engaged_of_not_found hfirst] at hi
          cases hi
        | some first =>
          rw [hturned.engaged_of_found hfirst, hi] at hholds
          cases hholds
      · exact hended i c ((hturned.others hself).trans hc) ((hturned.engaged_of_ne hself).trans hi)

end Orderly

/-- Where calls that have to do with a matter go one at a time, what each of them keeps among others
holds whenever all have ended. -/
theorem Setting.Leads.at_rest {engages : κ → σ → Bool} {S : Setting I σ W Result}
    {rest : σ → W → Prop} {s₀ : σ} {w₀ : W} {p : Session I σ W Result} (h : S.Leads s₀ w₀ p)
    (hpermits : ∀ p t, S.permits p t → OneAtATime engages p t)
    (hrest : ∀ s w s' w', m.sound s w → m.spares s w s' w' → rest s w → rest s' w')
    (hcalls : ∀ call s w, S.admits call → m.sound s w → (engages call s = true → rest s w) →
      (S.flow call).Guarded S.answers m (engages call s) s w
        fun _ s' w' => engages call s = true → rest s' w')
    (hsound : m.sound s₀ w₀) (hfirst : rest s₀ w₀) : p.AtRest → rest p.state p.surroundings := by
  have horderly : Orderly engages S m rest p := by
    induction h with
    | nothing => exact ⟨hsound, by simp, by simp, by simp, fun _ => hfirst⟩
    | call _ admitted ih => exact ih.add_call admitted
    | turn _ hstep hpermitted ih =>
      exact ih.add_turn (Session.turned ..) rfl hrest (fun hadmits => hcalls _ _ _ hadmits ih.sound)
        hstep (hpermits _ _ hpermitted)
  intro hended
  exact horderly.quiet fun i c hc _ => hended c (List.mem_of_getElem? hc)

end DriverHub.Flow
