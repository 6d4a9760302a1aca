import DriverHub.Flow
import Mathlib.Tactic.Common

/-! How flows end. The surroundings of a flow are a relation: in which ways a question may be
answered in a state of theirs, and the state that is left. A flow that runs alone ends as `Ends`
says, and `Ensures` says what all its ends have in common, one equation for each way to build a
flow. -/

namespace DriverHub

/-- The answers that a question may get in a state `w`, each with the state that follows. -/
abbrev Surroundings (I : Interface) (W : Type) := W → (q : I.Question) → I.Answer q → W → Prop

namespace Flow

variable {I : Interface} {σ τ W α β : Type} {R : Surroundings I W}

/-- One end of a flow that starts in `s` and `w`, if nothing else works on its state. -/
inductive Ends (R : Surroundings I W) : Flow I σ α → σ → W → α → σ → W → Prop
  | done {a s w} : Ends R (.done a) s w a s w
  | access {update next s w a s' w'} (rest : Ends R (next s) (update s) w a s' w') :
    Ends R (.access update next) s w a s' w'
  | ask {q next s w b v a s' w'} (answered : R w q b v) (rest : Ends R (next b) s v a s' w') :
    Ends R (.ask q next) s w a s' w'

/-- Every end is as `Q` says. -/
def Ensures (R : Surroundings I W) : Flow I σ α → σ → W → (α → σ → W → Prop) → Prop
  | .done a, s, w, Q => Q a s w
  | .access update next, s, w, Q => (next s).Ensures R (update s) w Q
  | .ask q next, s, w, Q => ∀ b v, R w q b v → (next b).Ensures R s v Q

theorem ensures_iff (flow : Flow I σ α) (s : σ) (w : W) (Q : α → σ → W → Prop) :
    flow.Ensures R s w Q ↔ ∀ a s' w', Ends R flow s w a s' w' → Q a s' w' := by
  constructor
  · intro h a s' w' he
    induction he with
    | done => exact h
    | access _ ih => exact ih h
    | ask answered _ ih => exact ih (h _ _ answered)
  · intro h
    induction flow generalizing s w with
    | done a => exact h a s w .done
    | access update next ih => exact ih s (update s) w fun a s' w' he => h a s' w' (.access he)
    | ask q next ih =>
      intro b v hb
      exact ih b s v fun a s' w' he => h a s' w' (.ask hb he)

/-- How a flow goes if `answer` answers its questions. -/
def play (answer : W → (q : I.Question) → I.Answer q × W) : Flow I σ α → σ → W → α × σ × W
  | .done a, s, w => (a, s, w)
  | .access update next, s, w => (next s).play answer (update s) w
  | .ask q next, s, w => (next (answer w q).1).play answer s (answer w q).2

theorem ends_play {answer : W → (q : I.Question) → I.Answer q × W}
    (h : ∀ w q, R w q (answer w q).1 (answer w q).2) (flow : Flow I σ α) (s : σ) (w : W) :
    Ends R flow s w (flow.play answer s w).1 (flow.play answer s w).2.1
      (flow.play answer s w).2.2 := by
  induction flow generalizing s w with
  | done a => exact .done
  | access update next ih => exact .access (ih s (update s) w)
  | ask q next ih => exact .ask (h w q) (ih _ s _)

theorem exists_ends (total : ∀ w q, ∃ b v, R w q b v) (flow : Flow I σ α) (s : σ) (w : W) :
    ∃ a s' w', Ends R flow s w a s' w' := by
  choose b v h using total
  let answer (w : W) (q : I.Question) : I.Answer q × W := (b w q, v w q)
  have hanswer : ∀ w q, R w q (answer w q).1 (answer w q).2 := h
  exact ⟨_, _, _, ends_play hanswer flow s w⟩

theorem Ensures.ends {flow : Flow I σ α} {s s' : σ} {w w' : W} {a : α} {Q : α → σ → W → Prop}
    (h : flow.Ensures R s w Q) (hends : Ends R flow s w a s' w') : Q a s' w' :=
  (ensures_iff flow s w Q).1 h a s' w' hends

theorem Ensures.mono {flow : Flow I σ α} {s : σ} {w : W} {P Q : α → σ → W → Prop}
    (h : flow.Ensures R s w P) (hPQ : ∀ a s' w', P a s' w' → Q a s' w') : flow.Ensures R s w Q := by
  rw [ensures_iff] at h ⊢
  intro a s' w' he
  exact hPQ a s' w' (h a s' w' he)

theorem ensures_bind (flow : Flow I σ α) (k : α → Flow I σ β) (s : σ) (w : W)
    (Q : β → σ → W → Prop) :
    (flow.bind k).Ensures R s w Q ↔ flow.Ensures R s w fun a s w => (k a).Ensures R s w Q := by
  induction flow generalizing s w with
  | done a => rfl
  | access update next ih => exact ih s (update s) w
  | ask q next ih =>
    constructor
    · intro h b v hb
      exact (ih b s v).1 (h b v hb)
    · intro h b v hb
      exact (ih b s v).2 (h b v hb)

theorem Ensures.bind {flow : Flow I σ α} {k : α → Flow I σ β} {s : σ} {w : W} {P : α → σ → W → Prop}
    {Q : β → σ → W → Prop} (h : flow.Ensures R s w P)
    (hk : ∀ a s' w', P a s' w' → (k a).Ensures R s' w' Q) : (flow >>= k).Ensures R s w Q :=
  (ensures_bind flow k s w Q).2 (h.mono hk)

/-- A flow that works on a part of a larger state ensures what it ensures of that part, where its
questions are answered there as its own surroundings answer them. -/
theorem ensures_embed_of {J : Interface} {S : Surroundings J W} (get : τ → σ) (set : σ → τ → τ)
    (get_set : ∀ s t, get (set s t) = s) (set_set : ∀ s s' t, set s (set s' t) = set s t)
    (set_get : ∀ t, set (get t) t = t) {answer : (q : I.Question) → Flow J τ (I.Answer q)}
    (hanswer : ∀ q t w (Q : I.Answer q → τ → W → Prop),
      (answer q).Ensures S t w Q ↔ ∀ b v, R w q b v → Q b t v)
    (flow : Flow I σ α) (t : τ) (w : W) (Q : α → τ → W → Prop) :
    (flow.embed get set answer).Ensures S t w Q ↔
      flow.Ensures R (get t) w fun a s w => Q a (set s t) w := by
  induction flow generalizing t w with
  | done a => simp only [embed, Ensures, set_get]
  | access update next ih =>
    simp only [embed, Ensures]
    rw [ih]
    simp only [get_set, set_set]
  | ask q next ih =>
    refine (ensures_bind _ _ _ _ _).trans ((hanswer q t w _).trans ?_)
    constructor
    · intro h b v hb
      exact (ih b t v).1 (h b v hb)
    · intro h b v hb
      exact (ih b t v).2 (h b v hb)

/-- A flow that works on a part of a larger state and hands its questions on ensures what it ensures
of that part. -/
theorem ensures_embed (get : τ → σ) (set : σ → τ → τ) (get_set : ∀ s t, get (set s t) = s)
    (set_set : ∀ s s' t, set s (set s' t) = set s t) (set_get : ∀ t, set (get t) t = t)
    (flow : Flow I σ α) (t : τ) (w : W) (Q : α → τ → W → Prop) :
    (flow.embed get set fun q => .ask q .done).Ensures R t w Q ↔
      flow.Ensures R (get t) w fun a s w => Q a (set s t) w :=
  ensures_embed_of get set get_set set_set set_get (fun _ _ _ _ => Iff.rfl) flow t w Q

/-- An end of a flow that goes on after another is an end of both, one after the other. -/
theorem Ends.of_bind {flow : Flow I σ α} {k : α → Flow I σ β} {s s' : σ} {w w' : W} {b : β}
    (h : Ends R (flow.bind k) s w b s' w') :
    ∃ a s₁ w₁, Ends R flow s w a s₁ w₁ ∧ Ends R (k a) s₁ w₁ b s' w' := by
  induction flow generalizing s w with
  | done a => exact ⟨a, s, w, .done, h⟩
  | access update next ih =>
    cases h with
    | access rest =>
      obtain ⟨a, s₁, w₁, hfirst, hrest⟩ := ih s rest
      exact ⟨a, s₁, w₁, .access hfirst, hrest⟩
  | ask q next ih =>
    cases h with
    | ask answered rest =>
      obtain ⟨a, s₁, w₁, hfirst, hrest⟩ := ih _ rest
      exact ⟨a, s₁, w₁, .ask answered hfirst, hrest⟩

theorem Ends.map {V : Type} {S : Surroundings I V} {f : W → V} {flow : Flow I σ α} {s s' : σ}
    {w w' : W} {a : α} (h : Ends R flow s w a s' w')
    (hf : ∀ w q b v, R w q b v → S (f w) q b (f v)) : Ends S flow s (f w) a s' (f w') := by
  induction h with
  | done => exact .done
  | access _ ih => exact .access ih
  | ask answered _ ih => exact .ask (hf _ _ _ _ answered) ih

/-- What a flow ensures of its result and of the state where anything may be answered and nothing of it
is kept, it ensures everywhere. -/
theorem Ensures.anywhere {flow : Flow I σ α} {s : σ} {w : W} {Q : α → σ → Prop}
    (h : flow.Ensures (fun (_ : Unit) _ _ _ => True) s () fun a s' _ => Q a s') :
    flow.Ensures R s w fun a s' _ => Q a s' := by
  rw [ensures_iff]
  intro a s' w' hends
  exact h.ends (hends.map (f := fun _ => ()) fun _ _ _ _ _ => trivial)

/-- A flow that never changes what `f` shows of the state. -/
def Leaves {κ : Type} (f : σ → κ) : Flow I σ α → Prop
  | .done _ => True
  | .access update next => (∀ s, f (update s) = f s) ∧ ∀ s, (next s).Leaves f
  | .ask _ next => ∀ b, (next b).Leaves f

section

variable {κ κ' : Type} {f : σ → κ} {g : τ → κ'}

theorem Leaves.bind {flow : Flow I σ α} {k : α → Flow I σ β} (h : flow.Leaves f)
    (hk : ∀ a, (k a).Leaves f) : (flow >>= k).Leaves f := by
  induction flow with
  | done a => exact hk a
  | access update next ih => exact ⟨h.1, fun s => ih s (h.2 s)⟩
  | ask q next ih => exact fun b => ih b (h b)

theorem Leaves.embed {J : Interface} (flow : Flow I σ α) {get : τ → σ} {set : σ → τ → τ}
    {answer : (q : I.Question) → Flow J τ (I.Answer q)} (hset : ∀ s t, g (set s t) = g t)
    (hanswer : ∀ q, (answer q).Leaves g) : (flow.embed get set answer).Leaves g := by
  induction flow with
  | done => trivial
  | access update next ih => exact ⟨fun t => hset _ t, fun t => ih (get t)⟩
  | ask q next ih => exact Leaves.bind (hanswer q) fun b => ih b

theorem Leaves.embed_of {J : Interface} {flow : Flow I σ α} (h : flow.Leaves f) {get : τ → σ}
    {set : σ → τ → τ} {answer : (q : I.Question) → Flow J τ (I.Answer q)}
    (hset : ∀ s t, f s = f (get t) → g (set s t) = g t) (hanswer : ∀ q, (answer q).Leaves g) :
    (flow.embed get set answer).Leaves g := by
  induction flow with
  | done => trivial
  | access update next ih => exact ⟨fun t => hset _ t (h.1 _), fun t => ih (get t) (h.2 _)⟩
  | ask q next ih => exact Leaves.bind (hanswer q) fun b => ih b (h b)

theorem Leaves.ends {flow : Flow I σ α} {s s' : σ} {w w' : W} {a : α} (h : flow.Leaves f)
    (hends : Ends R flow s w a s' w') : f s' = f s := by
  induction hends with
  | done => rfl
  | access _ ih => exact (ih (h.2 _)).trans (h.1 _)
  | ask _ _ ih => exact ih (h _)

end

end Flow

namespace Attempt

variable {I : Interface} {σ W ε δ α β : Type} {R : Surroundings I W}

/-- Every end is as `Q` says, be it a value or an error. -/
def Ensures (R : Surroundings I W) (attempt : Attempt I σ ε α) (s : σ) (w : W)
    (Q : Except ε α → σ → W → Prop) : Prop :=
  attempt.run.Ensures R s w Q

variable {s : σ} {w : W}

theorem Ensures.mono {attempt : Attempt I σ ε α} {P Q : Except ε α → σ → W → Prop}
    (h : attempt.Ensures R s w P) (hPQ : ∀ x s' w', P x s' w' → Q x s' w') :
    attempt.Ensures R s w Q :=
  Flow.Ensures.mono h hPQ

@[simp] theorem ensures_pure (a : α) (Q : Except ε α → σ → W → Prop) :
    (pure a : Attempt I σ ε α).Ensures R s w Q ↔ Q (.ok a) s w := Iff.rfl

@[simp] theorem ensures_fail (e : ε) (Q : Except ε α → σ → W → Prop) :
    (fail e : Attempt I σ ε α).Ensures R s w Q ↔ Q (.error e) s w := Iff.rfl

/-- A second attempt starts where the first ended, and an error of the first is the error of both.
-/
theorem ensures_bind (attempt : Attempt I σ ε α) (k : α → Attempt I σ ε β)
    (Q : Except ε β → σ → W → Prop) :
    (attempt >>= k).Ensures R s w Q ↔ attempt.Ensures R s w fun x s w =>
      match x with
      | .ok a => (k a).Ensures R s w Q
      | .error e => Q (.error e) s w := by
  refine (Flow.ensures_bind attempt.run _ s w Q).trans ?_
  constructor <;> intro h <;> refine h.mono ?_ <;> rintro (e | a) s w h <;> exact h

theorem Ensures.bind {attempt : Attempt I σ ε α} {k : α → Attempt I σ ε β}
    {P : Except ε α → σ → W → Prop} {Q : Except ε β → σ → W → Prop}
    (h : attempt.Ensures R s w P) (hok : ∀ a s' w', P (.ok a) s' w' → (k a).Ensures R s' w' Q)
    (herror : ∀ e s' w', P (.error e) s' w' → Q (.error e) s' w') :
    (attempt >>= k).Ensures R s w Q := by
  rw [ensures_bind]
  refine h.mono ?_
  rintro (e | a) s' w' hP
  · exact herror e s' w' hP
  · exact hok a s' w' hP

@[simp] theorem ensures_look (f : σ → α) (Q : Except ε α → σ → W → Prop) :
    (look f : Attempt I σ ε α).Ensures R s w Q ↔ Q (.ok (f s)) s w := Iff.rfl

@[simp] theorem ensures_change (f : σ → σ) (Q : Except ε Unit → σ → W → Prop) :
    (change f : Attempt I σ ε Unit).Ensures R s w Q ↔ Q (.ok ()) (f s) w := Iff.rfl

theorem ensures_of (wrap : ε → δ) (flow : Flow I σ (Except ε α)) (Q : Except δ α → σ → W → Prop) :
    (of wrap flow).Ensures R s w Q ↔ flow.Ensures R s w fun x s w => Q (x.mapError wrap) s w :=
  Flow.ensures_bind flow _ s w Q

theorem ensures_lift (flow : Flow I σ α) (Q : Except ε α → σ → W → Prop) :
    (lift flow : Attempt I σ ε α).Ensures R s w Q ↔ flow.Ensures R s w fun a s w => Q (.ok a) s w :=
  Flow.ensures_bind flow _ s w Q

theorem ensures_of_look (wrap : ε → δ) (f : σ → Except ε α) (Q : Except δ α → σ → W → Prop) :
    (of wrap (Flow.look f)).Ensures R s w Q ↔ Q ((f s).mapError wrap) s w := Iff.rfl

theorem ensures_of_done (wrap : ε → δ) (x : Except ε α) (Q : Except δ α → σ → W → Prop) :
    (of wrap (.done x)).Ensures R s w Q ↔ Q (x.mapError wrap) s w := Iff.rfl

@[simp] theorem ensures_some_none (e : ε) (Q : Except ε α → σ → W → Prop) :
    (Attempt.some e none : Attempt I σ ε α).Ensures R s w Q ↔ Q (.error e) s w := Iff.rfl

@[simp] theorem ensures_some_some (e : ε) (a : α) (Q : Except ε α → σ → W → Prop) :
    (Attempt.some e (Option.some a) : Attempt I σ ε α).Ensures R s w Q ↔ Q (.ok a) s w := Iff.rfl

end Attempt

end DriverHub
