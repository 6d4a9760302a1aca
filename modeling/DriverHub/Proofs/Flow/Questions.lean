import DriverHub.Proofs.Flow.Interleaving

/-! The questions that a flow asks. They are listed by its surroundings, beside what else these keep,
alone or each with its answer; that takes no part in how a flow goes. -/

namespace DriverHub.Flow

variable {I : Interface} {σ W α β : Type} {R : Surroundings I W}

/-- Surroundings that list the questions they are asked. -/
def Listing (R : Surroundings I W) : Surroundings I (W × List I.Question) :=
  fun w q b w' => R w.1 q b w'.1 ∧ w'.2 = w.2 ++ [q]

variable {flow : Flow I σ α} {s s' : σ} {w w' : W} {a : α} {asked asked' : List I.Question}

/-- However a flow ends, its questions can be listed. -/
theorem Ends.exists_listing (h : Ends R flow s w a s' w') (asked : List I.Question) :
    ∃ asked', Ends (Listing R) flow s (w, asked) a s' (w', asked') := by
  induction h generalizing asked with
  | done => exact ⟨asked, .done⟩
  | access _ ih =>
    obtain ⟨asked', h⟩ := ih asked
    exact ⟨asked', .access h⟩
  | @ask q _ _ _ _ v _ _ _ answered _ ih =>
    obtain ⟨asked', h⟩ := ih (asked ++ [q])
    exact ⟨asked', .ask (v := (v, asked ++ [q])) ⟨answered, rfl⟩ h⟩

theorem Ends.of_listing (h : Ends (Listing R) flow s (w, asked) a s' (w', asked')) :
    Ends R flow s w a s' w' :=
  h.map (f := Prod.fst) fun _ _ _ _ answered => answered.1

/-- What is listed while a flow runs are questions that it may ask. -/
theorem Asks.listed {P : I.Question → Prop} (hflow : flow.Asks P)
    (h : Ends (Listing R) flow s (w, asked) a s' (w', asked')) :
    ∃ own, asked' = asked ++ own ∧ ∀ q ∈ own, P q := by
  induction flow generalizing s w asked with
  | done a =>
    cases h
    exact ⟨[], (List.append_nil _).symm, nofun⟩
  | access update next ih =>
    cases h with
    | access rest => exact ih s (hflow s) rest
  | ask q next ih =>
    cases h with
    | @ask _ _ _ _ b v _ _ _ answered rest =>
      obtain ⟨v, asked₁⟩ := v
      obtain ⟨-, rfl⟩ := answered
      obtain ⟨own, rfl, hown⟩ := ih b (hflow.2 b) rest
      refine ⟨q :: own, by simp, ?_⟩
      exact List.forall_mem_cons.2 ⟨hflow.1, hown⟩

/-! ### Questions with their answers -/

/-- A question and the answer that it got. -/
structure Exchange (I : Interface) where
  question : I.Question
  answer : I.Answer question

/-- Surroundings that record what they are asked and what they answer. -/
def Recording (R : Surroundings I W) : Surroundings I (W × List (Exchange I)) :=
  fun w q b w' => R w.1 q b w'.1 ∧ w'.2 = w.2 ++ [⟨q, b⟩]

theorem Ends.exists_recording (h : Ends R flow s w a s' w') (said : List (Exchange I)) :
    ∃ said', Ends (Recording R) flow s (w, said) a s' (w', said') := by
  induction h generalizing said with
  | done => exact ⟨said, .done⟩
  | access _ ih =>
    obtain ⟨said', h⟩ := ih said
    exact ⟨said', .access h⟩
  | @ask q _ _ _ b v _ _ _ answered _ ih =>
    obtain ⟨said', h⟩ := ih (said ++ [⟨q, b⟩])
    exact ⟨said', .ask (v := (v, said ++ [⟨q, b⟩])) ⟨answered, rfl⟩ h⟩

theorem Ends.listing_of_recording {said said' : List (Exchange I)}
    (h : Ends (Recording R) flow s (w, said) a s' (w', said')) :
    Ends (Listing R) flow s (w, said.map (·.question)) a s' (w', said'.map (·.question)) := by
  refine h.map (f := fun w => (w.1, w.2.map (·.question))) ?_
  rintro w q b w' ⟨answered, hsaid⟩
  refine ⟨answered, ?_⟩
  simp only [hsaid, List.map_append, List.map_cons, List.map_nil]

/-- Answers that are recorded as they are given. -/
def recorded (answer : W → (q : I.Question) → I.Answer q × W) (w : W × List (Exchange I))
    (q : I.Question) : I.Answer q × W × List (Exchange I) :=
  let out := answer w.1 q
  (out.1, out.2, w.2 ++ [⟨q, out.1⟩])

theorem ends_recorded {answer : W → (q : I.Question) → I.Answer q × W}
    (h : ∀ w q, R w q (answer w q).1 (answer w q).2) (flow : Flow I σ α) (s : σ)
    (w : W × List (Exchange I)) :
    Ends (Recording R) flow s w (flow.play (recorded answer) s w).1 (flow.play (recorded answer) s w).2.1
      (flow.play (recorded answer) s w).2.2 :=
  ends_play (fun w q => ⟨h w.1 q, rfl⟩) flow s w

theorem ensures_recorded (q : I.Question) (s : σ) (w : W × List (Exchange I)) :
    (Flow.ask q .done : Flow I σ (I.Answer q)).Ensures (Recording R) s w fun b s' w' =>
      s' = s ∧ w'.2 = w.2 ++ [⟨q, b⟩] :=
  fun _ _ answered => ⟨rfl, answered.2⟩

end DriverHub.Flow
