import DriverHub.Proofs.Flow.Ends

/-! Flows that take turns. Each turn is one step of one flow, and new flows may start at any time.
What was done is kept as a history, since the state alone does not tell who wrote last. -/

namespace DriverHub.Flow

variable {I : Interface} {σ τ W α β : Type} {R : Surroundings I W}

/-- What a flow does in one step. -/
inductive Act (I : Interface) (σ : Type) where
  | accessed (update : σ → σ)
  | asked (question : I.Question) (answer : I.Answer question)

inductive Step (R : Surroundings I W) : Flow I σ α → σ → W → Act I σ → Flow I σ α → σ → W → Prop
  | access {update next s w} :
    Step R (.access update next) s w (.accessed update) (next s) (update s) w
  | ask {q next s w b v} (answered : R w q b v) :
    Step R (.ask q next) s w (.asked q b) (next b) s v

/-- Flows that have come so far, the state that they share, and all that they did, the first act
first. -/
structure Pool (I : Interface) (σ W α : Type) where
  flows : List (Flow I σ α)
  state : σ
  surroundings : W
  acts : List (Act I σ) := []

/-- The pools that come about if flows that `starts` admits take turns, in any order. -/
inductive Interleaved (R : Surroundings I W) (starts : Flow I σ α → Prop) (s₀ : σ) (w₀ : W) :
    Pool I σ W α → Prop
  | nothing : Interleaved R starts s₀ w₀ ⟨[], s₀, w₀, []⟩
  | start {flow flows s w acts} (before : Interleaved R starts s₀ w₀ ⟨flows, s, w, acts⟩)
      (admitted : starts flow) :
    Interleaved R starts s₀ w₀ ⟨flow :: flows, s, w, acts⟩
  | step {left flow right s w acts act flow' s' w'}
      (before : Interleaved R starts s₀ w₀ ⟨left ++ flow :: right, s, w, acts⟩)
      (step : Step R flow s w act flow' s' w') :
    Interleaved R starts s₀ w₀ ⟨left ++ flow' :: right, s', w', acts ++ [act]⟩

/-- No flow is in progress. -/
def Pool.Idle (p : Pool I σ W α) : Prop := ∀ flow ∈ p.flows, ∃ a, flow = .done a

section

variable (answer : W → (q : I.Question) → I.Answer q × W)

/-- The next step of a flow, if `answer` answers its questions. -/
def advance : Flow I σ α → σ → W → Option (Act I σ × Flow I σ α × σ × W)
  | .done _, _, _ => none
  | .access update next, s, w => some (.accessed update, next s, update s, w)
  | .ask q next, s, w => some (.asked q (answer w q).1, next (answer w q).1, s, (answer w q).2)

/-- The flow at a place takes its turn. -/
def Pool.turn (place : Nat) (p : Pool I σ W α) : Pool I σ W α :=
  match p.flows.drop place with
  | [] => p
  | flow :: right =>
    match flow.advance answer p.state p.surroundings with
    | none => p
    | some (act, flow', s, w) => ⟨p.flows.take place ++ flow' :: right, s, w, p.acts ++ [act]⟩

/-- The flows take their turns in a given order. -/
def Pool.turns (places : List Nat) (p : Pool I σ W α) : Pool I σ W α :=
  places.foldl (fun p place => p.turn answer place) p

variable {answer} {starts : Flow I σ α → Prop} {s₀ : σ} {w₀ : W} {p : Pool I σ W α}

theorem step_of_advance (hanswer : ∀ w q, R w q (answer w q).1 (answer w q).2)
    {flow flow' : Flow I σ α} {s s' : σ} {w w' : W} {act : Act I σ}
    (h : flow.advance answer s w = some (act, flow', s', w')) : Step R flow s w act flow' s' w' := by
  cases flow with
  | done a => cases h
  | access update next =>
    cases h
    exact .access
  | ask q next =>
    cases h
    exact .ask (hanswer w q)

theorem Interleaved.turn (hanswer : ∀ w q, R w q (answer w q).1 (answer w q).2)
    (h : Interleaved R starts s₀ w₀ p) (place : Nat) :
    Interleaved R starts s₀ w₀ (p.turn answer place) := by
  unfold Pool.turn
  split
  · exact h
  · next flow right hdrop =>
    have hflows : p.flows = p.flows.take place ++ flow :: right := by
      rw [← hdrop, List.take_append_drop]
    split
    · exact h
    · next act flow' s w hadvance =>
      have hp : Interleaved R starts s₀ w₀
          ⟨p.flows.take place ++ flow :: right, p.state, p.surroundings, p.acts⟩ := by
        rw [← hflows]
        exact h
      exact .step hp (step_of_advance hanswer hadvance)

theorem Interleaved.turns (hanswer : ∀ w q, R w q (answer w q).1 (answer w q).2)
    (h : Interleaved R starts s₀ w₀ p) (places : List Nat) :
    Interleaved R starts s₀ w₀ (p.turns answer places) := by
  unfold Pool.turns
  induction places generalizing p with
  | nil => exact h
  | cons place places ih => exact ih (h.turn hanswer place)

end

/-- Whatever happens between its steps, a flow asks only questions of a kind. -/
def Asks (P : I.Question → Prop) : Flow I σ α → Prop
  | .done _ => True
  | .access _ next => ∀ s, (next s).Asks P
  | .ask q next => P q ∧ ∀ b, (next b).Asks P

variable {P : I.Question → Prop}

theorem Asks.mono {P' : I.Question → Prop} {flow : Flow I σ α} (h : flow.Asks P)
    (hP : ∀ q, P q → P' q) : flow.Asks P' := by
  induction flow with
  | done a => trivial
  | access update next ih =>
    intro s
    exact ih s (h s)
  | ask q next ih =>
    refine ⟨hP q h.1, ?_⟩
    intro b
    exact ih b (h.2 b)

theorem Asks.bind {flow : Flow I σ α} {k : α → Flow I σ β} (h : flow.Asks P)
    (hk : ∀ a, (k a).Asks P) :
    (flow.bind k).Asks P := by
  induction flow with
  | done a => exact hk a
  | access update next ih =>
    intro s
    exact ih s (h s)
  | ask q next ih =>
    refine ⟨h.1, ?_⟩
    intro b
    exact ih b (h.2 b)

/-- As part of a larger flow, a flow asks what its questions are answered by. -/
theorem Asks.embed_of {J : Interface} {P' : J.Question → Prop} {flow : Flow I σ α} (h : flow.Asks P)
    {get : τ → σ} {set : σ → τ → τ} {answer : (q : I.Question) → Flow J τ (I.Answer q)}
    (hanswer : ∀ q, P q → (answer q).Asks P') : (flow.embed get set answer).Asks P' := by
  induction flow with
  | done a => trivial
  | access update next ih =>
    intro t
    exact ih (get t) (h (get t))
  | ask q next ih => exact Asks.bind (hanswer q h.1) fun b => ih b (h.2 b)

theorem Asks.embed {flow : Flow I σ α} (h : flow.Asks P) (get : τ → σ) (set : σ → τ → τ) :
    (flow.embed get set fun q => .ask q .done).Asks P :=
  h.embed_of fun _ hq => ⟨hq, fun _ => trivial⟩

end DriverHub.Flow
