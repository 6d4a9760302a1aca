/-! Flows: operations on shared state that others may work on between any two of their steps. A step
either accesses the state, as one whole, or asks a question of the surroundings and goes on with the
answer. -/

namespace DriverHub

/-- The questions that may be asked, and the type of the answers to each. -/
structure Interface where
  Question : Type
  Answer : Question → Type

/-- An operation that works on a state of type `σ`, asks questions and ends with a result. -/
inductive Flow (I : Interface) (σ α : Type) where
  | done (result : α)
  /-- One step on the state; what follows may depend on the state before it. -/
  | access (update : σ → σ) (next : σ → Flow I σ α)
  | ask (question : I.Question) (next : I.Answer question → Flow I σ α)

namespace Flow

variable {I J : Interface} {σ τ α β : Type}

def bind (flow : Flow I σ α) (k : α → Flow I σ β) : Flow I σ β :=
  match flow with
  | done a => k a
  | access update next => access update fun s => (next s).bind k
  | ask q next => ask q fun a => (next a).bind k

instance : Monad (Flow I σ) where
  pure := done
  bind := bind

theorem bind_done (flow : Flow I σ α) : flow.bind done = flow := by
  induction flow with
  | done => rfl
  | access update next ih => simp only [bind, ih]
  | ask q next ih => simp only [bind, ih]

theorem bind_bind {γ : Type} (flow : Flow I σ α) (f : α → Flow I σ β) (g : β → Flow I σ γ) :
    (flow.bind f).bind g = flow.bind fun a => (f a).bind g := by
  induction flow with
  | done => rfl
  | access update next ih => simp only [bind, ih]
  | ask q next ih => simp only [bind, ih]

instance : LawfulMonad (Flow I σ) :=
  LawfulMonad.mk' (Flow I σ) bind_done (fun _ _ => rfl) bind_bind

/-- Looks at the state. -/
def look (f : σ → α) : Flow I σ α := access id fun s => done (f s)

/-- Changes the state. -/
def change (f : σ → σ) : Flow I σ Unit := access f fun _ => done ()

/-- Changes the state and keeps something of it, in one step. -/
def exchange (f : σ → α × σ) : Flow I σ α := access (fun s => (f s).2) fun s => done (f s).1

/-- The same flow as part of a larger one: its state is a part of the larger state, and its questions
are answered by flows over the larger state. -/
def embed (get : τ → σ) (set : σ → τ → τ) (answer : (q : I.Question) → Flow J τ (I.Answer q)) :
    Flow I σ α → Flow J τ α
  | done a => done a
  | access update next =>
    access (fun t => set (update (get t)) t) fun t => embed get set answer (next (get t))
  | ask q next => (answer q).bind fun a => embed get set answer (next a)

end Flow

/-- A flow that may fail. What it did before it failed stays done. -/
structure Attempt (I : Interface) (σ ε α : Type) where
  run : Flow I σ (Except ε α)

namespace Attempt

variable {I : Interface} {σ ε δ α β : Type}

def succeed (a : α) : Attempt I σ ε α := ⟨.done (.ok a)⟩

def fail (e : ε) : Attempt I σ ε α := ⟨.done (.error e)⟩

def bind (attempt : Attempt I σ ε α) (k : α → Attempt I σ ε β) : Attempt I σ ε β where
  run := attempt.run.bind fun
    | .ok a => (k a).run
    | .error e => .done (.error e)

instance : Monad (Attempt I σ ε) where
  pure := succeed
  bind := bind

/-- A flow that does not fail. -/
def lift (flow : Flow I σ α) : Attempt I σ ε α := ⟨flow.bind fun a => .done (.ok a)⟩

instance : MonadLift (Flow I σ) (Attempt I σ ε) := ⟨lift⟩

def look (f : σ → α) : Attempt I σ ε α := lift (Flow.look f)

def change (f : σ → σ) : Attempt I σ ε Unit := lift (Flow.change f)

/-- Goes on with the value that a flow ends with, or fails with its error. -/
def of (wrap : ε → δ) (flow : Flow I σ (Except ε α)) : Attempt I σ δ α where
  run := flow.bind fun r => .done (r.mapError wrap)

/-- Goes on with a value that is there, or fails. -/
def some (e : ε) : Option α → Attempt I σ ε α
  | .some a => succeed a
  | .none => fail e

end Attempt

end DriverHub
