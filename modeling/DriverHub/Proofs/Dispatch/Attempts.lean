import DriverHub.Dispatch.Delivery
import DriverHub.Proofs.Flow.Ends
import Mathlib.Data.Stream.Init

/-! How often a delivery is tried. A callback is called until a call does not fail for the surroundings,
or until the registration tolerates no more failures. There is one pause between any two calls and none
after the last, which alone decides how the delivery ends. -/

namespace DriverHub.Delivering

/-- What calls come to, one after another. -/
abbrev Outcomes := Stream' (Except DispatchError (Outcome Value))

/-- Answers each call with the next of the outcomes, and keeps the calls and the pauses that were made.
-/
def inOrder (w : Outcomes × List DeliveryService) :
    (q : DeliveryService) → q.Answer × Outcomes × List DeliveryService
  | .call r call => (w.1.head, w.1.tail, w.2 ++ [.call r call])
  | .pause ms => ((), w.1, w.2 ++ [.pause ms])
  | .log _ => ((), w)

/-- How many of at most `n` calls are made: no more than until one does not fail for the surroundings. -/
def callsMade : Nat → Outcomes → Nat
  | 0, _ => 0
  | n + 1, outcomes => if outcomes.head.isOk then 1 else callsMade n outcomes.tail + 1

theorem callsMade_ok {outcomes : Outcomes} {outcome : Outcome Value} (n : Nat)
    (hhead : outcomes.head = .ok outcome) : callsMade (n + 1) outcomes = 1 := by
  rw [callsMade, hhead]
  rfl

theorem callsMade_error {outcomes : Outcomes} {e : DispatchError} (n : Nat)
    (hhead : outcomes.head = .error e) : callsMade (n + 1) outcomes = callsMade n outcomes.tail + 1 := by
  rw [callsMade, hhead]
  rfl

theorem callsMade_pos {n : Nat} (hn : 0 < n) (outcomes : Outcomes) : 0 < callsMade n outcomes := by
  cases n with
  | zero => omega
  | succ n =>
    unfold callsMade
    split <;> omega

/-- If a call does not fail, it is the last. -/
theorem callsMade_eq_min {n k : Nat} {outcomes : Outcomes} (hk : (outcomes.get k).isOk = true)
    (hbefore : ∀ i < k, (outcomes.get i).isOk = false) : callsMade n outcomes = min n (k + 1) := by
  induction n generalizing k outcomes with
  | zero => simp [callsMade]
  | succ n ih =>
    cases k with
    | zero =>
      have hhead : outcomes.head.isOk = true := hk
      simp [callsMade, hhead]
    | succ k =>
      have hhead : outcomes.head.isOk = false := hbefore 0 (by omega)
      have hk : (outcomes.tail.get k).isOk = true := hk
      have htail : callsMade n outcomes.tail = min n (k + 1) := by
        apply ih hk
        intro i hi
        exact hbefore (i + 1) (by omega)
      simp [callsMade, hhead, htail]

theorem callsMade_eq_self {n : Nat} {outcomes : Outcomes} (h : ∀ i, (outcomes.get i).isOk = false) :
    callsMade n outcomes = n := by
  induction n generalizing outcomes with
  | zero => rfl
  | succ n ih =>
    have hhead : outcomes.head.isOk = false := h 0
    have htail : callsMade n outcomes.tail = n := by
      apply ih
      intro i
      exact h (i + 1)
    simp [callsMade, hhead, htail]

/-- The calls and the pauses of a delivery that is made with `n` calls. -/
def schedule (r : Registration) (call : Call) (retryDelay n : Nat) : List DeliveryService :=
  (List.replicate n (.call r call)).intersperse (.pause retryDelay)

theorem schedule_succ (r : Registration) (call : Call) (retryDelay n : Nat) :
    schedule r call retryDelay (n + 2) =
      [.call r call, .pause retryDelay] ++ schedule r call retryDelay (n + 1) :=
  rfl

section

variable (r : Registration) (call : Call) (retryDelay attempts : Nat) {outcomes : Outcomes}
  (made : List DeliveryService)

theorem play_tryUpTo_ok (n : Nat) {outcome : Outcome Value} (hhead : outcomes.head = .ok outcome) :
    let delivery := (tryUpTo r call retryDelay attempts (n + 1)).play inOrder () (outcomes, made)
    delivery.2.2 = (outcomes.drop 1, made ++ schedule r call retryDelay 1) ∧
    (delivery.1 = true ↔ ∃ v, outcomes.get 0 = .ok (.returned v)) := by
  have hlast : outcomes.get 0 = .ok outcome := hhead
  rw [hlast]
  cases outcome with
  | returned v =>
    simp [tryUpTo, ask, bind, pure, Flow.bind, Flow.play, inOrder, hhead]
    exact ⟨rfl, rfl⟩
  | failed diagnostics =>
    simp [tryUpTo, ask, bind, pure, Flow.bind, Flow.play, inOrder, hhead]
    exact ⟨rfl, rfl⟩

theorem play_tryUpTo_last {e : DispatchError} (hhead : outcomes.head = .error e) :
    let delivery := (tryUpTo r call retryDelay attempts 1).play inOrder () (outcomes, made)
    delivery.2.2 = (outcomes.drop 1, made ++ schedule r call retryDelay 1) ∧
    (delivery.1 = true ↔ ∃ v, outcomes.get 0 = .ok (.returned v)) := by
  have hlast : outcomes.get 0 = .error e := hhead
  rw [hlast]
  simp [tryUpTo, ask, bind, pure, Flow.bind, Flow.play, inOrder, hhead]
  exact ⟨rfl, rfl⟩

theorem play_tryUpTo_error (n : Nat) {e : DispatchError} (hhead : outcomes.head = .error e) :
    (tryUpTo r call retryDelay attempts (n + 2)).play inOrder () (outcomes, made) =
      (tryUpTo r call retryDelay attempts (n + 1)).play inOrder ()
        (outcomes.tail, made ++ [.call r call, .pause retryDelay]) := by
  rw [tryUpTo]
  simp [ask, bind, Flow.bind, Flow.play, inOrder, hhead]

end

/-- The outcomes of as many calls as are made are used up, and the last of them decides. -/
theorem play_tryUpTo (r : Registration) (call : Call) (retryDelay attempts n : Nat) (outcomes : Outcomes)
    (made : List DeliveryService) :
    let delivery := (tryUpTo r call retryDelay attempts (n + 1)).play inOrder () (outcomes, made)
    let calls := callsMade (n + 1) outcomes
    delivery.2.2 = (outcomes.drop calls, made ++ schedule r call retryDelay calls) ∧
    (delivery.1 = true ↔ ∃ v, outcomes.get (calls - 1) = .ok (.returned v)) := by
  -- by the calls that are left, whatever was made before; the last one has a case of its own
  induction n generalizing outcomes made with
  | zero =>
    cases hhead : outcomes.head with
    | ok outcome =>
      rw [callsMade_ok 0 hhead]
      exact play_tryUpTo_ok r call retryDelay attempts made 0 hhead
    | error e =>
      rw [callsMade_error 0 hhead]
      exact play_tryUpTo_last r call retryDelay attempts made hhead
  | succ n ih =>
    cases hhead : outcomes.head with
    | ok outcome =>
      rw [callsMade_ok (n + 1) hhead]
      exact play_tryUpTo_ok r call retryDelay attempts made (n + 1) hhead
    | error e =>
      obtain ⟨calls, hcalls⟩ : ∃ calls, callsMade (n + 1) outcomes.tail = calls + 1 :=
        Nat.exists_eq_add_one.2 (callsMade_pos n.succ_pos outcomes.tail)
      obtain ⟨hleft, hended⟩ := ih outcomes.tail (made ++ [.call r call, .pause retryDelay])
      rw [callsMade_error (n + 1) hhead, play_tryUpTo_error r call retryDelay attempts made n hhead]
      rw [hcalls] at hleft hended ⊢
      refine ⟨?_, hended⟩
      rw [hleft, schedule_succ, List.append_assoc]
      rfl

/-- A delivery calls the callback, always in the same way, until a call does not fail for the
surroundings, though at most as often as its registration tolerates. It pauses between any two calls and
not after the last, and it succeeds if the last call returned a value. -/
theorem deliver_tolerates (settings : DispatchSettings) (r : Registration) (call : Call)
    (outcomes : Outcomes) :
    let n := match r.request.tolerance with
      | .retry => max 1 settings.attempts
      | .bestEffort => 1
    let delivery := (deliver settings r call).play inOrder () (outcomes, [])
    ∃ calls, 0 < calls ∧
      (∀ k, (outcomes.get k).isOk = true → (∀ i < k, (outcomes.get i).isOk = false) →
        calls = min n (k + 1)) ∧
      ((∀ i, (outcomes.get i).isOk = false) → calls = n) ∧
      delivery.2.2 =
        (outcomes.drop calls,
          (List.replicate calls (.call r call)).intersperse (.pause settings.retryDelay)) ∧
      (delivery.1 = true ↔ ∃ v, outcomes.get (calls - 1) = .ok (.returned v)) := by
  intro n delivery
  have hattempts : settings.attemptsFor r.request.tolerance = n := by
    cases htolerance : r.request.tolerance with
    | retry => simp [n, htolerance, DispatchSettings.attemptsFor, max_comm]
    | bestEffort => simp [n, htolerance, DispatchSettings.attemptsFor]
  obtain ⟨left, hleft⟩ : ∃ left, n = left + 1 := by
    apply Nat.exists_eq_succ_of_ne_zero
    cases htolerance : r.request.tolerance with
    | retry => simp [n, htolerance]
    | bestEffort => simp [n, htolerance]
  have hplay := play_tryUpTo r call settings.retryDelay n left outcomes []
  rw [← hleft] at hplay
  refine ⟨callsMade n outcomes, callsMade_pos (by omega) outcomes, ?_, callsMade_eq_self, ?_⟩
  · intro k hk hbefore
    exact callsMade_eq_min hk hbefore
  · simp only [delivery, deliver, hattempts]
    exact hplay

end DriverHub.Delivering
