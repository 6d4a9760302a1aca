import DriverHub.Dispatch.State

/-! Delivering to one callback. Failures of the surroundings are tried again as often as the
registration tolerates them; a fault of the script is final. -/

namespace DriverHub

inductive DeliveryService where
  /-- Calls the callback once. -/
  | call (registration : Registration) (call : Call)
  | pause (ms : Nat)
  | log (line : LogLine)

namespace DeliveryService

@[reducible]
def Answer : DeliveryService → Type
  | call .. => Except DispatchError (Outcome Value)
  | pause _ => Unit
  | log _ => Unit

end DeliveryService

@[reducible]
def deliveryServices : Interface := ⟨DeliveryService, DeliveryService.Answer⟩

abbrev Delivering := Flow deliveryServices Unit

/-- How often a delivery is tried. -/
def DispatchSettings.attemptsFor (settings : DispatchSettings) : Tolerance → Nat
  | .retry => max settings.attempts 1
  | .bestEffort => 1

namespace Delivering

def ask (q : DeliveryService) : Delivering q.Answer := Flow.ask q .done

/-- The line about a delivery that is given up after `attempts` attempts. -/
def lastLine (r : Registration) (attempts : Nat) (e : DispatchError) : LogLine :=
  let mark := "[" ++ Digits.natText r.id ++ "] "
  match r.request.tolerance with
  | .retry => .error (mark ++ "Giving up on `" ++ r.request.function.name ++ "` after " ++
      Digits.natText attempts ++ " attempt(s): " ++ e.text)
  | .bestEffort =>
    .warn (mark ++ "Dropped delivery of `" ++ r.request.function.name ++ "`: " ++ e.text)

/-- Tries a delivery `left` more times, out of `attempts`. -/
def tryUpTo (r : Registration) (call : Call) (retryDelay attempts : Nat) : Nat → Delivering Bool
  | 0 => return false
  | left + 1 => do
    match ← ask (.call r call) with
    | .ok (.returned _) => return true
    | .ok (.failed diagnostics) =>
      ask (.log (.warn ("[" ++ Digits.natText r.id ++ "] Callback `" ++ r.request.function.name ++
        "` failed: " ++ firstMessage diagnostics)))
      return false
    | .error e =>
      if left = 0 then
        ask (.log (lastLine r attempts e))
        return false
      else
        ask (.log (.warn ("[" ++ Digits.natText r.id ++ "] Delivery attempt " ++
          Digits.natText (attempts - left) ++ "/" ++ Digits.natText attempts ++ " failed: " ++
          e.text)))
        ask (.pause retryDelay)
        tryUpTo r call retryDelay attempts left

/-- Delivers to a callback, and answers whether it returned a value. -/
def deliver (settings : DispatchSettings) (r : Registration) (call : Call) : Delivering Bool :=
  let attempts := settings.attemptsFor r.request.tolerance
  tryUpTo r call settings.retryDelay attempts attempts

end Delivering

end DriverHub
