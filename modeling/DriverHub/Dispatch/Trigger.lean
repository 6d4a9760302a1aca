import DriverHub.Clock.Zone
import DriverHub.Driver.Identity

/-! Triggers: what a registered callback waits for. -/

namespace DriverHub

abbrev JobId := Nat

/-- When a timer fires, in the units of the clock that it is seen with. -/
inductive FireAt where
  /-- The next time that the clock shows this time of day, so long after midnight. -/
  | timeOfDay (time : Nat)
  | deadline (instant : Int)
deriving DecidableEq

/-- When a timer fires, and when it was asked for. -/
structure TimeTrigger where
  fireAt : FireAt
  registeredAt : Int

namespace TimeTrigger

/-- The time until a time of day is shown next: today if it is still to come, else tomorrow. Nothing is
waited for if the clocks skip it on both days, or if it is gone today and skipped tomorrow. -/
def untilShown (clock : LocalClock) (timeOfDay now : Int) : Int :=
  let later (day : Int) : Option Int := (clock.read (day * clock.perDay + timeOfDay)).filter (now < ·)
  let today := clock.dayAt now
  match later today with
  | some next => next - now
  | none =>
    match later (today + 1) with
    | some next => next - now
    | none => 0

/-- The time until the trigger fires, seen from `now`. A deadline in the past fires at once. -/
def delayFrom (clock : LocalClock) (t : TimeTrigger) (now : Int) : Nat :=
  match t.fireAt with
  | .deadline instant => (instant - now).toNat
  | .timeOfDay time => (untilShown clock time now).toNat

/-- The whole seconds since the trigger was asked for. -/
def elapsedSeconds (t : TimeTrigger) (now : Int) (clock : LocalClock := .eastern) : Nat :=
  ((now - t.registeredAt) / clock.perSecond).toNat

/-- Timers are the same if they fire at the same time, whenever they were asked for. -/
def same (t u : TimeTrigger) : Bool := t.fireAt = u.fireAt

end TimeTrigger

/-- The devices that a trigger listens to: those of a driver, or one. -/
inductive DeviceFilter where
  | class (driver : DriverId)
  | individual (device : DeviceId)
deriving DecidableEq

structure DeviceEventTrigger where
  filter : DeviceFilter
  /-- The topics listened to, or all of them. -/
  topics : Option (List String) := none
deriving DecidableEq

namespace DeviceEventTrigger

def selects (t : DeviceEventTrigger) (driver : DriverId) (device : DeviceId) : Bool :=
  match t.filter with
  | .class d => d = driver
  | .individual id => id = device

def listensTo (t : DeviceEventTrigger) (topic : String) : Bool :=
  match t.topics with
  | none => true
  | some topics => topic ∈ topics

def fires (t : DeviceEventTrigger) (driver : DriverId) (device : DeviceId) (topic : String) :
    Bool :=
  t.selects driver device && t.listensTo topic

end DeviceEventTrigger

inductive Trigger where
  /-- Every message under one of the topics. -/
  | message (topics : List String)
  /-- Once, at a certain time. -/
  | atTime (time : TimeTrigger)
  /-- Once, when the job ends. -/
  | kill (job : JobId)
  /-- Every event of the devices that match. -/
  | deviceEvent (event : DeviceEventTrigger)

namespace Trigger

def isOneShot : Trigger → Bool
  | atTime _ => true
  | kill _ => true
  | _ => false

/-- Equality of triggers; timers are compared by when they fire. -/
def same : Trigger → Trigger → Bool
  | message ts, message us => ts = us
  | atTime t, atTime u => t.same u
  | kill j, kill k => j = k
  | deviceEvent e, deviceEvent f => e = f
  | _, _ => false

end Trigger

end DriverHub
