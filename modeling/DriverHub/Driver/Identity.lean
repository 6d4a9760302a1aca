import DriverHub.Text.Split

/-! Identities of drivers and devices. A driver is known by its vendor and its model, and its script
runs as the program `@driver:vendor:model`. -/

namespace DriverHub

structure DriverId where
  vendor : String
  model : String
deriving DecidableEq, Inhabited

abbrev DeviceId := String

namespace DriverId

def programMark : String := "@driver"

def text (id : DriverId) : String := id.vendor ++ ":" ++ id.model

/-- The identifier of the program that runs the script of the driver. -/
def programId (id : DriverId) : String := programMark ++ ":" ++ id.text

/-- The driver whose program has the given identifier; vendor and model are not empty. -/
def ofProgramId? (text : String) : Option DriverId :=
  match Text.split ':' text.toList with
  | [mark, vendor, model] =>
    if mark = programMark.toList ∧ vendor ≠ [] ∧ model ≠ [] then
      some ⟨String.ofList vendor, String.ofList model⟩
    else none
  | _ => none

/-- The message about a text that is no program identifier. -/
def invalidText (text : String) : String :=
  "Invalid driver program id `" ++ text ++ "`: expected `@driver:<vendor>:<model>`"

end DriverId

/-- Drivers are ordered by vendor, then by model. -/
instance : LT DriverId where
  lt a b := a.vendor < b.vendor ∨ (a.vendor = b.vendor ∧ a.model < b.model)

instance : DecidableLT DriverId := fun a b =>
  inferInstanceAs (Decidable (a.vendor < b.vendor ∨ (a.vendor = b.vendor ∧ a.model < b.model)))

protected def DriverId.compare (a b : DriverId) : Ordering := compareOfLessAndEq a b

/-- A script to run for: a driver, or one of its devices. -/
structure Target where
  driver : DriverId
  device : Option DeviceId := none
deriving DecidableEq

def Target.text (t : Target) : String :=
  match t.device with
  | none => t.driver.text
  | some device => t.driver.text ++ "/" ++ device

end DriverHub
