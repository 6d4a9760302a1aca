import DriverHub.Hub.Management
import DriverHub.Proofs.Hub.Invocation

/-! What an operation can do to the singletons and the records, said once for all operations, and
the agreement of the two, which every change keeps. -/

namespace DriverHub

namespace Work

variable {host : Host} {l : LiveState} {r : Records} {β : Type}

theorem ensures_setDriver (id : DriverId) (v : Value) (k : Unit → Work β)
    (Q : Except HubError β → LiveState → Records → Prop) :
    (setDriver id v >>= k).Ensures host.Answers l r Q ↔
      (k ()).Ensures host.Answers { l with singletons := l.singletons.setDriver id v } r Q := by
  unfold setDriver
  rw [Attempt.ensures_bind, Attempt.ensures_change]

theorem ensures_setDevice (id : DeviceId) (v : Value) (k : Unit → Work β)
    (Q : Except HubError β → LiveState → Records → Prop) :
    (setDevice id v >>= k).Ensures host.Answers l r Q ↔
      (k ()).Ensures host.Answers { l with singletons := l.singletons.setDevice id v } r Q := by
  unfold setDevice
  rw [Attempt.ensures_bind, Attempt.ensures_change]

end Work

/-- The value that a new driver starts with; without a schema it has no fields. -/
def Extraction.firstValue (e : Extraction) : Value :=
  match e.info? with
  | some info => info.driverSchema.zero
  | none => .object []

/-- Each record holds what its singleton marshals to, neither stands alone, and the driver of each
device is recorded. -/
structure Agree (s : Singletons) (r : Records) : Prop where
  drivers : ∀ id, (Dict.find? id r.drivers).map (·.singleton) =
    (Dict.find? id s.drivers).map fun v => some v.toJson
  devices : ∀ id, (Dict.find? id r.devices).map (·.singleton) =
    (Dict.find? id s.devices).map fun v => some v.toJson
  owners : ∀ id device, Dict.find? id r.devices = some device →
    ∃ driver, Dict.find? device.driver r.drivers = some driver

/-- The driver itself, or a device of it. -/
def Records.Owns (r : Records) (id : DriverId) : ConfigTarget → Prop
  | .driver key => key = id
  | .device k => r.owner? k = some id

/-- The schema that a driver declares for itself, or for its devices. -/
def DriverInfo.schemaOf (info : DriverInfo) : ConfigTarget → Schema
  | .driver _ => info.driverSchema
  | .device _ => info.deviceSchema

/-- The devices of a driver have come under another schema. -/
structure CarriedOver (id : DriverId) (schema : Schema) (schemaless : Bool) (s s' : Singletons)
    (r r' : Records) : Prop where
  own : ∀ k device v, Dict.find? k r.devices = some device → device.driver = id →
    Dict.find? k s.devices = some v →
    Dict.find? k s'.devices = some (schema.carryOver v device.singleton schemaless) ∧
    Dict.find? k r'.devices = some { device with
      singleton := some (schema.carryOver v device.singleton schemaless).toJson }
  others : ∀ k, (∀ device, Dict.find? k r.devices = some device → device.driver ≠ id) →
    Dict.find? k s'.devices = Dict.find? k s.devices ∧ Dict.find? k r'.devices = Dict.find? k r.devices

/-- What one operation does to the singletons and the records. -/
inductive Change (E : Findings) (s : Singletons) (r : Records) : Singletons → Records → Prop
  | nothing : Change E s r s r
  | newDriver {driver : DriverRecord} {e : Extraction}
      (fresh : Dict.find? driver.id r.drivers = none) (found : E.source driver.id driver.source e) :
    Change E s r (s.setDriver driver.id e.firstValue)
      (r.putDriver { driver with singleton := some e.firstValue.toJson })
  | invalidCode {old : DriverRecord} {source : String} {diagnostics : List Diagnostic}
      (recorded : Dict.find? old.id r.drivers = some old)
      (found : E.source old.id source (.invalid diagnostics)) :
    Change E s r s (r.putDriver { old with source })
  | validCode {old : DriverRecord} {source : String} {before : Extraction} {info : DriverInfo}
      {program : Program} {warnings : List Diagnostic} {v w : Value} {s' : Singletons} {r' : Records}
      (recorded : Dict.find? old.id r.drivers = some old)
      (current : Dict.find? old.id s.drivers = some v)
      (known : E.source old.id old.source before)
      (found : E.source old.id source (.valid info program warnings))
      (carried : w = info.driverSchema.carryOver v old.singleton !before.isValid)
      (value : s'.drivers = Dict.insert old.id w s.drivers)
      (record : r'.drivers =
        Dict.insert old.id { old with source, singleton := some w.toJson } r.drivers)
      (devices : CarriedOver old.id info.deviceSchema (!before.isValid) s s' r r') :
    Change E s r s' r'
  | noDriver {id : DriverId}
      (unused : ∀ k device, Dict.find? k r.devices = some device → device.driver ≠ id) :
    Change E s r (s.removeDriver id) (r.deleteDriver id)
  | newDevice {device : DeviceRecord} {driver : DriverRecord} {info : DriverInfo} {program : Program}
      {warnings : List Diagnostic} (fresh : Dict.find? device.id r.devices = none)
      (owner : Dict.find? device.driver r.drivers = some driver)
      (found : E.source driver.id driver.source (.valid info program warnings)) :
    Change E s r (s.setDevice device.id info.deviceSchema.zero)
      (r.putDevice { device with singleton := some info.deviceSchema.zero.toJson })
  | noDevice {id : DeviceId} : Change E s r (s.removeDevice id) (r.deleteDevice id)
  | configuredDriver {driver : DriverRecord} {info : DriverInfo} {program : Program}
      {warnings : List Diagnostic} {json : Json} {v : Value}
      (recorded : Dict.find? driver.id r.drivers = some driver)
      (found : E.source driver.id driver.source (.valid info program warnings))
      (decoded : info.driverSchema.decode json = .ok v) :
    Change E s r (s.setDriver driver.id v) (r.putSingletons driver.id v.toJson none)
  | configuredDevice {device : DeviceRecord} {driver : DriverRecord} {info : DriverInfo}
      {program : Program} {warnings : List Diagnostic} {json : Json} {v : Value}
      (recorded : Dict.find? device.id r.devices = some device)
      (owner : Dict.find? device.driver r.drivers = some driver)
      (found : E.source driver.id driver.source (.valid info program warnings))
      (decoded : info.deviceSchema.decode json = .ok v) :
    Change E s r (s.setDevice device.id v) (r.putDevice { device with singleton := some v.toJson })
  | called {t : Target} {prepared : PreparedDriver} {left : Dict String Value} {v : Value}
      {d : Option (DeviceId × Value)} (ready : t.Ready E r prepared)
      (completed : E.left prepared.unit left)
      (taken : t.leftBy prepared.unit.program left = .ok (v, d)) :
    Change E s r (s.commit t.driver v d) (t.save v d r)

namespace Agree

variable {E : Findings} {s s' : Singletons} {r r' : Records}

theorem empty : Agree {} {} := ⟨fun _ => rfl, fun _ => rfl, nofun⟩

theorem exists_driver (h : Agree s r) {id : DriverId} {record : DriverRecord}
    (hr : Dict.find? id r.drivers = some record) :
    ∃ v, Dict.find? id s.drivers = some v ∧ record.singleton = some v.toJson := by
  have hid := h.drivers id
  rw [hr, Option.map_some] at hid
  obtain ⟨v, hv, hsaved⟩ := Option.map_eq_some_iff.1 hid.symm
  exact ⟨v, hv, hsaved.symm⟩

theorem exists_device (h : Agree s r) {id : DeviceId} {record : DeviceRecord}
    (hr : Dict.find? id r.devices = some record) :
    ∃ v, Dict.find? id s.devices = some v ∧ record.singleton = some v.toJson := by
  have hid := h.devices id
  rw [hr, Option.map_some] at hid
  obtain ⟨v, hv, hsaved⟩ := Option.map_eq_some_iff.1 hid.symm
  exact ⟨v, hv, hsaved.symm⟩

theorem owners_of_drivers (h : Agree s r) (hdevices : r'.devices = r.devices)
    (hdrivers : ∀ id driver, Dict.find? id r.drivers = some driver →
      ∃ driver', Dict.find? id r'.drivers = some driver') :
    ∀ id device, Dict.find? id r'.devices = some device →
      ∃ driver, Dict.find? device.driver r'.drivers = some driver := by
  intro id device hdevice
  rw [hdevices] at hdevice
  obtain ⟨driver, hdriver⟩ := h.owners id device hdevice
  exact hdrivers _ driver hdriver

theorem newDriver (h : Agree s r) (driver : DriverRecord) (v : Value) :
    Agree (s.setDriver driver.id v) (r.putDriver { driver with singleton := some v.toJson }) := by
  refine ⟨?_, h.devices, h.owners_of_drivers rfl ?_⟩
  · intro id
    rw [Records.find?_putDriver, Singletons.find?_setDriver]
    split
    · rfl
    · exact h.drivers id
  · intro id old hold
    rw [Records.find?_putDriver]
    split
    · exact ⟨_, rfl⟩
    · exact ⟨old, hold⟩

theorem invalidCode (h : Agree s r) {old : DriverRecord} (source : String)
    (recorded : Dict.find? old.id r.drivers = some old) :
    Agree s (r.putDriver { old with source }) := by
  refine ⟨?_, h.devices, h.owners_of_drivers rfl ?_⟩
  · intro id
    rw [Records.find?_putDriver, ← h.drivers id]
    split
    · next hid =>
      subst hid
      rw [recorded]
      rfl
    · rfl
  · intro id driver hdriver
    rw [Records.find?_putDriver]
    split
    · exact ⟨_, rfl⟩
    · exact ⟨driver, hdriver⟩

theorem carriedOver (h : Agree s r) {id : DriverId} {schema : Schema} {schemaless : Bool}
    (hc : CarriedOver id schema schemaless s s' r r') (k : DeviceId) :
    (Dict.find? k r'.devices).map (·.singleton) =
      (Dict.find? k s'.devices).map fun v => some v.toJson := by
  by_cases hown : ∃ device, Dict.find? k r.devices = some device ∧ device.driver = id
  · obtain ⟨device, hdevice, howner⟩ := hown
    obtain ⟨v, hv, -⟩ := h.exists_device hdevice
    obtain ⟨hs', hr'⟩ := hc.own k device v hdevice howner hv
    rw [hs', hr']
    rfl
  · obtain ⟨hs', hr'⟩ := hc.others k fun device hdevice howner => hown ⟨device, hdevice, howner⟩
    rw [hs', hr', h.devices k]

theorem owner?_carriedOver (h : Agree s r) {id : DriverId} {schema : Schema} {schemaless : Bool}
    (hc : CarriedOver id schema schemaless s s' r r') (k : DeviceId) : r'.owner? k = r.owner? k := by
  unfold Records.owner?
  by_cases hown : ∃ old, Dict.find? k r.devices = some old ∧ old.driver = id
  · obtain ⟨old, hold, howner⟩ := hown
    obtain ⟨v, hv, -⟩ := h.exists_device hold
    obtain ⟨-, hr'⟩ := hc.own k old v hold howner hv
    rw [hr', hold]
    rfl
  · obtain ⟨-, hr'⟩ := hc.others k fun old hold howner => hown ⟨old, hold, howner⟩
    rw [hr']

theorem noDriver (h : Agree s r) {id : DriverId}
    (unused : ∀ k device, Dict.find? k r.devices = some device → device.driver ≠ id) :
    Agree (s.removeDriver id) (r.deleteDriver id) := by
  refine ⟨?_, h.devices, ?_⟩
  · intro id'
    rw [Records.find?_deleteDriver, Singletons.find?_removeDriver]
    split
    · rfl
    · exact h.drivers id'
  · intro k device hdevice
    obtain ⟨driver, hdriver⟩ := h.owners k device hdevice
    refine ⟨driver, ?_⟩
    rw [Records.find?_deleteDriver, if_neg (unused k device hdevice).symm, hdriver]

theorem putDevice (h : Agree s r) {device : DeviceRecord} {driver : DriverRecord} (v : Value)
    (owner : Dict.find? device.driver r.drivers = some driver) :
    Agree (s.setDevice device.id v) (r.putDevice { device with singleton := some v.toJson }) := by
  refine ⟨h.drivers, ?_, ?_⟩
  · intro id
    rw [Records.find?_putDevice, Singletons.find?_setDevice]
    split
    · rfl
    · exact h.devices id
  · intro id device' hdevice'
    rw [Records.find?_putDevice] at hdevice'
    split at hdevice'
    · cases hdevice'
      exact ⟨driver, owner⟩
    · exact h.owners id device' hdevice'

theorem noDevice (h : Agree s r) (id : DeviceId) : Agree (s.removeDevice id) (r.deleteDevice id) := by
  refine ⟨h.drivers, ?_, ?_⟩
  · intro id'
    rw [Records.find?_deleteDevice, Singletons.find?_removeDevice]
    split
    · rfl
    · exact h.devices id'
  · intro id' device hdevice
    rw [Records.find?_deleteDevice] at hdevice
    split at hdevice
    · cases hdevice
    · exact h.owners id' device hdevice

/-- Saving the singletons of a recorded target and committing them. -/
theorem save (h : Agree s r) {t : Target} {v : Value} {d : Option (DeviceId × Value)}
    (ht : t.Recorded r) (hd : d.map (·.1) = t.device) :
    Agree (s.commit t.driver v d) (t.save v d r) := by
  have hc := t.replaced_save (v := v) (s := s) ht hd
  refine ⟨?_, ?_, ?_⟩
  · intro id
    by_cases hid : id = t.driver
    · subst hid
      obtain ⟨record, -, hrecord⟩ := hc.driverRecord
      rw [hrecord, hc.driver]
      rfl
    · obtain ⟨hs', hr'⟩ := hc.otherDrivers id hid
      rw [hs', hr', h.drivers id]
  · intro id
    by_cases hid : t.device = some id
    · obtain ⟨⟨id', w⟩, rfl, rfl⟩ := Option.map_eq_some_iff.1 (hd.trans hid)
      obtain ⟨record, -, hrecord⟩ := hc.deviceRecord _ w rfl
      rw [hrecord, hc.device _ w rfl]
      rfl
    · obtain ⟨hs', hr'⟩ := hc.otherDevices id hid
      rw [hs', hr', h.devices id]
  · intro id device hdevice
    obtain ⟨old, hold, howner⟩ := hc.exists_before hdevice
    obtain ⟨driver, hdriver⟩ := h.owners id old hold
    rw [← howner]
    exact hc.exists_driver hdriver

theorem validCode (h : Agree s r) {old : DriverRecord} {schema : Schema} {schemaless : Bool}
    {w : Value} {record : DriverRecord} (hsaved : record.singleton = some w.toJson)
    (hs' : s'.drivers = Dict.insert old.id w s.drivers)
    (hr' : r'.drivers = Dict.insert old.id record r.drivers)
    (hc : CarriedOver old.id schema schemaless s s' r r') : Agree s' r' := by
  refine ⟨?_, h.carriedOver hc, ?_⟩
  · intro id
    rw [hs', hr', Dict.find?_insert, Dict.find?_insert]
    split
    · rw [Option.map_some, Option.map_some, hsaved]
    · exact h.drivers id
  · intro k device hdevice
    have howner? := Records.owner?_of_find? hdevice
    rw [h.owner?_carriedOver hc] at howner?
    obtain ⟨before, hbefore, howner⟩ := Option.map_eq_some_iff.1 howner?
    obtain ⟨driver, hdriver⟩ := h.owners k before hbefore
    rw [hr', ← howner, Dict.find?_insert]
    split
    · exact ⟨_, rfl⟩
    · exact ⟨driver, hdriver⟩

theorem change (h : Agree s r) (hchange : Change E s r s' r') : Agree s' r' := by
  cases hchange with
  | nothing => exact h
  | newDriver => exact h.newDriver _ _
  | invalidCode recorded => exact h.invalidCode _ recorded
  | validCode _ _ _ _ _ value record devices => exact h.validCode rfl value record devices
  | noDriver unused => exact h.noDriver unused
  | newDevice _ owner => exact h.putDevice _ owner
  | noDevice => exact h.noDevice _
  | @configuredDriver driver _ _ _ _ v recorded =>
    exact h.save (t := ⟨driver.id, none⟩) (v := v) (d := none) ⟨⟨driver, recorded⟩, nofun⟩ rfl
  | configuredDevice _ owner => exact h.putDevice _ owner
  | called ready _ taken => exact h.save ready.recorded (Target.leftBy_eq_ok taken).2.1

end Agree

end DriverHub
