import DriverHub.Driver.Singletons
import DriverHub.Proofs.Dict
import DriverHub.Records.Basic
import Mathlib.Data.String.Basic

/-! The two tables of the hub, by their entries: the records that are saved, and the singletons that
are kept in memory. In the records every record stands under its own identity, and identities are in
order; no operation gives that up. -/

namespace DriverHub

namespace DriverId

theorem lt_iff (a b : DriverId) :
    a < b ↔ a.vendor < b.vendor ∨ (a.vendor = b.vendor ∧ a.model < b.model) := Iff.rfl

instance : IsStrictTotalOrder DriverId (· < ·) where
  irrefl a h := by
    rcases (lt_iff a a).1 h with h | ⟨-, h⟩
    · exact lt_irrefl _ h
    · exact lt_irrefl _ h
  trans a b c hab hbc := by
    rw [lt_iff] at hab hbc ⊢
    rcases hab with hab | ⟨hab, hab'⟩
    · rcases hbc with hbc | ⟨hbc, -⟩
      · exact .inl (hab.trans hbc)
      · exact .inl (hbc ▸ hab)
    · rcases hbc with hbc | ⟨hbc, hbc'⟩
      · exact .inl (hab ▸ hbc)
      · exact .inr ⟨hab.trans hbc, hab'.trans hbc'⟩
  trichotomous a b hab hba := by
    obtain ⟨vendor, model⟩ := a
    obtain ⟨vendor', model'⟩ := b
    rw [lt_iff] at hab hba
    push Not at hab hba
    have hvendor : vendor = vendor' := le_antisymm hba.1 hab.1
    have hmodel : model = model' := le_antisymm (hba.2 hvendor.symm) (hab.2 hvendor)
    rw [hvendor, hmodel]

end DriverId

namespace Records

variable {r : Records}

theorem find?_putDriver (record : DriverRecord) (id : DriverId) :
    Dict.find? id (r.putDriver record).drivers =
      if record.id = id then some record else Dict.find? id r.drivers :=
  Dict.find?_insert record.id id record r.drivers

theorem find?_putDevice (record : DeviceRecord) (id : DeviceId) :
    Dict.find? id (r.putDevice record).devices =
      if record.id = id then some record else Dict.find? id r.devices :=
  Dict.find?_insert record.id id record r.devices

theorem find?_deleteDriver (key id : DriverId) :
    Dict.find? id (r.deleteDriver key).drivers =
      if key = id then none else Dict.find? id r.drivers :=
  Dict.find?_erase key id r.drivers

theorem find?_deleteDevice (key id : DeviceId) :
    Dict.find? id (r.deleteDevice key).devices =
      if key = id then none else Dict.find? id r.devices :=
  Dict.find?_erase key id r.devices

theorem deleteDriver_absent {id : DriverId} (h : Dict.find? id r.drivers = none) :
    r.deleteDriver id = r := by
  unfold deleteDriver
  rw [Dict.erase_of_find? h]

theorem deleteDevice_absent {id : DeviceId} (h : Dict.find? id r.devices = none) :
    r.deleteDevice id = r := by
  unfold deleteDevice
  rw [Dict.erase_of_find? h]

theorem drivers_putSingletons (driver : DriverId) (json : Json) (device : Option (DeviceId × Json)) :
    (r.putSingletons driver json device).drivers =
      Dict.modify driver (fun record => { record with singleton := some json }) r.drivers := rfl

theorem find?_drivers_putSingletons (driver : DriverId) (json : Json)
    (device : Option (DeviceId × Json)) (id : DriverId) :
    Dict.find? id (r.putSingletons driver json device).drivers = if driver = id then
      (Dict.find? id r.drivers).map fun record => { record with singleton := some json }
      else Dict.find? id r.drivers := by
  rw [drivers_putSingletons, Dict.find?_modify]

theorem devices_putSingletons_some (driver : DriverId) (json deviceJson : Json) (device : DeviceId) :
    (r.putSingletons driver json (some (device, deviceJson))).devices =
      Dict.modify device (fun record => { record with singleton := some deviceJson }) r.devices := rfl

theorem find?_devices_putSingletons (driver : DriverId) (json deviceJson : Json)
    (device id : DeviceId) :
    Dict.find? id (r.putSingletons driver json (some (device, deviceJson))).devices =
      if device = id then
        (Dict.find? id r.devices).map fun record => { record with singleton := some deviceJson }
      else Dict.find? id r.devices := by
  rw [devices_putSingletons_some, Dict.find?_modify]

/-- The source of a recorded driver. -/
def source? (r : Records) (id : DriverId) : Option String := (Dict.find? id r.drivers).map (·.source)

/-- The driver of a recorded device. -/
def owner? (r : Records) (id : DeviceId) : Option DriverId := (Dict.find? id r.devices).map (·.driver)

theorem source?_of_find? {id : DriverId} {driver : DriverRecord}
    (h : Dict.find? id r.drivers = some driver) : r.source? id = some driver.source := by
  unfold source?
  rw [h, Option.map_some]

theorem owner?_of_find? {id : DeviceId} {device : DeviceRecord}
    (h : Dict.find? id r.devices = some device) : r.owner? id = some device.driver := by
  unfold owner?
  rw [h, Option.map_some]

theorem source?_putDriver (record : DriverRecord) (id : DriverId) :
    (r.putDriver record).source? id = if record.id = id then some record.source else r.source? id := by
  unfold source?
  rw [find?_putDriver]
  split <;> rfl

theorem source?_deleteDriver (key id : DriverId) :
    (r.deleteDriver key).source? id = if key = id then none else r.source? id := by
  unfold source?
  rw [find?_deleteDriver]
  split <;> rfl

theorem owner?_putDevice (record : DeviceRecord) (id : DeviceId) :
    (r.putDevice record).owner? id = if record.id = id then some record.driver else r.owner? id := by
  unfold owner?
  rw [find?_putDevice]
  split <;> rfl

theorem owner?_deleteDevice (key id : DeviceId) :
    (r.deleteDevice key).owner? id = if key = id then none else r.owner? id := by
  unfold owner?
  rw [find?_deleteDevice]
  split <;> rfl

/-- Saving singletons changes no source. -/
theorem source?_putSingletons (driver : DriverId) (json : Json) (device : Option (DeviceId × Json))
    (id : DriverId) : (r.putSingletons driver json device).source? id = r.source? id := by
  unfold source?
  rw [find?_drivers_putSingletons]
  split
  · rw [Option.map_map]
    rfl
  · rfl

/-- Saving singletons gives no device to another driver. -/
theorem owner?_putSingletons (driver : DriverId) (json : Json) (device : Option (DeviceId × Json))
    (id : DeviceId) : (r.putSingletons driver json device).owner? id = r.owner? id := by
  cases device with
  | none => rfl
  | some device =>
    obtain ⟨key, deviceJson⟩ := device
    unfold owner?
    rw [find?_devices_putSingletons]
    split
    · rw [Option.map_map]
      rfl
    · rfl

/-- An operation that only reads leaves the records as they are. -/
theorem apply_of_isRead {op : RecordOp} (h : op.isRead) : op.apply r = r := by
  cases op with
  | driver | drivers | device | devices | script => rfl
  | _ => cases h

/-- Every record stands under its own identity, and the identities are in order. -/
structure Keyed (r : Records) : Prop where
  drivers : Dict.Sorted r.drivers
  devices : Dict.Sorted r.devices
  scripts : Dict.Sorted r.scripts
  driverId : ∀ id record, (id, record) ∈ r.drivers → record.id = id
  deviceId : ∀ id record, (id, record) ∈ r.devices → record.id = id
  scriptId : ∀ id record, (id, record) ∈ r.scripts → record.id = id

theorem keyed_empty : Keyed {} :=
  ⟨.nil, .nil, .nil, by simp, by simp, by simp⟩

theorem Keyed.apply (h : Keyed r) (op : RecordOp) : Keyed (op.apply r) := by
  cases op with
  | driver | drivers | device | devices | script => exact h
  | putDriver record =>
    refine { h with drivers := Dict.sorted_insert _ _ h.drivers, driverId := ?_ }
    intro id record' hmem
    rcases Dict.mem_insert hmem with he | hmem
    · cases he
      rfl
    · exact h.driverId id record' hmem
  | putDevice record =>
    refine { h with devices := Dict.sorted_insert _ _ h.devices, deviceId := ?_ }
    intro id record' hmem
    rcases Dict.mem_insert hmem with he | hmem
    · cases he
      rfl
    · exact h.deviceId id record' hmem
  | putScript record =>
    refine { h with scripts := Dict.sorted_insert _ _ h.scripts, scriptId := ?_ }
    intro id record' hmem
    rcases Dict.mem_insert hmem with he | hmem
    · cases he
      rfl
    · exact h.scriptId id record' hmem
  | deleteDriver id =>
    exact { h with
      drivers := Dict.sorted_erase _ h.drivers
      driverId := fun id' record hmem => h.driverId id' record (Dict.mem_of_mem_erase hmem) }
  | deleteDevice id =>
    exact { h with
      devices := Dict.sorted_erase _ h.devices
      deviceId := fun id' record hmem => h.deviceId id' record (Dict.mem_of_mem_erase hmem) }
  | putSingletons driver json device =>
    have hdrivers : Dict.Sorted (r.putSingletons driver json device).drivers := by
      rw [drivers_putSingletons]
      exact Dict.sorted_modify _ _ h.drivers
    have hdriverId : ∀ id record, (id, record) ∈ (r.putSingletons driver json device).drivers →
        record.id = id := by
      intro id record hmem
      rw [drivers_putSingletons] at hmem
      obtain ⟨old, hold, hnew⟩ := Dict.mem_of_mem_modify hmem
      have hid : old.id = id := h.driverId id old hold
      rcases hnew with rfl | rfl
      · exact hid
      · exact hid
    cases device with
    | none => exact { h with drivers := hdrivers, driverId := hdriverId }
    | some device =>
      obtain ⟨device, deviceJson⟩ := device
      refine { h with drivers := hdrivers, devices := ?_, driverId := hdriverId, deviceId := ?_ }
      · simp only [RecordOp.apply, devices_putSingletons_some]
        exact Dict.sorted_modify _ _ h.devices
      · intro id record hmem
        simp only [RecordOp.apply, devices_putSingletons_some] at hmem
        obtain ⟨old, hold, hnew⟩ := Dict.mem_of_mem_modify hmem
        have hid : old.id = id := h.deviceId id old hold
        rcases hnew with rfl | rfl
        · exact hid
        · exact hid

theorem Keyed.find?_driver (h : Keyed r) {id : DriverId} {record : DriverRecord}
    (hfind : Dict.find? id r.drivers = some record) : record.id = id :=
  h.driverId id record (Dict.mem_of_find? hfind)

theorem Keyed.find?_device (h : Keyed r) {id : DeviceId} {record : DeviceRecord}
    (hfind : Dict.find? id r.devices = some record) : record.id = id :=
  h.deviceId id record (Dict.mem_of_find? hfind)

theorem Keyed.mem_drivers (h : Keyed r) {record : DriverRecord} :
    record ∈ Dict.values r.drivers ↔ Dict.find? record.id r.drivers = some record := by
  rw [Dict.mem_values]
  constructor
  · intro hex
    obtain ⟨id, hmem⟩ := hex
    obtain rfl := h.driverId id record hmem
    exact Dict.find?_of_mem h.drivers hmem
  · intro hfind
    exact ⟨record.id, Dict.mem_of_find? hfind⟩

theorem Keyed.mem_devices (h : Keyed r) {record : DeviceRecord} :
    record ∈ Dict.values r.devices ↔ Dict.find? record.id r.devices = some record := by
  rw [Dict.mem_values]
  constructor
  · intro hex
    obtain ⟨id, hmem⟩ := hex
    obtain rfl := h.deviceId id record hmem
    exact Dict.find?_of_mem h.devices hmem
  · intro hfind
    exact ⟨record.id, Dict.mem_of_find? hfind⟩

end Records

namespace Singletons

variable {s : Singletons}

theorem find?_setDriver (key id : DriverId) (v : Value) :
    Dict.find? id (s.setDriver key v).drivers =
      if key = id then some v else Dict.find? id s.drivers :=
  Dict.find?_insert key id v s.drivers

@[simp] theorem devices_setDriver (key : DriverId) (v : Value) :
    (s.setDriver key v).devices = s.devices := rfl

theorem find?_setDevice (key id : DeviceId) (v : Value) :
    Dict.find? id (s.setDevice key v).devices =
      if key = id then some v else Dict.find? id s.devices :=
  Dict.find?_insert key id v s.devices

theorem find?_removeDriver (key id : DriverId) :
    Dict.find? id (s.removeDriver key).drivers =
      if key = id then none else Dict.find? id s.drivers :=
  Dict.find?_erase key id s.drivers

theorem find?_removeDevice (key id : DeviceId) :
    Dict.find? id (s.removeDevice key).devices =
      if key = id then none else Dict.find? id s.devices :=
  Dict.find?_erase key id s.devices

theorem find?_drivers_commit (driver id : DriverId) (v : Value) (d : Option (DeviceId × Value)) :
    Dict.find? id (s.commit driver v d).drivers =
      if driver = id then some v else Dict.find? id s.drivers := by
  cases d <;> exact find?_setDriver driver id v

theorem find?_devices_commit (driver : DriverId) (v w : Value) (device id : DeviceId) :
    Dict.find? id (s.commit driver v (some (device, w))).devices =
      if device = id then some w else Dict.find? id s.devices :=
  find?_setDevice device id w

theorem driver_eq_ok {id : DriverId} {v : Value} :
    s.driver id = .ok v ↔ Dict.find? id s.drivers = some v := by
  unfold driver
  cases Dict.find? id s.drivers <;> simp

theorem device_eq_ok {id : DeviceId} {v : Value} :
    s.device id = .ok v ↔ Dict.find? id s.devices = some v := by
  unfold device
  cases Dict.find? id s.devices <;> simp

end Singletons

end DriverHub
