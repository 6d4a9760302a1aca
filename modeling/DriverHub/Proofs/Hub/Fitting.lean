import DriverHub.Proofs.Hub.Change
import DriverHub.Proofs.Schema.CarryOver

/-! Singletons that fit the sources of their drivers. What each source is found to be is fixed; then
every change keeps the singletons of valid drivers, and of their devices, in the shape of the
schemas. -/

namespace DriverHub

variable {E : Findings} {s s' : Singletons} {r r' : Records}

/-- What a run of a driver leaves behind has the shapes that the driver declares. -/
structure DriverInfo.Takes (info : DriverInfo) (left : Dict String Value) : Prop where
  driver : ∀ v, Dict.find? Template.driver.singleton left = some v → info.driverSchema.Conforms v
  device : ∀ v, Dict.find? Template.device.singleton left = some v → info.deviceSchema.Conforms v

namespace Findings

/-- A source turns out the same each time, its schemas are plain, and runs of it leave behind what
the schemas say. -/
structure Settled (E : Findings) : Prop where
  unique : ∀ id source e e', E.source id source e → E.source id source e' → e = e'
  driver_plain : ∀ id source info p warnings, E.source id source (.valid info p warnings) →
    info.driverSchema.Plain
  device_plain : ∀ id source info p warnings, E.source id source (.valid info p warnings) →
    info.deviceSchema.Plain
  takes : ∀ id source info p warnings unit left, E.source id source (.valid info p warnings) →
    E.Serves unit p.id source → E.left unit left → info.Takes left

/-- A value that the singleton of a driver with this source may have. -/
structure DriverFits (E : Findings) (id : DriverId) (source : String) (v : Value) : Prop where
  tame : v.Tame
  conforms : ∀ info p warnings, E.source id source (.valid info p warnings) →
    info.driverSchema.Conforms v

/-- A value that the singletons of its devices may have. -/
structure DeviceFits (E : Findings) (id : DriverId) (source : String) (v : Value) : Prop where
  tame : v.Tame
  conforms : ∀ info p warnings, E.source id source (.valid info p warnings) →
    info.deviceSchema.Conforms v

variable {id : DriverId} {source : String} {info : DriverInfo} {p : Program}
  {warnings : List Diagnostic} {v : Value}

theorem Settled.driverFits (hE : E.Settled) (found : E.source id source (.valid info p warnings))
    (h : info.driverSchema.Conforms v) : E.DriverFits id source v := by
  refine ⟨Schema.tame_of_conforms _ (hE.driver_plain _ _ _ _ _ found) h, ?_⟩
  intro info' p' warnings' found'
  cases hE.unique _ _ _ _ found found'
  exact h

theorem Settled.deviceFits (hE : E.Settled) (found : E.source id source (.valid info p warnings))
    (h : info.deviceSchema.Conforms v) : E.DeviceFits id source v := by
  refine ⟨Schema.tame_of_conforms _ (hE.device_plain _ _ _ _ _ found) h, ?_⟩
  intro info' p' warnings' found'
  cases hE.unique _ _ _ _ found found'
  exact h

theorem Settled.driverFits_invalid (hE : E.Settled) {diagnostics : List Diagnostic}
    (found : E.source id source (.invalid diagnostics)) (h : v.Tame) : E.DriverFits id source v := by
  refine ⟨h, fun info p warnings found' => ?_⟩
  cases hE.unique _ _ _ _ found found'

theorem Settled.deviceFits_invalid (hE : E.Settled) {diagnostics : List Diagnostic}
    (found : E.source id source (.invalid diagnostics)) (h : v.Tame) : E.DeviceFits id source v := by
  refine ⟨h, fun info p warnings found' => ?_⟩
  cases hE.unique _ _ _ _ found found'

end Findings

/-- The source of each driver has been looked at, and all singletons fit. -/
structure Fitting (E : Findings) (s : Singletons) (r : Records) : Prop where
  sources : ∀ id source, r.source? id = some source → ∃ e, E.source id source e
  drivers : ∀ id source v, r.source? id = some source → Dict.find? id s.drivers = some v →
    E.DriverFits id source v
  devices : ∀ k id source v, r.owner? k = some id → r.source? id = some source →
    Dict.find? k s.devices = some v → E.DeviceFits id source v

namespace Fitting

theorem empty : Fitting E {} {} := ⟨nofun, nofun, nofun⟩

theorem of_records (h : Fitting E s r) (hsource : ∀ id, r'.source? id = r.source? id)
    (howner : ∀ k, r'.owner? k = r.owner? k) : Fitting E s r' := by
  refine ⟨fun id source hid => ?_, fun id source v hid hv => ?_, fun k id source v hk hid hv => ?_⟩
  · exact h.sources id source (hsource id ▸ hid)
  · exact h.drivers id source v (hsource id ▸ hid) hv
  · exact h.devices k id source v (howner k ▸ hk) (hsource id ▸ hid) hv

theorem setDriver (h : Fitting E s r) {id : DriverId} {v : Value}
    (hfits : ∀ source, r.source? id = some source → E.DriverFits id source v) :
    Fitting E (s.setDriver id v) r := by
  refine { h with drivers := fun id' source w hid hw => ?_ }
  rw [Singletons.find?_setDriver] at hw
  split at hw
  · next heq =>
    subst heq
    cases hw
    exact hfits source hid
  · exact h.drivers id' source w hid hw

theorem setDevice (h : Fitting E s r) {k : DeviceId} {v : Value}
    (hfits : ∀ id source, r.owner? k = some id → r.source? id = some source →
      E.DeviceFits id source v) : Fitting E (s.setDevice k v) r := by
  refine { h with devices := fun k' id source w hk hid hw => ?_ }
  rw [Singletons.find?_setDevice] at hw
  split at hw
  · next heq =>
    subst heq
    cases hw
    exact hfits id source hk hid
  · exact h.devices k' id source w hk hid hw

/-- One driver gets a source. Its singletons have to fit it, and all other singletons stay. -/
theorem of_source (h : Fitting E s r) {key : DriverId} {source : String} {e : Extraction}
    (found : E.source key source e)
    (hsource : ∀ id, r'.source? id = if key = id then some source else r.source? id)
    (howner : ∀ k, r'.owner? k = r.owner? k)
    (hdriver : ∀ v, Dict.find? key s'.drivers = some v → E.DriverFits key source v)
    (hdrivers : ∀ id, key ≠ id → Dict.find? id s'.drivers = Dict.find? id s.drivers)
    (hdevice : ∀ k v, r.owner? k = some key → Dict.find? k s'.devices = some v →
      E.DeviceFits key source v)
    (hdevices : ∀ k, r.owner? k ≠ some key → Dict.find? k s'.devices = Dict.find? k s.devices) :
    Fitting E s' r' := by
  constructor
  · intro id source' hid
    rw [hsource] at hid
    split at hid
    · next heq =>
      cases heq
      cases hid
      exact ⟨e, found⟩
    · exact h.sources id source' hid
  · intro id source' v hid hv
    rw [hsource] at hid
    split at hid
    · next heq =>
      cases heq
      cases hid
      exact hdriver v hv
    · next hne =>
      rw [hdrivers id hne] at hv
      exact h.drivers id source' v hid hv
  · intro k id source' v hk hid hv
    rw [howner] at hk
    rw [hsource] at hid
    split at hid
    · next heq =>
      cases heq
      cases hid
      exact hdevice k v hk hv
    · next hne =>
      have hother : r.owner? k ≠ some key := by
        rw [hk]
        exact fun heq => hne (Option.some.inj heq).symm
      rw [hdevices k hother] at hv
      exact h.devices k id source' v hk hid hv

theorem newDriver (h : Fitting E s r) (ha : Agree s r) (hE : E.Settled) {driver : DriverRecord}
    {e : Extraction} (fresh : Dict.find? driver.id r.drivers = none)
    (found : E.source driver.id driver.source e) :
    Fitting E (s.setDriver driver.id e.firstValue)
      (r.putDriver { driver with singleton := some e.firstValue.toJson }) := by
  have hfirst : E.DriverFits driver.id driver.source e.firstValue := by
    cases e with
    | valid info p warnings =>
      exact hE.driverFits found (Schema.conforms_zero _ (hE.driver_plain _ _ _ _ _ found).distinct)
    | invalid diagnostics =>
      refine hE.driverFits_invalid found (.object .nil ?_)
      intro name v hmem
      cases hmem
  refine h.of_source found (Records.source?_putDriver _) (fun _ => rfl) ?_ ?_ ?_ (fun _ _ => rfl)
  · intro v hv
    rw [Singletons.find?_setDriver, if_pos rfl] at hv
    cases hv
    exact hfirst
  · intro id hne
    rw [Singletons.find?_setDriver, if_neg hne]
  · -- a driver that was not recorded has no devices
    intro k v hk _
    obtain ⟨device, hdevice, howner⟩ := Option.map_eq_some_iff.1 hk
    obtain ⟨owner, hfind⟩ := ha.owners k device hdevice
    rw [howner, fresh] at hfind
    cases hfind

theorem invalidCode (h : Fitting E s r) (hE : E.Settled) {old : DriverRecord} {source : String}
    {diagnostics : List Diagnostic} (recorded : Dict.find? old.id r.drivers = some old)
    (found : E.source old.id source (.invalid diagnostics)) :
    Fitting E s (r.putDriver { old with source }) := by
  have hbefore := Records.source?_of_find? recorded
  refine h.of_source found (Records.source?_putDriver _) (fun _ => rfl) ?_ (fun _ _ => rfl) ?_
    (fun _ _ => rfl)
  · intro v hv
    exact hE.driverFits_invalid found (h.drivers _ _ v hbefore hv).tame
  · intro k v hk hv
    exact hE.deviceFits_invalid found (h.devices k _ _ v hk hbefore hv).tame

theorem validCode (h : Fitting E s r) (ha : Agree s r) (hE : E.Settled) {old : DriverRecord}
    {source : String} {info : DriverInfo} {p : Program} {warnings : List Diagnostic} {v w : Value}
    {schemaless : Bool} {record : DriverRecord} (recorded : Dict.find? old.id r.drivers = some old)
    (current : Dict.find? old.id s.drivers = some v)
    (found : E.source old.id source (.valid info p warnings)) (hsource : record.source = source)
    (carried : w = info.driverSchema.carryOver v old.singleton schemaless)
    (hs' : s'.drivers = Dict.insert old.id w s.drivers)
    (hr' : r'.drivers = Dict.insert old.id record r.drivers)
    (hc : CarriedOver old.id info.deviceSchema schemaless s s' r r') : Fitting E s' r' := by
  have hbefore := Records.source?_of_find? recorded
  have hnew : ∀ id, r'.source? id = if old.id = id then some source else r.source? id := by
    intro id
    unfold Records.source?
    rw [hr', Dict.find?_insert]
    split
    · rw [Option.map_some, hsource]
    · rfl
  refine h.of_source found hnew (ha.owner?_carriedOver hc) ?_ ?_ ?_ ?_
  · intro u hu
    rw [hs', Dict.find?_insert, if_pos rfl] at hu
    cases hu
    obtain ⟨v', hv', hsaved⟩ := ha.exists_driver recorded
    rw [current] at hv'
    cases hv'
    rw [carried, hsaved]
    exact hE.driverFits found (Schema.conforms_carryOver (hE.driver_plain _ _ _ _ _ found)
      (h.drivers _ _ v hbefore current).tame schemaless)
  · intro id hne
    rw [hs', Dict.find?_insert, if_neg hne]
  · intro k u hk hu
    obtain ⟨device, hdevice, hdriver⟩ := Option.map_eq_some_iff.1 hk
    obtain ⟨v', hv', hsaved⟩ := ha.exists_device hdevice
    obtain ⟨hcarried, -⟩ := hc.own k device v' hdevice hdriver hv'
    rw [hu, hsaved] at hcarried
    cases hcarried
    exact hE.deviceFits found (Schema.conforms_carryOver (hE.device_plain _ _ _ _ _ found)
      (h.devices k _ _ v' hk hbefore hv').tame schemaless)
  · intro k hk
    refine (hc.others k ?_).1
    intro device hdevice hdriver
    exact hk (hdriver ▸ Records.owner?_of_find? hdevice)

theorem noDriver (h : Fitting E s r) {id : DriverId} :
    Fitting E (s.removeDriver id) (r.deleteDriver id) := by
  have hkept : ∀ id' source, (r.deleteDriver id).source? id' = some source →
      id ≠ id' ∧ r.source? id' = some source := by
    intro id' source hid
    rw [Records.source?_deleteDriver] at hid
    split at hid
    · cases hid
    · next hne => exact ⟨hne, hid⟩
  refine ⟨fun id' source hid => ?_, fun id' source v hid hv => ?_, fun k id' source v hk hid hv => ?_⟩
  · exact h.sources id' source (hkept id' source hid).2
  · rw [Singletons.find?_removeDriver, if_neg (hkept id' source hid).1] at hv
    exact h.drivers id' source v (hkept id' source hid).2 hv
  · exact h.devices k id' source v hk (hkept id' source hid).2 hv

theorem putDevice (h : Fitting E s r) {device : DeviceRecord} {v : Value}
    (hfits : ∀ source, r.source? device.driver = some source → E.DeviceFits device.driver source v) :
    Fitting E (s.setDevice device.id v) (r.putDevice { device with singleton := some v.toJson }) := by
  refine ⟨h.sources, h.drivers, fun k id source w hk hid hw => ?_⟩
  rw [Records.owner?_putDevice] at hk
  rw [Singletons.find?_setDevice] at hw
  split at hk
  · next heq =>
    cases heq
    cases hk
    rw [if_pos rfl] at hw
    cases hw
    exact hfits source hid
  · next hne =>
    rw [if_neg hne] at hw
    exact h.devices k id source w hk hid hw

theorem noDevice (h : Fitting E s r) (id : DeviceId) :
    Fitting E (s.removeDevice id) (r.deleteDevice id) := by
  refine ⟨h.sources, h.drivers, fun k id' source w hk hid hw => ?_⟩
  rw [Records.owner?_deleteDevice] at hk
  rw [Singletons.find?_removeDevice] at hw
  split at hk
  · cases hk
  · next hne =>
    rw [if_neg hne] at hw
    exact h.devices k id' source w hk hid hw

theorem called (h : Fitting E s r) (hE : E.Settled) (hk : r.Keyed) {t : Target}
    {prepared : PreparedDriver} {left : Dict String Value} {v : Value}
    {d : Option (DeviceId × Value)} (ready : t.Ready E r prepared)
    (completed : E.left prepared.unit left)
    (taken : t.leftBy prepared.unit.program left = .ok (v, d)) :
    Fitting E (s.commit t.driver v d) (t.save v d r) := by
  obtain ⟨driver, hdriver, hprepared⟩ := ready.driver
  obtain ⟨warnings, found⟩ := hprepared.source
  have htakes := hE.takes _ _ _ _ _ _ _ found hprepared.unit completed
  obtain ⟨hv, hd, hw⟩ := Target.leftBy_eq_ok taken
  have hid := hk.find?_driver hdriver
  have hsource := Records.source?_of_find? hdriver
  rw [hid] at found
  have hfits : Fitting E (s.setDriver t.driver v) r := by
    refine h.setDriver fun source hs => ?_
    rw [hsource] at hs
    cases hs
    exact hE.driverFits found (htakes.driver v hv)
  have hcommitted : Fitting E (s.commit t.driver v d) r := by
    cases d with
    | none => exact hfits
    | some d =>
      obtain ⟨k, w⟩ := d
      obtain ⟨device, hdevice, howner⟩ := ready.recorded.device k hd.symm
      refine hfits.setDevice fun id source hk' hs => ?_
      rw [Records.owner?_of_find? hdevice, howner] at hk'
      cases hk'
      rw [hsource] at hs
      cases hs
      exact hE.deviceFits found (htakes.device w (hw k w rfl))
  exact hcommitted.of_records (Records.source?_putSingletons _ _ _) (Records.owner?_putSingletons _ _ _)

theorem change (h : Fitting E s r) (ha : Agree s r) (hk : r.Keyed) (hE : E.Settled)
    (hchange : Change E s r s' r') : Fitting E s' r' := by
  cases hchange with
  | nothing => exact h
  | newDriver fresh found => exact h.newDriver ha hE fresh found
  | invalidCode recorded found => exact h.invalidCode hE recorded found
  | validCode recorded current _ found carried value record devices =>
    exact h.validCode ha hE recorded current found rfl carried value record devices
  | noDriver => exact h.noDriver
  | @newDevice device driver _ _ _ _ owner found =>
    refine h.putDevice fun source hs => ?_
    rw [Records.source?_of_find? owner] at hs
    cases hs
    rw [hk.find?_driver owner] at found
    exact hE.deviceFits found (Schema.conforms_zero _ (hE.device_plain _ _ _ _ _ found).distinct)
  | noDevice => exact h.noDevice _
  | configuredDriver recorded found decoded =>
    have hfits := h.setDriver fun source hs => by
      rw [Records.source?_of_find? recorded] at hs
      cases hs
      exact hE.driverFits found (Schema.conforms_of_decode _
        (hE.driver_plain _ _ _ _ _ found).distinct decoded)
    exact hfits.of_records (Records.source?_putSingletons _ _ _) (Records.owner?_putSingletons _ _ _)
  | configuredDevice _ owner found decoded =>
    refine h.putDevice fun source hs => ?_
    rw [Records.source?_of_find? owner] at hs
    cases hs
    rw [hk.find?_driver owner] at found
    exact hE.deviceFits found (Schema.conforms_of_decode _
      (hE.device_plain _ _ _ _ _ found).distinct decoded)
  | called ready completed taken => exact h.called hE hk ready completed taken

end Fitting

end DriverHub
