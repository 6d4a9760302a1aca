import DriverHub.Hub.Loading
import DriverHub.Proofs.Hub.Fitting

/-! Loading the records of a hub whose singletons fit: the singletons of valid drivers come back as
they were, and nothing is migrated. -/

namespace DriverHub

variable {host : Host} {E : Findings} {s : Singletons} {l l' : LiveState} {r : Records}

namespace Records.Keyed

theorem nodup_drivers (hk : r.Keyed) : ((Dict.values r.drivers).map (·.id)).Nodup := by
  have hids : (Dict.values r.drivers).map (·.id) = r.drivers.map (·.1) := by
    unfold Dict.values
    rw [List.map_map]
    exact List.map_congr_left fun e he => hk.driverId e.1 e.2 he
  rw [hids]
  exact Dict.nodup_keys hk.drivers

theorem nodup_devices (hk : r.Keyed) : ((Dict.values r.devices).map (·.id)).Nodup := by
  have hids : (Dict.values r.devices).map (·.id) = r.devices.map (·.1) := by
    unfold Dict.values
    rw [List.map_map]
    exact List.map_congr_left fun e he => hk.deviceId e.1 e.2 he
  rw [hids]
  exact Dict.nodup_keys hk.devices

theorem exists_of_source? (hk : r.Keyed) {id : DriverId} {source : String}
    (h : r.source? id = some source) :
    ∃ driver ∈ Dict.values r.drivers, driver.id = id ∧ driver.source = source := by
  obtain ⟨driver, hfind, hsource⟩ := Option.map_eq_some_iff.1 h
  exact ⟨driver, Dict.mem_values.2 ⟨id, Dict.mem_of_find? hfind⟩, hk.find?_driver hfind, hsource⟩

theorem exists_of_owner? (hk : r.Keyed) {k : DeviceId} {id : DriverId} (h : r.owner? k = some id) :
    ∃ device ∈ Dict.values r.devices, device.id = k ∧ device.driver = id := by
  obtain ⟨device, hfind, howner⟩ := Option.map_eq_some_iff.1 h
  exact ⟨device, Dict.mem_values.2 ⟨k, Dict.mem_of_find? hfind⟩, hk.find?_device hfind, howner⟩

theorem ne_of_source? (hk : r.Keyed) {id : DriverId} (h : r.source? id = none) :
    ∀ driver ∈ Dict.values r.drivers, driver.id ≠ id := by
  rintro driver hmem rfl
  rw [Records.source?_of_find? (hk.mem_drivers.1 hmem)] at h
  cases h

theorem ne_of_owner? (hk : r.Keyed) {k : DeviceId} (h : r.owner? k = none) :
    ∀ device ∈ Dict.values r.devices, device.id ≠ k := by
  rintro device hmem rfl
  rw [Records.owner?_of_find? (hk.mem_devices.1 hmem)] at h
  cases h

end Records.Keyed

namespace Work

theorem ensures_bringBack (kind name : String) {schema : Schema} (hplain : schema.Plain) {v : Value}
    (h : schema.Conforms v) (Q : Except HubError (Value × Bool) → LiveState → Records → Prop) :
    (bringBack kind name schema (some v.toJson)).Ensures host.Answers l r Q ↔
      Q (.ok (v, false)) l r := by
  unfold bringBack
  rw [Schema.restore_toJson hplain h]
  rfl

end Work

/-- Whatever a source was found to be, it is found to be again. -/
structure Findings.Reveals (E : Findings) (host : Host) : Prop where
  source : ∀ (id : DriverId) source analysis, host.analyzes id.programId source (.ok analysis) →
    E.source id source analysis.extraction
  answers : ∀ (id : DriverId) source e error, E.source id source e →
    ¬ host.analyzes id.programId source (.error error)

/-- A driver is back: as it was if it is valid, and as its saved tree reads without a schema if not.
-/
structure DriverBack (E : Findings) (s : Singletons) (driver : DriverRecord) (infos infos' : KnownInfos)
    (s' : Singletons) : Prop where
  valid : ∀ info p warnings, E.source driver.id driver.source (.valid info p warnings) →
    Dict.find? driver.id infos' = some info ∧
    Dict.find? driver.id s'.drivers = Dict.find? driver.id s.drivers
  invalid : ∀ diagnostics, E.source driver.id driver.source (.invalid diagnostics) →
    Dict.find? driver.id infos' = Dict.find? driver.id infos ∧
    Dict.find? driver.id s'.drivers =
      (Dict.find? driver.id s.drivers).map fun v => .ofJson v.toJson

/-- All these drivers are back, and all else is as before. -/
structure DriversBack (E : Findings) (s : Singletons) (drivers : List DriverRecord)
    (infos infos' : KnownInfos) (report report' : LoadReport) (l l' : LiveState) : Prop where
  catalog : E.In l'.catalog
  devices : l'.singletons.devices = l.singletons.devices
  migrated : report'.migrated = report.migrated
  invalid : ∀ id, id ∈ report'.invalid ↔ id ∈ report.invalid ∨
    ∃ driver ∈ drivers, driver.id = id ∧ ∃ diagnostics, E.source id driver.source (.invalid diagnostics)
  back : ∀ driver ∈ drivers, DriverBack E s driver infos infos' l'.singletons
  others : ∀ id, (∀ driver ∈ drivers, driver.id ≠ id) → Dict.find? id infos' = Dict.find? id infos ∧
    Dict.find? id l'.singletons.drivers = Dict.find? id l.singletons.drivers

/-- One driver comes back, and then the rest. -/
theorem DriversBack.cons {driver : DriverRecord} {rest : List DriverRecord}
    {infos infos₁ infos' : KnownInfos} {report report₁ report' : LoadReport} {l₁ : LiveState}
    (h : DriversBack E s rest infos₁ infos' report₁ report' l₁ l')
    (hnotin : driver.id ∉ rest.map (·.id)) (hfirst : DriverBack E s driver infos infos₁ l₁.singletons)
    (hothers : ∀ id, driver.id ≠ id → Dict.find? id infos₁ = Dict.find? id infos ∧
      Dict.find? id l₁.singletons.drivers = Dict.find? id l.singletons.drivers)
    (hdevices : l₁.singletons.devices = l.singletons.devices)
    (hmigrated : report₁.migrated = report.migrated)
    (hinvalid : ∀ id, id ∈ report₁.invalid ↔ id ∈ report.invalid ∨
      driver.id = id ∧ ∃ diagnostics, E.source id driver.source (.invalid diagnostics)) :
    DriversBack E s (driver :: rest) infos infos' report report' l l' := by
  have hne : ∀ d ∈ rest, d.id ≠ driver.id := by
    intro d hd hid
    exact hnotin (List.mem_map.2 ⟨d, hd, hid⟩)
  obtain ⟨hinfos, hdrivers⟩ := h.others driver.id hne
  refine ⟨h.catalog, h.devices.trans hdevices, h.migrated.trans hmigrated, ?_, ?_, ?_⟩
  · intro id
    rw [h.invalid, hinvalid, or_assoc, List.exists_mem_cons_iff]
  · intro d hd
    rcases List.mem_cons.1 hd with rfl | hd
    · constructor
      · intro info p warnings found
        rw [hinfos, hdrivers]
        exact hfirst.valid info p warnings found
      · intro diagnostics found
        rw [hinfos, hdrivers]
        exact hfirst.invalid diagnostics found
    · refine { h.back d hd with invalid := fun diagnostics found => ?_ }
      obtain ⟨hinfo, hvalue⟩ := (h.back d hd).invalid diagnostics found
      exact ⟨hinfo.trans (hothers d.id (hne d hd).symm).1, hvalue⟩
  · intro id hid
    have hid' := hid driver List.mem_cons_self
    obtain ⟨hinfo, hvalue⟩ := h.others id fun d hd => hid d (List.mem_cons_of_mem _ hd)
    exact ⟨hinfo.trans (hothers id hid').1, hvalue.trans (hothers id hid').2⟩

section

variable {driver : DriverRecord} {rest : List DriverRecord} {infos infos' : KnownInfos}
  {report report₁ report' : LoadReport} {l₁ : LiveState} {v : Value}

theorem DriversBack.cons_valid {info : DriverInfo} {p : Program} {warnings : List Diagnostic}
    (h : DriversBack E s rest (Dict.insert driver.id info infos) infos' report₁ report'
      { l₁ with singletons := l₁.singletons.setDriver driver.id v } l')
    (hsettled : E.Settled) (found : E.source driver.id driver.source (.valid info p warnings))
    (hv : Dict.find? driver.id s.drivers = some v) (hs : l₁.singletons = l.singletons)
    (hnotin : driver.id ∉ rest.map (·.id)) (hmigrated : report₁.migrated = report.migrated)
    (hinvalid : report₁.invalid = report.invalid) :
    DriversBack E s (driver :: rest) infos infos' report report' l l' := by
  refine h.cons hnotin ⟨?_, ?_⟩ ?_ ?_ hmigrated ?_
  · intro info' p' warnings' found'
    cases hsettled.unique _ _ _ _ found found'
    rw [Dict.find?_insert, if_pos rfl, Singletons.find?_setDriver, if_pos rfl, hv]
    exact ⟨rfl, rfl⟩
  · intro diagnostics found'
    cases hsettled.unique _ _ _ _ found found'
  · intro id hid
    rw [Dict.find?_insert, if_neg hid, Singletons.find?_setDriver, if_neg hid, hs]
    exact ⟨rfl, rfl⟩
  · rw [Singletons.devices_setDriver, hs]
  · intro id
    rw [hinvalid]
    refine ⟨fun hin => .inl hin, ?_⟩
    intro hor
    rcases hor with hin | ⟨rfl, diagnostics, found'⟩
    · exact hin
    · cases hsettled.unique _ _ _ _ found found'

theorem DriversBack.cons_invalid {diagnostics : List Diagnostic}
    (h : DriversBack E s rest infos infos' report₁ report'
      { l₁ with singletons := l₁.singletons.setDriver driver.id (.ofJson v.toJson) } l')
    (hsettled : E.Settled) (found : E.source driver.id driver.source (.invalid diagnostics))
    (hv : Dict.find? driver.id s.drivers = some v) (hs : l₁.singletons = l.singletons)
    (hnotin : driver.id ∉ rest.map (·.id)) (hmigrated : report₁.migrated = report.migrated)
    (hinvalid : report₁.invalid = report.invalid ++ [driver.id]) :
    DriversBack E s (driver :: rest) infos infos' report report' l l' := by
  refine h.cons hnotin ⟨?_, ?_⟩ ?_ ?_ hmigrated ?_
  · intro info' p' warnings' found'
    cases hsettled.unique _ _ _ _ found found'
  · intro diagnostics' _
    rw [Singletons.find?_setDriver, if_pos rfl, hv]
    exact ⟨rfl, rfl⟩
  · intro id hid
    rw [Singletons.find?_setDriver, if_neg hid, hs]
    exact ⟨rfl, rfl⟩
  · rw [Singletons.devices_setDriver, hs]
  · intro id
    rw [hinvalid, List.mem_append, List.mem_singleton]
    constructor
    · intro hor
      rcases hor with hin | rfl
      · exact .inl hin
      · exact .inr ⟨rfl, diagnostics, found⟩
    · intro hor
      rcases hor with hin | ⟨rfl, -⟩
      · exact .inl hin
      · exact .inr rfl

end

namespace Work

theorem ensures_loadDrivers (hE : E.Reveals host) (hsettled : E.Settled) (ha : Agree s r)
    (hfit : Fitting E s r)
    (drivers : List DriverRecord) (hl : E.In l.catalog)
    (hrecorded : ∀ driver ∈ drivers, Dict.find? driver.id r.drivers = some driver)
    (hnodup : (drivers.map (·.id)).Nodup) (infos : KnownInfos) (report : LoadReport) :
    (loadDrivers infos report drivers).Ensures host.Answers l r fun x l' r' => r' = r ∧
      ∃ infos' report', x = .ok (infos', report') ∧
        DriversBack E s drivers infos infos' report report' l l' := by
  induction drivers generalizing l infos report with
  | nil => exact ⟨rfl, infos, report, rfl, hl, rfl, rfl, by simp, nofun, fun _ _ => ⟨rfl, rfl⟩⟩
  | cons driver rest ih =>
    obtain ⟨hnotin, hnodup⟩ := List.nodup_cons.1 hnodup
    have hrest := fun {l : LiveState} (hl : E.In l.catalog) => ih hl
      (fun d hd => hrecorded d (List.mem_cons_of_mem _ hd)) hnodup
    have hfind := hrecorded driver List.mem_cons_self
    have hsource := Records.source?_of_find? hfind
    obtain ⟨v, hv, hsaved⟩ := ha.exists_driver hfind
    have hfits := hfit.drivers _ _ v hsource hv
    unfold loadDrivers
    simp only
    refine Attempt.Ensures.bind (DriverRecord.ensures_extraction (fun _ => hE.source _ _ _) hl) ?_ ?_
    · intro e l₁ r₁ hend
      obtain ⟨⟨hs, rfl, hl₁⟩, hx⟩ := hend
      have found : E.source driver.id driver.source e := by
        rcases hx with ⟨_, ⟨⟩, found⟩ | ⟨_, ⟨⟩, -⟩
        exact found
      cases e with
      | valid info p warnings =>
        simp only [Extraction.info?]
        rw [hsaved, Attempt.ensures_bind,
          ensures_bringBack _ _ (hsettled.driver_plain _ _ _ _ _ found) (hfits.conforms _ _ _ found)]
        simp only
        rw [ensures_setDriver]
        refine (hrest (by exact hl₁) _ _).mono ?_
        intro x l' r' hend
        obtain ⟨rfl, infos', report', rfl, hback⟩ := hend
        exact ⟨rfl, infos', report', rfl, hback.cons_valid hsettled found hv hs hnotin rfl rfl⟩
      | invalid diagnostics =>
        simp only [Extraction.info?]
        rw [Attempt.ensures_bind, Attempt.ensures_report]
        simp only
        rw [ensures_setDriver]
        refine (hrest (by exact hl₁) _ _).mono ?_
        intro x l' r' hend
        obtain ⟨rfl, infos', report', rfl, hback⟩ := hend
        rw [hsaved] at hback
        exact ⟨rfl, infos', report', rfl, hback.cons_invalid hsettled found hv hs hnotin rfl rfl⟩
    · intro e l₁ r₁ hend
      obtain ⟨⟨hs, rfl, hl₁⟩, hx⟩ := hend
      rcases hx with ⟨_, ⟨⟩, -⟩ | ⟨e, -, herror⟩
      obtain ⟨e', found⟩ := hfit.sources _ _ hsource
      exact (hE.answers _ _ _ _ found herror).elim

end Work

/-- A device is back, as its driver is. -/
structure DeviceBack (E : Findings) (s : Singletons) (r : Records) (device : DeviceRecord)
    (s' : Singletons) : Prop where
  valid : ∀ source info p warnings, r.source? device.driver = some source →
    E.source device.driver source (.valid info p warnings) →
    Dict.find? device.id s'.devices = Dict.find? device.id s.devices
  invalid : ∀ source diagnostics, r.source? device.driver = some source →
    E.source device.driver source (.invalid diagnostics) →
    Dict.find? device.id s'.devices = (Dict.find? device.id s.devices).map fun v => .ofJson v.toJson

structure DevicesBack (E : Findings) (s : Singletons) (r : Records) (devices : List DeviceRecord)
    (report report' : LoadReport) (l l' : LiveState) : Prop where
  catalog : E.In l'.catalog
  drivers : l'.singletons.drivers = l.singletons.drivers
  migrated : report'.migrated = report.migrated
  invalid : report'.invalid = report.invalid
  back : ∀ device ∈ devices, DeviceBack E s r device l'.singletons
  others : ∀ k, (∀ device ∈ devices, device.id ≠ k) →
    Dict.find? k l'.singletons.devices = Dict.find? k l.singletons.devices

theorem DevicesBack.cons {device : DeviceRecord} {rest : List DeviceRecord}
    {report report₁ report' : LoadReport} {v : Value}
    (h : DevicesBack E s r rest report₁ report'
      { l with singletons := l.singletons.setDevice device.id v } l')
    (hnotin : device.id ∉ rest.map (·.id))
    (hfirst : DeviceBack E s r device (l.singletons.setDevice device.id v))
    (hmigrated : report₁.migrated = report.migrated) (hinvalid : report₁.invalid = report.invalid) :
    DevicesBack E s r (device :: rest) report report' l l' := by
  have hkept := h.others device.id fun d hd hid => hnotin (List.mem_map.2 ⟨d, hd, hid⟩)
  refine ⟨h.catalog, h.drivers, h.migrated.trans hmigrated, h.invalid.trans hinvalid, ?_, ?_⟩
  · intro d hd
    rcases List.mem_cons.1 hd with rfl | hd
    · constructor
      · intro source info p warnings hsource found
        rw [hkept]
        exact hfirst.valid source info p warnings hsource found
      · intro source diagnostics hsource found
        rw [hkept]
        exact hfirst.invalid source diagnostics hsource found
    · exact h.back d hd
  · intro k hk
    rw [h.others k fun d hd => hk d (List.mem_cons_of_mem _ hd), Singletons.find?_setDevice,
      if_neg (hk device List.mem_cons_self)]

/-- The schemas that are known are those of the valid drivers. -/
structure KnownInfos.Of (E : Findings) (r : Records) (infos : KnownInfos) : Prop where
  valid : ∀ id source info p warnings, r.source? id = some source →
    E.source id source (.valid info p warnings) → Dict.find? id infos = some info
  invalid : ∀ id source diagnostics, r.source? id = some source →
    E.source id source (.invalid diagnostics) → Dict.find? id infos = none

namespace Work

theorem ensures_loadDevices (hsettled : E.Settled) (ha : Agree s r) (hfit : Fitting E s r)
    {infos : KnownInfos} (hinfos : infos.Of E r) (devices : List DeviceRecord)
    (hl : E.In l.catalog)
    (hrecorded : ∀ device ∈ devices, Dict.find? device.id r.devices = some device)
    (hnodup : (devices.map (·.id)).Nodup) (report : LoadReport) :
    (loadDevices infos report devices).Ensures host.Answers l r fun x l' r' => r' = r ∧
      ∃ report', x = .ok report' ∧ DevicesBack E s r devices report report' l l' := by
  induction devices generalizing l report with
  | nil => exact ⟨rfl, report, rfl, hl, rfl, rfl, rfl, nofun, fun _ _ => rfl⟩
  | cons device rest ih =>
    obtain ⟨hnotin, hnodup⟩ := List.nodup_cons.1 hnodup
    have hrest := fun {l : LiveState} (hl : E.In l.catalog) => ih hl
      (fun d hd => hrecorded d (List.mem_cons_of_mem _ hd)) hnodup
    have hfind := hrecorded device List.mem_cons_self
    obtain ⟨v, hv, hsaved⟩ := ha.exists_device hfind
    obtain ⟨driver, hdriver⟩ := ha.owners _ _ hfind
    have hsource := Records.source?_of_find? hdriver
    have howner := Records.owner?_of_find? hfind
    obtain ⟨e, found⟩ := hfit.sources _ _ hsource
    have hfits := hfit.devices _ _ _ v howner hsource hv
    unfold loadDevices
    simp only
    cases e with
    | valid info p warnings =>
      rw [hinfos.valid _ _ _ _ _ hsource found]
      simp only
      rw [hsaved, Attempt.ensures_bind,
        ensures_bringBack _ _ (hsettled.device_plain _ _ _ _ _ found) (hfits.conforms _ _ _ found)]
      simp only
      rw [ensures_setDevice]
      refine (hrest (by exact hl) _).mono ?_
      intro x l' r' hend
      obtain ⟨rfl, report', rfl, hback⟩ := hend
      refine ⟨rfl, report', rfl, hback.cons hnotin ⟨?_, ?_⟩ rfl rfl⟩
      · intro _ _ _ _ _ _
        rw [Singletons.find?_setDevice, if_pos rfl, hv]
      · intro source' diagnostics hsource' found'
        rw [hsource] at hsource'
        cases hsource'
        cases hsettled.unique _ _ _ _ found found'
    | invalid diagnostics =>
      rw [hinfos.invalid _ _ _ hsource found]
      simp only
      rw [ensures_setDevice]
      refine (hrest (by exact hl) _).mono ?_
      intro x l' r' hend
      obtain ⟨rfl, report', rfl, hback⟩ := hend
      refine ⟨rfl, report', rfl, hback.cons hnotin ⟨?_, ?_⟩ rfl rfl⟩
      · intro source' info p warnings hsource' found'
        rw [hsource] at hsource'
        cases hsource'
        cases hsettled.unique _ _ _ _ found found'
      · intro _ _ _ _
        rw [Singletons.find?_setDevice, if_pos rfl, hsaved, hv]
        rfl

end Work

/-- The singletons of the recorded drivers and devices are back, and no others are there. -/
structure Revived (E : Findings) (s : Singletons) (r : Records) (s' : Singletons) : Prop where
  valid_driver : ∀ id source info p warnings, r.source? id = some source →
    E.source id source (.valid info p warnings) →
    Dict.find? id s'.drivers = Dict.find? id s.drivers
  invalid_driver : ∀ id source diagnostics, r.source? id = some source →
    E.source id source (.invalid diagnostics) →
    Dict.find? id s'.drivers = (Dict.find? id s.drivers).map fun v => .ofJson v.toJson
  no_driver : ∀ id, r.source? id = none → Dict.find? id s'.drivers = none
  valid_device : ∀ k id source info p warnings, r.owner? k = some id → r.source? id = some source →
    E.source id source (.valid info p warnings) →
    Dict.find? k s'.devices = Dict.find? k s.devices
  invalid_device : ∀ k id source diagnostics, r.owner? k = some id → r.source? id = some source →
    E.source id source (.invalid diagnostics) →
    Dict.find? k s'.devices = (Dict.find? k s.devices).map fun v => .ofJson v.toJson
  no_device : ∀ k, r.owner? k = none → Dict.find? k s'.devices = none

section

variable {infos : KnownInfos} {report₁ report₂ : LoadReport} {l₁ l₂ : LiveState}

theorem DriversBack.known (hk : r.Keyed)
    (h : DriversBack E s (Dict.values r.drivers) [] infos {} report₁ l l₁) : infos.Of E r := by
  constructor
  · intro id source info p warnings hsource found
    obtain ⟨driver, hmem, rfl, rfl⟩ := hk.exists_of_source? hsource
    exact ((h.back driver hmem).valid info p warnings found).1
  · intro id source diagnostics hsource found
    obtain ⟨driver, hmem, rfl, rfl⟩ := hk.exists_of_source? hsource
    exact ((h.back driver hmem).invalid diagnostics found).1

theorem DriversBack.mem_invalid (hk : r.Keyed)
    (h : DriversBack E s (Dict.values r.drivers) [] infos {} report₁ l l₁) (id : DriverId) :
    id ∈ report₁.invalid ↔ ∃ source diagnostics, r.source? id = some source ∧
      E.source id source (.invalid diagnostics) := by
  rw [h.invalid]
  constructor
  · intro hor
    rcases hor with hin | ⟨driver, hmem, rfl, diagnostics, found⟩
    · cases hin
    · exact ⟨driver.source, diagnostics, Records.source?_of_find? (hk.mem_drivers.1 hmem), found⟩
  · intro hex
    obtain ⟨source, diagnostics, hsource, found⟩ := hex
    obtain ⟨driver, hmem, hid, rfl⟩ := hk.exists_of_source? hsource
    exact .inr ⟨driver, hmem, hid, diagnostics, found⟩

theorem DriversBack.revived (hk : r.Keyed) (hs : l.singletons = {})
    (h : DriversBack E s (Dict.values r.drivers) [] infos {} report₁ l l₁)
    (h' : DevicesBack E s r (Dict.values r.devices) report₁ report₂ l₁ l₂) :
    Revived E s r l₂.singletons := by
  refine ⟨?_, ?_, ?_, ?_, ?_, ?_⟩
  · intro id source info p warnings hsource found
    obtain ⟨driver, hmem, rfl, rfl⟩ := hk.exists_of_source? hsource
    rw [h'.drivers]
    exact ((h.back driver hmem).valid info p warnings found).2
  · intro id source diagnostics hsource found
    obtain ⟨driver, hmem, rfl, rfl⟩ := hk.exists_of_source? hsource
    rw [h'.drivers]
    exact ((h.back driver hmem).invalid diagnostics found).2
  · intro id hsource
    rw [h'.drivers, (h.others id (hk.ne_of_source? hsource)).2, hs]
    rfl
  · intro k id source info p warnings howner hsource found
    obtain ⟨device, hmem, rfl, rfl⟩ := hk.exists_of_owner? howner
    exact (h'.back device hmem).valid source info p warnings hsource found
  · intro k id source diagnostics howner hsource found
    obtain ⟨device, hmem, rfl, rfl⟩ := hk.exists_of_owner? howner
    exact (h'.back device hmem).invalid source diagnostics hsource found
  · intro k howner
    rw [h'.others k (hk.ne_of_owner? howner), h.devices, hs]
    rfl

end

theorem Work.ensures_load (hf : host.Faultless) (hE : E.Reveals host) (hsettled : E.Settled)
    (hk : r.Keyed) (ha : Agree s r) (hfit : Fitting E s r) (hs : l.singletons = {})
    (hl : E.In l.catalog) :
    load.Ensures host.Answers l r fun x l' r' => r' = r ∧ E.In l'.catalog ∧
      Revived E s r l'.singletons ∧ ∃ report ids, x = .ok (report, ids) ∧ report.migrated = 0 ∧
        ∀ id, id ∈ report.invalid ↔ ∃ source diagnostics, r.source? id = some source ∧
          E.source id source (.invalid diagnostics) := by
  have hdrivers : ∀ driver ∈ Dict.values r.drivers, Dict.find? driver.id r.drivers = some driver :=
    fun _ => hk.mem_drivers.1
  have hdevices : ∀ device ∈ Dict.values r.devices, Dict.find? device.id r.devices = some device :=
    fun _ => hk.mem_devices.1
  unfold load
  rw [ensures_record_faultless hf]
  refine Attempt.Ensures.bind (ensures_loadDrivers hE hsettled ha hfit (Dict.values r.drivers) hl
    hdrivers hk.nodup_drivers [] {}) ?_ ?_
  · intro loaded l₁ r₁ hend
    obtain ⟨rfl, infos, report₁, hx, hback⟩ := hend
    cases hx
    simp only
    rw [ensures_record_faultless hf]
    refine Attempt.Ensures.bind (ensures_loadDevices hsettled ha hfit (hback.known hk)
      (Dict.values r₁.devices) hback.catalog hdevices hk.nodup_devices report₁) ?_ ?_
    · intro report l₂ r₂ hend
      obtain ⟨rfl, report', hx, hback'⟩ := hend
      cases hx
      rw [Attempt.ensures_bind, Attempt.ensures_report]
      refine ⟨rfl, hback'.catalog, hback.revived hk hs hback', report, _, rfl, ?_, ?_⟩
      · rw [hback'.migrated, hback.migrated]
      · rw [hback'.invalid]
        exact hback.mem_invalid hk
    · intro e l₂ r₂ hend
      obtain ⟨-, _, h, -⟩ := hend
      cases h
  · intro e l₁ r₁ hend
    obtain ⟨-, _, _, h, -⟩ := hend
    cases h

end DriverHub
