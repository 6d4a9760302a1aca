import DriverHub.Proofs.Hub.Management

/-! What giving a driver new code comes to, where operations on records may fail. The devices are
saved one after another and the driver last, so if saving fails halfway, the records of some devices
are ahead of everything else. -/

namespace DriverHub

variable {host : Host} {E : Findings} {l l' : LiveState} {r r' : Records}

namespace Work

/-- The value of a device under another schema, by what is in memory and what is saved. -/
def carried (schema : Schema) (schemaless : Bool) (s : Singletons) (device : DeviceRecord) : Value :=
  schema.carryOver ((Dict.find? device.id s.devices).getD .null) device.singleton schemaless

theorem carried_of_find? {schema : Schema} {schemaless : Bool} {s : Singletons}
    {device : DeviceRecord} {v : Value}
    (hv : Dict.find? device.id s.devices = some v) :
    carried schema schemaless s device = schema.carryOver v device.singleton schemaless := by
  unfold carried
  rw [hv, Option.getD_some]

/-- The devices of a driver that are saved anew, each with its record. -/
def savedAnew (id : DriverId) (schema : Schema) (schemaless : Bool) (s : Singletons)
    (devices : List DeviceRecord) : List (DeviceId × DeviceRecord) :=
  (devices.filter (·.driver = id)).map fun device =>
    (device.id, { device with singleton := some (carried schema schemaless s device).toJson })

/-- The records when these devices of a driver are saved anew. -/
def saveAnew (id : DriverId) (schema : Schema) (schemaless : Bool) (s : Singletons)
    (devices : List DeviceRecord) (r : Records) : Records :=
  { r with devices := Dict.insertAll (savedAnew id schema schemaless s devices) r.devices }

/-- Why giving a driver new code may change nothing. -/
inductive Refused (host : Host) (id : DriverId) (source : String) (r : Records) : HubError → Prop
  | unknown (absent : Dict.find? id r.drivers = none) : Refused host id source r (.driverNotFound id)
  | engine {old : DriverRecord} {e : EngineError} (recorded : Dict.find? id r.drivers = some old)
      (failed : host.analyzes id.programId old.source (.error e) ∨
        host.analyzes id.programId source (.error e)) :
    Refused host id source r (.engine e)
  | record {op : RecordOp} {e : RecordError} (failed : host.faults op e) :
    Refused host id source r (.record e)

/-- How giving a driver new code may end, by the singletons and records that it finds. -/
inductive NewCode (host : Host) (E : Findings) (id : DriverId) (source : String) (s : Singletons)
    (r : Records) : Except HubError Extraction → LiveState → Records → Prop
  | refused {e : HubError} {l' : LiveState} (reason : Refused host id source r e)
      (catalog : E.In l'.catalog) (kept : l'.singletons = s) :
    NewCode host E id source s r (.error e) l' r
  | invalid {old : DriverRecord} {diagnostics : List Diagnostic} {l' : LiveState}
      (recorded : Dict.find? id r.drivers = some old)
      (found : E.source id source (.invalid diagnostics)) (catalog : E.In l'.catalog)
      (kept : l'.singletons = s) :
    NewCode host E id source s r (.ok (.invalid diagnostics)) l' (r.putDriver { old with source })
  | valid {old : DriverRecord} {before : Extraction} {info : DriverInfo} {program : Program}
      {warnings : List Diagnostic} {v w : Value} {l' : LiveState} {r' : Records}
      (recorded : Dict.find? id r.drivers = some old) (known : E.source id old.source before)
      (found : E.source id source (.valid info program warnings)) (catalog : E.In l'.catalog)
      (current : Dict.find? id s.drivers = some v)
      (carried : w = info.driverSchema.carryOver v old.singleton !before.isValid)
      (value : l'.singletons.drivers = Dict.insert id w s.drivers)
      (record : r'.drivers = Dict.insert id { old with source, singleton := some w.toJson } r.drivers)
      (devices : CarriedOver id info.deviceSchema (!before.isValid) s l'.singletons r r')
      (scripts : r'.scripts = r.scripts) :
    NewCode host E id source s r (.ok (.valid info program warnings)) l' r'
  /-- A write failed, and the devices before it are saved anew. -/
  | stopped {old : DriverRecord} {before : Extraction} {info : DriverInfo} {program : Program}
      {warnings : List Diagnostic} {moved : List DeviceRecord} {op : RecordOp} {e : RecordError}
      {l' : LiveState} (recorded : Dict.find? id r.drivers = some old)
      (known : E.source id old.source before)
      (found : E.source id source (.valid info program warnings)) (catalog : E.In l'.catalog)
      (first : moved <+: (Dict.values r.devices).filter (·.driver = id))
      (write : op.isRead = false) (failed : host.faults op e) (kept : l'.singletons = s) :
    NewCode host E id source s r (.error (.record e)) l'
      (saveAnew id info.deviceSchema (!before.isValid) s moved r)

/-- What is left to do once new code is found to be valid. -/
def upgrade (driver : DriverRecord) (info : DriverInfo) (schemaless : Bool) (e : Extraction) :
    Work Extraction := do
  let v := info.driverSchema.carryOver (← driverValue driver.id) driver.singleton schemaless
  let devices ← migrateDevices driver.id info.deviceSchema schemaless (← record .devices)
  record (.putDriver { driver with singleton := some v.toJson })
  .report (.info ("[" ++ driver.id.text ++ "] Applied new source, migrated " ++
    Digits.natText devices.length ++ " device(s)"))
  setDriver driver.id v
  setDevices devices
  return e

/-- Where each device of the driver has a singleton, they are saved under the new schema one after
another, until all are saved or a write fails. -/
theorem ensures_migrateDevices (id : DriverId) (schema : Schema) (schemaless : Bool)
    (devices : List DeviceRecord)
    (hkept : ∀ device ∈ devices, device.driver = id →
      ∃ v, Dict.find? device.id l.singletons.devices = some v) (r : Records) :
    (migrateDevices id schema schemaless devices).Ensures host.Answers l r fun x l' r' => l' = l ∧
      ((x = .ok ((devices.filter (·.driver = id)).map fun device =>
          (device.id, carried schema schemaless l.singletons device)) ∧
        r' = saveAnew id schema schemaless l.singletons devices r) ∨
      ∃ moved op e, x = .error (.record e) ∧ moved <+: devices.filter (·.driver = id) ∧
        op.isRead = false ∧ host.faults op e ∧
        r' = saveAnew id schema schemaless l.singletons moved r) := by
  induction devices generalizing r with
  | nil => exact ⟨rfl, .inl ⟨rfl, rfl⟩⟩
  | cons device rest ih =>
    have hrest := ih fun device hd => hkept device (List.mem_cons_of_mem _ hd)
    unfold migrateDevices
    by_cases howner : device.driver = id
    · obtain ⟨v, hv⟩ := hkept device List.mem_cons_self howner
      have hvalue : l.singletons.device device.id = .ok v := Singletons.device_eq_ok.2 hv
      have hcarried : carried schema schemaless l.singletons device =
          schema.carryOver v device.singleton schemaless := carried_of_find? hv
      have hfirst : (device :: rest).filter (·.driver = id) =
          device :: rest.filter (·.driver = id) := by simp [howner]
      -- saving this device and then others is saving all of them
      have hsave : ∀ others, saveAnew id schema schemaless l.singletons others
          (r.putDevice { device with
            singleton := some (carried schema schemaless l.singletons device).toJson }) =
          saveAnew id schema schemaless l.singletons (device :: others) r := by
        intro others
        simp [saveAnew, savedAnew, howner, Dict.insertAll, Records.putDevice]
      rw [if_pos howner]
      unfold deviceValue
      rw [Attempt.ensures_bind, Attempt.ensures_of_look, hvalue]
      simp only [Except.mapError]
      rw [Attempt.ensures_bind, ensures_record, ← hcarried]
      refine ⟨?_, ?_⟩
      · refine Attempt.Ensures.bind (hrest _) ?_ ?_
        · intro moved l' r' hend
          obtain ⟨rfl, ⟨hmoved, rfl⟩ | ⟨_, _, _, h, -⟩⟩ := hend
          · cases hmoved
            refine ⟨rfl, .inl ⟨?_, hsave rest⟩⟩
            rw [hfirst, List.map_cons]
          · cases h
        · intro e l' r' hend
          obtain ⟨rfl, ⟨h, -⟩ | ⟨moved, op, fault, he, hpart, hwrite, hfault, rfl⟩⟩ := hend
          · cases h
          · refine ⟨rfl, .inr ⟨device :: moved, op, fault, he, ?_, hwrite, hfault, hsave moved⟩⟩
            rw [hfirst]
            exact List.prefix_cons_inj device |>.2 hpart
      · intro fault hfault
        exact ⟨rfl, .inr ⟨[], _, fault, rfl, List.nil_prefix, rfl, hfault, rfl⟩⟩
    · have hsame : (device :: rest).filter (·.driver = id) = rest.filter (·.driver = id) :=
        List.filter_cons_of_neg (by simpa using howner)
      rw [if_neg howner]
      unfold saveAnew savedAnew at hrest ⊢
      rw [hsame]
      exact hrest r

theorem ensures_setDevices (moved : List (DeviceId × Value)) (l : LiveState) :
    (setDevices moved).Ensures host.Answers l r fun x l' r' => x = .ok () ∧ r' = r ∧
      l' = { l with singletons :=
        { l.singletons with devices := Dict.insertAll moved l.singletons.devices } } := by
  induction moved generalizing l with
  | nil => exact ⟨rfl, rfl, rfl⟩
  | cons e rest ih =>
    unfold setDevices
    rw [ensures_setDevice]
    exact ih _

section

variable {id : DriverId} {schema : Schema} {schemaless : Bool} {s : Singletons}

theorem eq_of_id (hk : r.Keyed) {device other : DeviceRecord} (h : device ∈ Dict.values r.devices)
    (h' : other ∈ Dict.values r.devices) (hid : other.id = device.id) : other = device := by
  rw [hk.mem_devices] at h h'
  rw [hid, h] at h'
  exact (Option.some.inj h').symm

theorem find?_saveAnew_of_mem (hk : r.Keyed) {devices : List DeviceRecord}
    (hrecorded : ∀ device ∈ devices, device ∈ Dict.values r.devices) {device : DeviceRecord}
    (hmem : device ∈ devices) (howner : device.driver = id) :
    Dict.find? device.id (saveAnew id schema schemaless s devices r).devices = some { device with
      singleton := some (carried schema schemaless s device).toJson } := by
  refine Dict.find?_insertAll_of_mem (e := (device.id, { device with
    singleton := some (carried schema schemaless s device).toJson })) ?_ ?_ _
  · exact List.mem_map.2 ⟨device, List.mem_filter.2 ⟨hmem, decide_eq_true howner⟩, rfl⟩
  · intro e he hid
    obtain ⟨d, hd, rfl⟩ := List.mem_map.1 he
    rw [eq_of_id hk (hrecorded device hmem) (hrecorded d (List.mem_of_mem_filter hd)) hid]

theorem find?_saveAnew_of_ne {devices : List DeviceRecord} {k : DeviceId}
    (h : ∀ device ∈ devices, device.driver = id → device.id ≠ k) :
    Dict.find? k (saveAnew id schema schemaless s devices r).devices = Dict.find? k r.devices := by
  refine Dict.find?_insertAll_of_ne ?_ _
  intro e he
  obtain ⟨d, hd, rfl⟩ := List.mem_map.1 he
  obtain ⟨hmem, howner⟩ := List.mem_filter.1 hd
  exact h d hmem (of_decide_eq_true howner)

theorem carriedOver (hk : r.Keyed) {s' : Singletons}
    (hs' : s'.devices = Dict.insertAll (((Dict.values r.devices).filter (·.driver = id)).map
      fun device => (device.id, carried schema schemaless s device)) s.devices)
    (hr' : r'.devices = (saveAnew id schema schemaless s (Dict.values r.devices) r).devices) :
    CarriedOver id schema schemaless s s' r r' := by
  constructor
  · intro k device v hdevice howner hv
    obtain rfl := hk.find?_device hdevice
    have hmem : device ∈ Dict.values r.devices := hk.mem_devices.2 hdevice
    rw [hs', hr', ← carried_of_find? hv]
    refine ⟨?_, find?_saveAnew_of_mem hk (fun _ h => h) hmem howner⟩
    refine Dict.find?_insertAll_of_mem (e := (device.id, carried schema schemaless s device)) ?_ ?_ _
    · exact List.mem_map.2 ⟨device, List.mem_filter.2 ⟨hmem, decide_eq_true howner⟩, rfl⟩
    · intro e he hid
      obtain ⟨d, hd, rfl⟩ := List.mem_map.1 he
      rw [eq_of_id hk hmem (List.mem_of_mem_filter hd) hid]
  · intro k hk'
    have hne : ∀ d ∈ Dict.values r.devices, d.driver = id → d.id ≠ k := by
      rintro d hd howner rfl
      exact hk' d (hk.mem_devices.1 hd) howner
    rw [hs', hr']
    refine ⟨Dict.find?_insertAll_of_ne ?_ _, find?_saveAnew_of_ne hne⟩
    intro e he
    obtain ⟨d, hd, rfl⟩ := List.mem_map.1 he
    obtain ⟨hmem, howner⟩ := List.mem_filter.1 hd
    exact hne d hmem (of_decide_eq_true howner)

end

theorem ensures_driverRecord (id : DriverId) (source : String) (hl : E.In l.catalog) :
    (driverRecord id).Ensures host.Answers l r fun x l' r' => Still E l r l' r' ∧
      ((∃ old, x = .ok old ∧ Dict.find? id r.drivers = some old) ∨
        ∃ e, x = .error e ∧ Refused host id source r e) := by
  unfold driverRecord
  rw [Attempt.ensures_bind, ensures_record]
  refine ⟨?_, fun e he => ⟨.refl hl, .inr ⟨_, rfl, .record he⟩⟩⟩
  simp only [RecordOp.result, RecordOp.apply]
  cases hfind : Dict.find? id r.drivers with
  | none => exact ⟨.refl hl, .inr ⟨_, rfl, .unknown hfind⟩⟩
  | some old => exact ⟨.refl hl, .inl ⟨old, rfl, rfl⟩⟩

theorem saveAnew_filter (id : DriverId) (schema : Schema) (schemaless : Bool) (s : Singletons)
    (devices : List DeviceRecord) :
    saveAnew id schema schemaless s (devices.filter (·.driver = id)) r =
      saveAnew id schema schemaless s devices r := by
  simp [saveAnew, savedAnew]

theorem ensures_upgrade (host : Host) (hl : E.In l.catalog) (hk : r.Keyed)
    (ha : Agree l.singletons r) {old : DriverRecord} {source : String} {before : Extraction}
    {info : DriverInfo} {program : Program} {warnings : List Diagnostic}
    (recorded : Dict.find? old.id r.drivers = some old) (known : E.source old.id old.source before)
    (found : E.source old.id source (.valid info program warnings)) :
    (upgrade { old with source } info (!before.isValid) (.valid info program warnings)).Ensures
      host.Answers l r (NewCode host E old.id source l.singletons r) := by
  obtain ⟨v, current, -⟩ := ha.exists_driver recorded
  have hvalue : l.singletons.driver old.id = .ok v := Singletons.driver_eq_ok.2 current
  have hkept : ∀ device ∈ Dict.values r.devices, device.driver = old.id →
      ∃ v, Dict.find? device.id l.singletons.devices = some v := by
    intro device hdevice _
    obtain ⟨v, hv, -⟩ := ha.exists_device (hk.mem_devices.1 hdevice)
    exact ⟨v, hv⟩
  unfold upgrade driverValue
  rw [Attempt.ensures_bind, Attempt.ensures_of_look, hvalue]
  simp only [Except.mapError]
  rw [Attempt.ensures_bind, ensures_record]
  refine ⟨?_, fun fault hfault => .refused (.record hfault) hl rfl⟩
  refine Attempt.Ensures.bind (ensures_migrateDevices old.id info.deviceSchema (!before.isValid)
    (Dict.values r.devices) hkept r) ?_ ?_
  · rintro moved l₁ r₁ ⟨rfl, ⟨h, rfl⟩ | ⟨_, _, _, h, -⟩⟩ <;> cases h
    rw [Attempt.ensures_bind, ensures_record]
    refine ⟨?_, fun fault hfault => ?_⟩
    · simp only
      rw [Attempt.ensures_bind, Attempt.ensures_report]
      simp only
      rw [ensures_setDriver]
      refine Attempt.Ensures.bind (ensures_setDevices _ _) ?_ ?_
      · rintro _ l₂ r₂ ⟨-, rfl, rfl⟩
        exact .valid recorded known found hl current rfl rfl rfl (carriedOver hk rfl rfl) rfl
      · rintro e l₂ r₂ ⟨h, -⟩
        cases h
    · -- the driver comes last, so all its devices are saved by then
      rw [← saveAnew_filter]
      exact .stopped recorded known found hl List.prefix_rfl rfl hfault rfl
  · rintro e l₁ r₁ ⟨rfl, ⟨h, -⟩ | ⟨moved, op, fault, h, hpart, hwrite, hfault, rfl⟩⟩ <;> cases h
    exact .stopped recorded known found hl hpart hwrite hfault rfl

/-- Where records and singletons agree, giving a driver new code ends in one of the four ways. -/
theorem ensures_applyCode (hE : E.Of host) (hl : E.In l.catalog) (hk : r.Keyed)
    (ha : Agree l.singletons r) (id : DriverId) (source : String) :
    (applyCode id source).Ensures host.Answers l r (NewCode host E id source l.singletons r) := by
  unfold applyCode
  refine Attempt.Ensures.bind (ensures_driverRecord id source hl) ?_ ?_
  · rintro old l₁ r₁ ⟨⟨hs₁, rfl, hl₁⟩, ⟨_, h, recorded⟩ | ⟨_, h, -⟩⟩ <;> cases h
    obtain rfl := hk.find?_driver recorded
    refine Attempt.Ensures.bind (DriverRecord.ensures_extraction (hE.source _ _) hl₁) ?_ ?_
    · rintro before l₂ r₂ ⟨⟨hs₂, rfl, hl₂⟩, ⟨_, h, known⟩ | ⟨_, h, -⟩⟩ <;> cases h
      rw [Attempt.ensures_bind, Attempt.ensures_change]
      have hnew : ∀ analysis, host.analyzes old.id.programId source (.ok analysis) →
          E.source old.id source analysis.extraction := hE.source _ _
      refine Attempt.Ensures.bind (DriverRecord.ensures_extraction hnew
        (Findings.in_invalidate old.id hl₂)) ?_ ?_
      · rintro e l₃ r₃ ⟨⟨hs₃, rfl, hl₃⟩, ⟨_, h, found⟩ | ⟨_, h, -⟩⟩ <;> cases h
        have hs : l₃.singletons = l.singletons := hs₃.trans (hs₂.trans hs₁)
        cases e with
        | invalid diagnostics =>
          simp only [Extraction.info?]
          rw [Attempt.ensures_bind, Attempt.ensures_report]
          simp only
          rw [Attempt.ensures_bind, ensures_record]
          exact ⟨.invalid recorded found hl₃ hs, fun _ hfault => .refused (.record hfault) hl₃ hs⟩
        | valid info program warnings =>
          rw [← hs] at ha ⊢
          change (upgrade { old with source } info (!before.isValid) _).Ensures _ _ _ _
          exact ensures_upgrade host hl₃ hk ha recorded known found
      · rintro e l₃ r₃ ⟨⟨hs₃, rfl, hl₃⟩, ⟨_, h, -⟩ | ⟨_, h, hfails⟩⟩ <;> cases h
        exact .refused (.engine recorded (.inr hfails)) hl₃ (hs₃.trans (hs₂.trans hs₁))
    · rintro e l₂ r₂ ⟨⟨hs₂, rfl, hl₂⟩, ⟨_, h, -⟩ | ⟨_, h, hfails⟩⟩ <;> cases h
      exact .refused (.engine recorded (.inl hfails)) hl₂ (hs₂.trans hs₁)
  · rintro e l₁ r₁ ⟨⟨hs₁, rfl, hl₁⟩, ⟨_, h, -⟩ | ⟨_, h, reason⟩⟩ <;> cases h
    exact .refused reason hl₁ hs₁

theorem effect_applyCode (hf : host.Faultless) (hE : E.Of host) (hl : E.In l.catalog)
    (hk : r.Keyed) (ha : Agree l.singletons r) (id : DriverId) (source : String) :
    (applyCode id source).Ensures host.Answers l r fun _ l' r' => Effect E l.singletons r l' r' := by
  refine (ensures_applyCode hE hl hk ha id source).mono ?_
  intro x l' r' hend
  cases hend with
  | refused _ catalog kept => exact (Still.effect ⟨kept, rfl, catalog⟩)
  | invalid recorded found catalog kept =>
    obtain rfl := hk.find?_driver recorded
    refine ⟨catalog, ?_⟩
    rw [kept]
    exact .invalidCode recorded found
  | valid recorded known found catalog current carried value record devices _ =>
    obtain rfl := hk.find?_driver recorded
    exact ⟨catalog, .validCode recorded current known found carried value record devices⟩
  | stopped _ _ _ _ _ _ failed => exact absurd failed (hf _ _)

end Work

end DriverHub
