import DriverHub.Proofs.Hub.Change

/-! Each operation that manages drivers and devices makes one change, or none. -/

namespace DriverHub

variable {host : Host} {E : Findings} {l l' l₁ : LiveState} {r r' r₁ : Records}

/-- What a whole operation does: it may learn something, and it makes one change. -/
structure Effect (E : Findings) (s : Singletons) (r : Records) (l' : LiveState) (r' : Records) :
    Prop where
  catalog : E.In l'.catalog
  change : Change E s r l'.singletons r'

theorem Still.effect (h : Still E l r l' r') : Effect E l.singletons r l' r' := by
  refine ⟨h.catalog, ?_⟩
  rw [h.singletons, h.records]
  exact .nothing

theorem Still.trans_effect (h : Still E l r l₁ r₁) (h' : Effect E l₁.singletons r₁ l' r') :
    Effect E l.singletons r l' r' := by
  refine ⟨h'.catalog, ?_⟩
  have hchange := h'.change
  rw [h.singletons, h.records] at hchange
  exact hchange

/-- An operation that looks something up first makes the change that its rest makes. -/
theorem Effect.bind {α β : Type} {first : Work α} {k : α → Work β} {P : α → Prop}
    (h : first.Finds host E l r P)
    (hk : ∀ a l₁, P a → E.In l₁.catalog → l₁.singletons = l.singletons →
      (k a).Ensures host.Answers l₁ r fun _ l' r' => Effect E l₁.singletons r l' r') :
    (first >>= k).Ensures host.Answers l r fun _ l' r' => Effect E l.singletons r l' r' := by
  refine Attempt.Ensures.bind h ?_ ?_
  · intro a l₁ r₁ hend
    obtain ⟨hstill, ha⟩ := hend
    have hrest := hk a l₁ (ha a rfl) hstill.catalog hstill.singletons
    rw [← hstill.records] at hrest
    exact hrest.mono fun _ _ _ => hstill.trans_effect
  · intro e l₁ r₁ hend
    obtain ⟨hstill, -⟩ := hend
    exact hstill.effect

/-- A schema that the records and the findings give for a configuration. -/
def ConfigTarget.Governed (E : Findings) (r : Records) (schema : Schema) :
    ConfigTarget → Prop
  | .driver id => ∃ driver info program warnings, Dict.find? id r.drivers = some driver ∧
    E.source driver.id driver.source (.valid info program warnings) ∧ schema = info.driverSchema
  | .device id => ∃ device driver info program warnings, Dict.find? id r.devices = some device ∧
    Dict.find? device.driver r.drivers = some driver ∧
    E.source driver.id driver.source (.valid info program warnings) ∧ schema = info.deviceSchema

namespace Work

theorem Finds.effect {α : Type} {work : Work α} {P : α → Prop} (h : work.Finds host E l r P) :
    work.Ensures host.Answers l r fun _ l' r' => Effect E l.singletons r l' r' :=
  Attempt.Ensures.mono h fun _ _ _ hx => hx.1.effect

theorem effect_createDriver (hf : host.Faultless) (hE : E.Of host) (hl : E.In l.catalog)
    (driver : DriverRecord) :
    (createDriver driver).Ensures host.Answers l r fun _ l' r' => Effect E l.singletons r l' r' := by
  unfold createDriver
  rw [ensures_record_faultless hf]
  simp only [RecordOp.result, RecordOp.apply]
  split
  · exact (Still.refl hl).effect
  · next fresh =>
    refine Effect.bind (DriverRecord.finds_extraction hE hl driver) fun e l₁ he hl₁ _ => ?_
    rw [ensures_record_faultless hf]
    rw [ensures_setDriver]
    rw [Attempt.ensures_bind, Attempt.ensures_report]
    exact ⟨hl₁, .newDriver fresh he⟩

theorem effect_createDevice (hf : host.Faultless) (hE : E.Of host) (hl : E.In l.catalog)
    (device : DeviceRecord) :
    (createDevice device).Ensures host.Answers l r fun _ l' r' => Effect E l.singletons r l' r' := by
  unfold createDevice
  rw [ensures_record_faultless hf]
  simp only [RecordOp.result, RecordOp.apply]
  split
  · exact (Still.refl hl).effect
  · next fresh =>
    refine Effect.bind (finds_driver hl device.driver) fun driver l₁ owner hl₁ _ => ?_
    refine Effect.bind (DriverRecord.finds_validInfo hE hl₁ driver) fun info l₂ found hl₂ _ => ?_
    obtain ⟨program, warnings, found⟩ := found
    rw [ensures_record_faultless hf]
    rw [ensures_setDevice]
    rw [Attempt.ensures_report]
    exact ⟨hl₂, .newDevice fresh owner found⟩

theorem effect_deleteDevice (hf : host.Faultless) (hl : E.In l.catalog) (id : DeviceId) :
    (deleteDevice id).Ensures host.Answers l r fun _ l' r' => Effect E l.singletons r l' r' := by
  unfold deleteDevice
  rw [ensures_record_faultless hf]
  change Attempt.Ensures _ (if Dict.contains id r.devices then _ else _) l (r.deleteDevice id) _
  by_cases hfind : Dict.contains id r.devices
  · rw [if_pos hfind, Attempt.ensures_bind, Attempt.ensures_change]
    simp only
    rw [Attempt.ensures_report]
    exact ⟨hl, .noDevice⟩
  · rw [if_neg hfind, Records.deleteDevice_absent ((Dict.not_contains_iff id _).1 hfind)]
    exact (Still.refl hl).effect

theorem effect_deleteDriver (hf : host.Faultless) (hl : E.In l.catalog) (id : DriverId) :
    (deleteDriver id).Ensures host.Answers l r fun _ l' r' => Effect E l.singletons r l' r' := by
  unfold deleteDriver
  rw [ensures_record_faultless hf]
  change Attempt.Ensures _ (if !((Dict.values r.devices).filter (·.driver = id)).isEmpty then _
    else _) l r _
  by_cases husers : ((Dict.values r.devices).filter (·.driver = id)).isEmpty
  · have unused : ∀ k device, Dict.find? k r.devices = some device → device.driver ≠ id := by
      intro k device hdevice hdriver
      have hmem : device ∈ Dict.values r.devices :=
        Dict.mem_values.2 ⟨k, Dict.mem_of_find? hdevice⟩
      have huser : device ∈ (Dict.values r.devices).filter (·.driver = id) :=
        List.mem_filter.2 ⟨hmem, decide_eq_true hdriver⟩
      rw [List.isEmpty_iff.1 husers] at huser
      cases huser
    rw [husers, Bool.not_true, if_neg Bool.false_ne_true, ensures_record_faultless hf]
    change Attempt.Ensures _ (if !(Dict.contains id r.drivers) then _ else _) l (r.deleteDriver id) _
    by_cases hfind : Dict.contains id r.drivers
    · rw [hfind, Bool.not_true, if_neg Bool.false_ne_true, Attempt.ensures_bind,
        Attempt.ensures_change]
      simp only
      rw [Attempt.ensures_bind, Attempt.ensures_change]
      simp only
      rw [Attempt.ensures_report]
      exact ⟨Findings.in_invalidate id hl, .noDriver unused⟩
    · rw [Bool.eq_false_iff.2 hfind, Bool.not_false, if_pos rfl,
        Records.deleteDriver_absent ((Dict.not_contains_iff id _).1 hfind)]
      exact (Still.refl hl).effect
  · rw [Bool.eq_false_iff.2 husers, Bool.not_false, if_pos rfl]
    exact (Still.refl hl).effect

theorem finds_schema (hE : E.Of host) (hl : E.In l.catalog) (t : ConfigTarget) :
    (configSchema t).Finds host E l r fun schema => t.Governed E r schema := by
  cases t with
  | driver id =>
    refine Finds.bind (finds_driver hl id) fun driver l₁ hdriver hl₁ => ?_
    refine Finds.bind (DriverRecord.finds_validInfo hE hl₁ driver) fun info l₂ found hl₂ => ?_
    obtain ⟨program, warnings, found⟩ := found
    exact finds_pure hl₂ ⟨driver, info, program, warnings, hdriver, found, rfl⟩
  | device id =>
    refine Finds.bind (finds_device hl id) fun device l₁ hdevice hl₁ => ?_
    refine Finds.bind (finds_driver hl₁ device.driver) fun driver l₂ hdriver hl₂ => ?_
    refine Finds.bind (DriverRecord.finds_validInfo hE hl₂ driver) fun info l₃ found hl₃ => ?_
    obtain ⟨program, warnings, found⟩ := found
    exact finds_pure hl₃ ⟨device, driver, info, program, warnings, hdevice, hdriver, found, rfl⟩

theorem finds_of_config {α : Type} (hl : E.In l.catalog) (x : Except ConfigError α) :
    Finds host E l r (.of .config (.done x)) fun a => x = .ok a := by
  unfold Finds
  rw [Attempt.ensures_of_done]
  cases x with
  | error e => exact ⟨.refl hl, nofun⟩
  | ok a =>
    refine ⟨.refl hl, ?_⟩
    intro _ heq
    obtain ⟨⟩ := heq
    rfl

theorem effect_validateConfig (hE : E.Of host) (hl : E.In l.catalog) (t : ConfigTarget) (json : Json) :
    (validateConfig t json).Ensures host.Answers l r fun _ l' r' => Effect E l.singletons r l' r' := by
  refine Effect.bind (finds_schema hE hl t) fun schema l₁ _ hl₁ _ => ?_
  exact (finds_of_config hl₁ _).effect

theorem effect_applyConfig (hf : host.Faultless) (hE : E.Of host) (hl : E.In l.catalog)
    (hk : r.Keyed) (t : ConfigTarget) (json : Json) :
    (applyConfig t json).Ensures host.Answers l r fun _ l' r' => Effect E l.singletons r l' r' := by
  refine Effect.bind (finds_schema hE hl t) fun schema l₁ hschema hl₁ _ => ?_
  refine Effect.bind (finds_of_config hl₁ _) fun v l₂ hv hl₂ _ => ?_
  cases t with
  | driver id =>
    obtain ⟨driver, info, program, warnings, recorded, found, rfl⟩ := hschema
    obtain rfl := hk.find?_driver recorded
    simp only
    rw [ensures_record_faultless hf]
    exact ⟨hl₂, .configuredDriver recorded found hv⟩
  | device id =>
    obtain ⟨device, driver, info, program, warnings, recorded, owner, found, rfl⟩ := hschema
    refine Effect.bind (finds_device hl₂ id) fun device' l₃ hdevice' hl₃ _ => ?_
    obtain rfl := Option.some.inj (recorded.symm.trans hdevice')
    obtain rfl := hk.find?_device recorded
    rw [ensures_record_faultless hf]
    exact ⟨hl₃, .configuredDevice recorded owner found hv⟩

end Work

end DriverHub
