import DriverHub.Proofs.Hub.Reloading

/-! Operations that change drivers and devices, and what is registered for a device. An operation that
holds the device leaves its annotations within its quota, whether it succeeds or not. -/

namespace DriverHub.Watch

open DispatchState (Within)

variable {wt : Watch} {holds : Bool} {α β : Type} {r₀ r r' : Records} {hub hub' : Hub}
  {A B : DispatchState → Prop} {Q : Except HubError β → Hub → Records → Prop}

/-! ### Steps of an operation -/

section

variable {k : α → Work β}

/-- A step that is harmless. -/
theorem Has.work {first : Work α} {P : α → Prop} (h : wt.Has holds r₀ A hub r) (hA : wt.Stable A)
    (hfirst : wt.HarmlessWork first P)
    (hok : ∀ a hub' r', P a → wt.Has holds r₀ A hub' r' →
      wt.Guards holds (Hosted.work (k a)) hub' r' Q)
    (herror : ∀ e hub' r', wt.Has holds r₀ A hub' r' → Q (.error e) hub' r') :
    wt.Guards holds (Hosted.work (first >>= k)) hub r Q := by
  refine Flow.Guarded.attempt_bind (h.harmless hA hfirst) ?_ ?_
  · rintro a hub' r' ⟨h', ha⟩
    exact hok a hub' r' (ha a rfl) h'
  · rintro e hub' r' ⟨h', -⟩
    exact herror e hub' r' h'

theorem Has.step {first : Work α} (h : wt.Has holds r₀ A hub r) (hA : wt.Stable A)
    (hfirst : wt.HarmlessWork first fun _ => True)
    (hok : ∀ a hub' r', wt.Has holds r₀ A hub' r' → wt.Guards holds (Hosted.work (k a)) hub' r' Q)
    (herror : ∀ e hub' r', wt.Has holds r₀ A hub' r' → Q (.error e) hub' r') :
    wt.Guards holds (Hosted.work (first >>= k)) hub r Q :=
  h.work hA hfirst (fun a hub' r' _ => hok a hub' r') herror

end

theorem Has.read {op : RecordOp} {k : op.Result → Work β} (hop : op.isRead = true)
    (h : wt.Has holds r₀ A hub r) (hA : wt.Stable A)
    (hok : ∀ hub' r', wt.Has holds r₀ A hub' r' →
      wt.Guards holds (Hosted.work (k (op.result r))) hub' r' Q)
    (herror : ∀ e hub' r', wt.Has holds r₀ A hub' r' → Q (.error e) hub' r') :
    wt.Guards holds (Hosted.work (Work.record op >>= k)) hub r Q := by
  refine Flow.Guarded.attempt_bind (guards_record hop h.sound) ?_ ?_
  · rintro a hub' r' ⟨hrelies, ha⟩
    rw [ha a rfl]
    exact hok hub' r' (h.relies hA hrelies)
  · rintro e hub' r' ⟨hrelies, -⟩
    exact herror e hub' r' (h.relies hA hrelies)

theorem Has.finish {w : Work α} (h : wt.Has holds r₀ A hub r) (hA : wt.Stable A)
    (hw : wt.SureWork w) :
    wt.Guards holds (Hosted.work w) hub r fun x hub' r' =>
      wt.Has holds r₀ A hub' r' ∧ ∃ a, x = .ok a :=
  h.harmless hA hw

/-- As long as nothing is changed, it does not matter since when. -/
theorem Has.now {C : (DriverId → List String) → DispatchState → Prop}
    (h : wt.Has holds r₀ (C (wt.quota r₀)) hub r) : wt.Has holds r (C (wt.quota r)) hub r := by
  refine ⟨h.sound, fun hholds => ⟨.refl r, ?_⟩⟩
  rw [quota_of_unmoved h.sound (h.unmoved hholds)]
  exact (h.held hholds).2

theorem Has.settled (h : wt.Settled holds r₀ hub r) : wt.Settled holds r hub r :=
  h.now (C := Within wt.device)

/-- A step that changes the records, and what is known of the annotations with respect to them. -/
theorem Has.write {op : RecordOp} {k : op.Result → Work β}
    (C : (DriverId → List String) → DispatchState → Prop) (hC : ∀ allowed, wt.Stable (C allowed))
    (h : wt.Settled holds r₀ hub r)
    (howner : ∀ driver, (op.apply r).owner? wt.device = some driver → driver ∈ wt.drivers)
    (hspares : holds = false → wt.Unmoved r (op.apply r))
    (hkept : holds = true → ∀ s, DispatchState.Within wt.device (wt.quota r) s →
      C (wt.quota (op.apply r)) s)
    (hok : ∀ hub' r', wt.Has holds (op.apply r) (C (wt.quota (op.apply r))) hub' r' →
      wt.Guards holds (Hosted.work (k (op.result r))) hub' r' Q)
    (herror : ∀ e hub' r', wt.Settled holds r' hub' r' → Q (.error e) hub' r') :
    wt.Guards holds (Hosted.work (Work.record op >>= k)) hub r Q := by
  have hanswered : wt.Guards holds (Hosted.ask (.service (.record op))) hub r fun x hub' r' =>
      (x = .ok (op.result r) ∧ wt.Has holds (op.apply r) (C (wt.quota (op.apply r))) hub' r') ∨
        ∃ e, x = .error e ∧ wt.Settled holds r' hub' r' := by
    rintro x r' (⟨rfl, rfl⟩ | ⟨e, -, rfl, rfl⟩)
    · have hsound : wt.Sound hub (op.apply r) :=
        { h.sound with keyed := h.sound.keyed.apply op, owner := howner }
      have hafter : wt.Has holds (op.apply r) (C (wt.quota (op.apply r))) hub (op.apply r) :=
        ⟨hsound, fun hholds => ⟨.refl _, hkept hholds _ (h.settled.held hholds).2⟩⟩
      refine ⟨⟨hsound, fun hholds => ⟨.refl _ _, hspares hholds⟩⟩, fun hub' r' hrelies => ?_⟩
      exact .inl ⟨rfl, hafter.relies (hC _) hrelies⟩
    · refine ⟨.of_spares h.sound (wt.matter.spares_refl hub r'), fun hub' r'' hrelies => ?_⟩
      exact .inr ⟨e, rfl, (h.relies (wt.stable_within _) hrelies).settled⟩
  have hwritten : wt.Guards holds (Hosted.work (Work.record op)) hub r fun x hub' r' =>
      (x = .ok (op.result r) ∧ wt.Has holds (op.apply r) (C (wt.quota (op.apply r))) hub' r') ∨
        ∃ e, x = .error e ∧ wt.Settled holds r' hub' r' := by
    refine Flow.Guarded.bind hanswered ?_
    rintro _ hub' r' (⟨rfl, h'⟩ | ⟨e, rfl, h'⟩)
    · exact .inl ⟨rfl, h'⟩
    · exact .inr ⟨_, rfl, h'⟩
  refine Flow.Guarded.attempt_bind hwritten ?_ ?_
  · rintro _ hub' r' (⟨⟨⟩, h'⟩ | ⟨e, ⟨⟩, -⟩)
    exact hok hub' r' h'
  · rintro _ hub' r' (⟨⟨⟩, -⟩ | ⟨e, ⟨⟩, h'⟩)
    exact herror _ hub' r' h'

/-! ### Quotas -/

theorem quota_of_no_owner {driver : DriverId} (h : r.owner? wt.device ≠ some driver) :
    wt.quota r driver = [] := if_neg h

theorem quota_of_no_source {driver : DriverId} (h : r.source? driver = none) :
    wt.quota r driver = [] := by
  unfold quota
  rw [h]
  exact ite_self _

theorem quota_congr {driver : DriverId} (howner : r'.owner? wt.device = r.owner? wt.device)
    (hsource : r'.source? driver = r.source? driver) : wt.quota r' driver = wt.quota r driver := by
  unfold quota
  rw [howner, hsource]

theorem quota_putDriver {record : DriverRecord} {driver : DriverId} (h : record.id ≠ driver) :
    wt.quota (r.putDriver record) driver = wt.quota r driver :=
  quota_congr rfl ((Records.source?_putDriver _ _).trans (if_neg h))

theorem quota_deleteDriver {id driver : DriverId} (h : id ≠ driver) :
    wt.quota (r.deleteDriver id) driver = wt.quota r driver :=
  quota_congr rfl ((Records.source?_deleteDriver _ _).trans (if_neg h))

theorem unmoved_putDriver {record : DriverRecord} (h : record.id ∉ wt.drivers) :
    wt.Unmoved r (r.putDriver record) := by
  refine ⟨rfl, fun driver hdriver => (Records.source?_putDriver _ _).trans (if_neg ?_)⟩
  rintro rfl
  exact h hdriver

theorem unmoved_deleteDriver {id : DriverId} (h : id ∉ wt.drivers) :
    wt.Unmoved r (r.deleteDriver id) := by
  refine ⟨rfl, fun driver hdriver => (Records.source?_deleteDriver _ _).trans (if_neg ?_)⟩
  rintro rfl
  exact h hdriver

/-- A record with the driver that its device has already. -/
theorem unmoved_putDevice {record : DeviceRecord}
    (h : record.id = wt.device → r.owner? wt.device = some record.driver) :
    wt.Unmoved r (r.putDevice record) := by
  refine ⟨(Records.owner?_putDevice _ _).trans ?_, fun _ _ => rfl⟩
  split
  · next hid => exact (h hid).symm
  · rfl

theorem Sound.owner_putDevice (hsound : wt.Sound hub r) {record : DeviceRecord}
    (h : record.id = wt.device → record.driver ∈ wt.drivers) (driver : DriverId)
    (howner : (r.putDevice record).owner? wt.device = some driver) : driver ∈ wt.drivers := by
  rw [Records.owner?_putDevice] at howner
  split at howner
  · next hid => exact Option.some.inj howner ▸ h hid
  · exact hsound.owner driver howner

/-! ### Drivers -/

variable {id : DriverId}

theorem not_mem_of_not_held (hheld : holds = true ↔ id ∈ wt.drivers) (h : holds = false) :
    id ∉ wt.drivers := by
  rw [← hheld, h]
  nofun

theorem guards_createDriver {driver : DriverRecord} (hheld : holds = true ↔ driver.id ∈ wt.drivers)
    (h : wt.Settled holds r₀ hub r) :
    wt.Guards holds (Hub.createDriver driver) hub r fun _ hub' r' => wt.Settled holds r' hub' r' := by
  have hstable := wt.stable_within
  unfold Hub.createDriver Work.createDriver
  refine h.settled.read rfl (hstable _) ?_ fun e hub' r' h' => h'.settled
  intro hub₁ r₁ h₁
  cases hfind : RecordOp.result r (.driver driver.id) with
  | some found => exact h₁.settled
  | none =>
    have hnone : r.source? driver.id = none := by
      unfold Records.source?
      rw [show Dict.find? driver.id r.drivers = none from hfind, Option.map_none]
    refine h₁.step (hstable _) ((harmless_extraction driver).mono fun _ _ => trivial)
      (fun e hub₂ r₂ h₂ => ?_) fun e hub' r' h' => h'.settled
    refine h₂.write (Within wt.device) hstable h₂.sound.owner (fun hholds => ?_)
      (fun hholds s hs => hs.mono fun driver' => ?_) (fun hub₃ r₃ h₃ => ?_) fun e hub' r' h' => h'
    · exact unmoved_putDriver (not_mem_of_not_held hheld hholds)
    · by_cases hid : driver.id = driver'
      · subst hid
        rw [quota_of_no_source (r := r₂)]
        · exact List.nil_subperm
        · exact ((h₂.unmoved hholds).source _ (hheld.1 hholds)).trans hnone
      · refine (List.Perm.of_eq (Eq.symm ?_)).subperm
        exact quota_putDriver hid
    · refine Flow.Guarded.mono (h₃.finish (hstable _) ?_) fun _ _ _ h' => h'.1.settled
      exact .bind (.change fun _ => rfl) fun _ => .bind (.report _) fun _ => .pure e

theorem guards_deleteDriver (hheld : holds = true ↔ id ∈ wt.drivers) (h : wt.Settled holds r₀ hub r) :
    wt.Guards holds (Hub.deleteDriver id) hub r fun _ hub' r' => wt.Settled holds r' hub' r' := by
  have hstable := wt.stable_within
  unfold Hub.deleteDriver Work.deleteDriver
  refine h.settled.read rfl (hstable _) ?_ fun e hub' r' h' => h'.settled
  intro hub₁ r₁ h₁
  simp only
  split
  · exact h₁.settled
  next hunused =>
  have howner : r.owner? wt.device ≠ some id := by
    intro howner
    obtain ⟨device, hdevice, hdriver⟩ := Option.map_eq_some_iff.1 howner
    have hmem : device ∈ (RecordOp.result r .devices).filter (·.driver = id) :=
      List.mem_filter.2 ⟨Dict.mem_values.2 ⟨_, Dict.mem_of_find? hdevice⟩, by simpa using hdriver⟩
    refine hunused ?_
    rw [Bool.not_eq_true', List.isEmpty_eq_false_iff]
    exact List.ne_nil_of_mem hmem
  refine h₁.write (Within wt.device) hstable h₁.sound.owner (fun hholds => ?_)
    (fun hholds s hs => hs.mono fun driver' => ?_) (fun hub₂ r₂ h₂ => ?_) fun e hub' r' h' => h'
  · exact unmoved_deleteDriver (not_mem_of_not_held hheld hholds)
  · by_cases hid : id = driver'
    · subst hid
      rw [quota_of_no_owner (r := r₁)]
      · exact List.nil_subperm
      · rw [(h₁.unmoved hholds).owner]
        exact howner
    · exact (List.Perm.of_eq (quota_deleteDriver hid).symm).subperm
  · split
    · exact h₂.settled
    · refine Flow.Guarded.mono (h₂.finish (hstable _) ?_) fun _ _ _ h' => h'.1.settled
      exact .bind (.change fun _ => rfl) fun _ => .bind (.invalidate id) fun _ => .report _

/-! ### What is followed by a reload -/

/-- What an operation comes to before annotations are registered anew, which only follows a
success. -/
def Due (wt : Watch) (holds : Bool) (dropped : Option DriverId) (device : Option DeviceId) :
    Except HubError α → Hub → Records → Prop
  | .ok _, hub, r => wt.Has holds r (wt.WithinBut dropped device (wt.quota r)) hub r
  | .error _, hub, r => wt.Settled holds r hub r

theorem Has.due {dropped : Option DriverId} {device : Option DeviceId}
    (h : wt.Has holds r₀ (wt.WithinBut dropped device (wt.quota r₀)) hub r) :
    wt.Has holds r (wt.WithinBut dropped device (wt.quota r)) hub r :=
  h.now (C := wt.WithinBut dropped device)

theorem guards_afterwards {flow : Hosted (Except HubError α)} {next : α → Hosted Unit}
    (dropped : Option DriverId) (device : Option DeviceId)
    (h : wt.Guards holds flow hub r (wt.Due holds dropped device))
    (hnext : ∀ a hub r, wt.Has holds r (wt.WithinBut dropped device (wt.quota r)) hub r →
      wt.Guards holds (next a) hub r fun _ hub' r' => wt.Settled holds r hub' r') :
    wt.Guards holds (flow.afterwards next) hub r fun _ hub' r' => wt.Settled holds r' hub' r' := by
  refine Flow.Guarded.bind h ?_
  rintro (e | a) hub₁ r₁ h₁
  · exact h₁
  · exact Flow.Guarded.bind (hnext a hub₁ r₁ h₁) fun _ _ _ h₂ => h₂.settled

theorem guards_createDevice {device : DeviceRecord} (hheld : holds = true ↔ device.id = wt.device)
    (hdriver : device.id = wt.device → device.driver ∈ wt.drivers) (h : wt.Settled holds r₀ hub r) :
    wt.Guards holds (Hub.createDevice device) hub r fun _ hub' r' => wt.Settled holds r' hub' r' := by
  have hstable := wt.stable_within
  have herror : ∀ (e : HubError) hub' r', wt.Settled holds r' hub' r' →
      wt.Due holds none (some device.id) (.error e : Except HubError Unit) hub' r' := fun _ _ _ h => h
  unfold Hub.createDevice
  refine guards_afterwards none (some device.id) ?_ fun _ _ _ h' =>
    guards_deviceChanged hheld.2 h'
  unfold Work.createDevice
  refine h.settled.read rfl (hstable _) ?_ fun e hub' r' h' => herror e _ _ h'.settled
  intro hub₁ r₁ h₁
  cases hfind : RecordOp.result r (.device device.id) with
  | some found => exact h₁.settled
  | none =>
    have hnone : r.owner? device.id = none := by
      unfold Records.owner?
      rw [show Dict.find? device.id r.devices = none from hfind, Option.map_none]
    refine h₁.step (hstable _) ((harmless_driverRecord _).mono fun _ _ => trivial)
      (fun driver hub₂ r₂ h₂ => ?_) fun e _ _ h' => herror e _ _ h'.settled
    refine h₂.step (hstable _) (harmless_validInfo driver) (fun info hub₃ r₃ h₃ => ?_)
      fun e _ _ h' => herror e _ _ h'.settled
    refine h₃.write (Within wt.device) hstable (h₃.sound.owner_putDevice hdriver) (fun hholds => ?_)
      (fun hholds s hs => hs.mono fun driver' => ?_) (fun hub₄ r₄ h₄ => ?_) herror
    · refine unmoved_putDevice fun hid => ?_
      rw [hheld.2 hid] at hholds
      cases hholds
    · rw [quota_of_no_owner (r := r₃)]
      · exact List.nil_subperm
      · rw [(h₃.unmoved hholds).owner, ← hheld.1 hholds, hnone]
        nofun
    · refine Flow.Guarded.mono (h₄.finish (hstable _) ?_) ?_
      · exact .bind (.change fun _ => rfl) fun _ => .report _
      · rintro _ hub' r' ⟨h', _, rfl⟩
        exact h'.settled.mono fun _ => within_but _ _

theorem guards_deleteDevice {id : DeviceId} (hheld : holds = true ↔ id = wt.device)
    (h : wt.Settled holds r₀ hub r) :
    wt.Guards holds (Hub.deleteDevice id) hub r fun _ hub' r' => wt.Settled holds r' hub' r' := by
  have hstable := wt.stable_within (wt.quota r)
  have howner? : (r.deleteDevice id).owner? wt.device =
      if id = wt.device then none else r.owner? wt.device := Records.owner?_deleteDevice _ _
  unfold Hub.deleteDevice
  refine guards_afterwards none (some id) ?_ fun _ _ _ h' =>
    guards_deviceChanged hheld.2 h'
  unfold Work.deleteDevice
  refine h.write (fun _ => Within wt.device (wt.quota r)) (fun _ => hstable) (fun driver howner => ?_)
    (fun hholds => ⟨?_, fun _ _ => rfl⟩) (fun _ _ hs => hs) (fun hub₁ r₁ h₁ => ?_) fun _ _ _ h' => h'
  · change (r.deleteDevice id).owner? wt.device = _ at howner
    rw [howner?] at howner
    split at howner
    · cases howner
    · exact h.sound.owner driver howner
  · refine howner?.trans (if_neg fun hid => ?_)
    rw [hheld.2 hid] at hholds
    cases hholds
  · split
    · have hbut : wt.Has holds (r.deleteDevice id)
          (wt.WithinBut none (some id) (wt.quota (r.deleteDevice id))) hub₁ r₁ := by
        refine h₁.mono fun s hs driver hdriver => ?_
        have hid : id ≠ wt.device := by simpa [concerns] using hdriver
        rw [quota_congr (howner?.trans (if_neg hid)) rfl]
        exact hs driver
      refine Flow.Guarded.mono (hbut.finish (stable_withinBut _ _ _) ?_) ?_
      · exact .bind (.change fun _ => rfl) fun _ => .report _
      · rintro _ hub' r' ⟨h', _, rfl⟩
        exact h'.due
    · next hfound =>
      have habsent : Dict.find? id r.devices = none := (Dict.not_contains_iff id _).1 hfound
      have hsame : (RecordOp.deleteDevice id).apply r = r := Records.deleteDevice_absent habsent
      rw [hsame] at h₁
      exact h₁.settled

/-! ### New code -/

theorem sure_setDevices (values : List (DeviceId × Value)) :
    wt.SureWork (Work.setDevices values) := by
  induction values with
  | nil => exact .pure ()
  | cons value rest ih => exact .bind (.change fun _ => rfl) fun _ => ih

/-- Saving the devices of a driver leaves them with it. -/
theorem guards_migrateDevices {id : DriverId} {schema : Schema} {schemaless : Bool}
    {devices : List DeviceRecord} (h : wt.Settled holds r₀ hub r)
    (howned : ∀ device ∈ devices, device.driver = id → device.id = wt.device →
      holds = true ∧ r₀.owner? wt.device = some id) :
    wt.Guards holds (Hosted.work (Work.migrateDevices id schema schemaless devices)) hub r
      fun _ hub' r' => wt.Settled holds r' hub' r' := by
  induction devices generalizing r₀ hub r with
  | nil => exact h.settled
  | cons device rest ih =>
    unfold Work.migrateDevices
    split
    · next hdriver =>
      refine h.step (wt.stable_within _) (.of_look _ _) (fun value hub₁ r₁ h₁ => ?_)
        fun _ _ _ h' => h'.settled
      have hmoved : ∀ singleton, wt.Unmoved r₁ (r₁.putDevice { device with singleton }) := by
        refine fun singleton => unmoved_putDevice fun hid => ?_
        obtain ⟨hholds, howner⟩ := howned device List.mem_cons_self hdriver hid
        rw [(h₁.unmoved hholds).owner, howner]
        exact congrArg some hdriver.symm
      refine h₁.write (Within wt.device) wt.stable_within ?_ (fun _ => hmoved _)
        (fun _ s hs => hs.mono fun driver => ?_) (fun hub₂ r₂ h₂ => ?_) fun _ _ _ h' => h'
      · exact fun driver howner => h₁.sound.owner driver ((hmoved _).owner.symm.trans howner)
      · refine (List.Perm.of_eq (Eq.symm ?_)).subperm
        exact quota_congr (hmoved _).owner rfl
      · refine Flow.Guarded.attempt_bind (ih h₂ fun other hother hdriver' hid => ?_)
          (fun _ _ _ h₃ => h₃) fun _ _ _ h₃ => h₃
        obtain ⟨hholds, howner⟩ := howned other (List.mem_cons_of_mem _ hother) hdriver' hid
        exact ⟨hholds, (hmoved _).owner.trans ((h₁.unmoved hholds).owner.trans howner)⟩
    · exact ih h fun other hother => howned other (List.mem_cons_of_mem _ hother)

/-- New code makes the annotations of the driver stale, until they are registered anew. -/
theorem guards_putSource {driver : DriverRecord} {k : Unit → Work α}
    (hheld : holds = true ↔ driver.id ∈ wt.drivers) (h : wt.Settled holds r₀ hub r)
    (hk : ∀ u, wt.SureWork (k u)) :
    wt.Guards holds (Hosted.work (Work.record (.putDriver driver) >>= k)) hub r
      (wt.Due holds (some driver.id) none) := by
  refine h.write (wt.WithinBut (some driver.id) none) (stable_withinBut _ _) h.sound.owner
    (fun hholds => unmoved_putDriver (not_mem_of_not_held hheld hholds))
    (fun _ s hs driver' hdriver' => ?_) (fun hub₁ r₁ h₁ => ?_) fun _ _ _ h' => h'
  · have hid : driver.id ≠ driver' := by simpa [concerns] using hdriver'
    refine (hs driver').trans (List.Perm.of_eq (Eq.symm ?_)).subperm
    exact quota_putDriver hid
  · refine Flow.Guarded.mono (h₁.finish (stable_withinBut _ _ _) (hk _)) ?_
    rintro _ hub' r' ⟨h', _, rfl⟩
    exact h'.due

theorem guards_applyCode {id : DriverId} {source : String} (hheld : holds = true ↔ id ∈ wt.drivers)
    (h : wt.Settled holds r₀ hub r) :
    wt.Guards holds (Hub.applyCode id source) hub r fun _ hub' r' => wt.Settled holds r' hub' r' := by
  have hstable := wt.stable_within (wt.quota r)
  have herror : ∀ (e : HubError) hub' r', wt.Settled holds r hub' r' →
      wt.Due holds (some id) none (.error e : Except HubError Extraction) hub' r' :=
    fun _ _ _ h => h.settled
  unfold Hub.applyCode
  refine guards_afterwards (some id) none ?_ fun _ _ _ h' =>
    guards_driverChanged hheld.2 h'
  unfold Work.applyCode
  refine h.settled.work hstable (harmless_driverRecord id) (fun old hub₁ r₁ hid h₁ => ?_) herror
  subst hid
  refine h₁.step hstable ((harmless_extraction old).mono fun _ _ => trivial)
    (fun before hub₂ r₂ h₂ => ?_) herror
  refine h₂.step hstable (SureWork.invalidate old.id).harmless (fun _ hub₃ r₃ h₃ => ?_) herror
  refine h₃.step hstable ((harmless_extraction { old with source }).mono fun _ _ => trivial)
    (fun e hub₄ r₄ h₄ => ?_) herror
  simp only
  split
  · refine h₄.step hstable (SureWork.report _).harmless (fun _ hub₅ r₅ h₅ => ?_) herror
    exact guards_putSource hheld h₅ fun _ => .pure e
  · next info hinfo =>
    refine h₄.step hstable (.of_look _ _) (fun value hub₅ r₅ h₅ => ?_) herror
    refine h₅.read rfl hstable (fun hub₆ r₆ h₆ => ?_) herror
    have howned : ∀ device ∈ RecordOp.result r₅ .devices, device.driver = old.id →
        device.id = wt.device → holds = true ∧ r.owner? wt.device = some old.id := by
      intro device hdevice hdriver hid
      have hfind := h₅.sound.keyed.mem_devices.1 hdevice
      have howner : r₅.owner? wt.device = some old.id := by
        rw [← hid, ← hdriver]
        exact Records.owner?_of_find? hfind
      have hholds := hheld.2 (h₅.sound.owner _ howner)
      exact ⟨hholds, (h₅.unmoved hholds).owner.symm.trans howner⟩
    refine Flow.Guarded.attempt_bind (guards_migrateDevices h₆ howned) (fun values hub₇ r₇ h₇ => ?_)
      fun _ _ _ h' => h'
    refine guards_putSource hheld h₇ fun _ => ?_
    exact .bind (.report _) fun _ => .bind (.change fun _ => rfl) fun _ =>
      .bind (sure_setDevices values) fun _ => .pure e

end DriverHub.Watch
