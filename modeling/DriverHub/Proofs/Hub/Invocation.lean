import DriverHub.Proofs.Hub.Engine
import DriverHub.Proofs.Records

/-! One call of a driver. It reads the records and a snapshot of the singletons, lets the engine
run, and then saves and replaces the singletons of its target, or it changes nothing at all. -/

namespace DriverHub

variable {host : Host} {E : Findings} {l : LiveState} {r : Records}

namespace Work

theorem finds_record (hl : E.In l.catalog) {op : RecordOp} (hop : op.isRead) :
    (record op).Finds host E l r fun x => x = op.result r := by
  unfold Finds
  rw [ensures_record, Records.apply_of_isRead hop]
  refine ⟨⟨.refl hl, ?_⟩, ?_⟩
  · intro _ heq
    obtain ⟨⟩ := heq
    rfl
  · intro e _
    exact ⟨.refl hl, nofun⟩

theorem finds_some {α : Type} (hl : E.In l.catalog) (e : HubError) (a : Option α) :
    Finds host E l r (Attempt.some e a) fun b => a = some b := by
  cases a with
  | none => exact finds_fail hl e
  | some a => exact finds_pure hl rfl

theorem finds_driver (hl : E.In l.catalog) (id : DriverId) :
    (driverRecord id).Finds host E l r fun driver => Dict.find? id r.drivers = some driver := by
  unfold driverRecord
  refine Finds.bind (finds_record hl rfl) fun found l₁ hfound hl₁ => ?_
  subst hfound
  exact finds_some hl₁ _ _

theorem finds_device (hl : E.In l.catalog) (id : DeviceId) :
    (deviceRecord id).Finds host E l r fun device => Dict.find? id r.devices = some device := by
  unfold deviceRecord
  refine Finds.bind (finds_record hl rfl) fun found l₁ hfound hl₁ => ?_
  subst hfound
  exact finds_some hl₁ _ _

theorem ensures_runUnit (unit : CompiledUnit) (call : Call) (injected : Dict String Value)
    (token : TokenId) :
    (runUnit unit call injected token).Ensures host.Answers l r fun x l' r' => l' = l ∧ r' = r ∧
      ∀ outcome, x = .ok outcome → host.runs unit call injected token (.ok outcome) := by
  intro deadline _ hdeadline x _ hrun _ _ hstop
  obtain rfl := hdeadline
  obtain ⟨hx, rfl⟩ := hrun
  obtain rfl := hstop
  cases x with
  | error e => exact ⟨rfl, rfl, nofun⟩
  | ok outcome =>
    refine ⟨rfl, rfl, ?_⟩
    intro _ heq
    obtain ⟨⟩ := heq
    exact hx

theorem finds_runUnit (hl : E.In l.catalog) (unit : CompiledUnit) (call : Call)
    (injected : Dict String Value) (token : TokenId) :
    (runUnit unit call injected token).Finds host E l r fun _ => True := by
  refine (ensures_runUnit unit call injected token).mono ?_
  intro x l' r' hend
  obtain ⟨rfl, rfl, -⟩ := hend
  exact ⟨.refl hl, fun _ _ => trivial⟩

end Work

namespace Target

variable {β : Type}

/-- The records that a target needs: that of its driver, and that of a device of this driver. -/
structure Recorded (t : Target) (r : Records) : Prop where
  driver : ∃ driver, Dict.find? t.driver r.drivers = some driver
  device : ∀ id, t.device = some id → ∃ device, Dict.find? id r.devices = some device ∧
    device.driver = t.driver

/-- A driver that is ready to run for a target, by what the records say. -/
structure Ready (E : Findings) (t : Target) (r : Records) (prepared : PreparedDriver) : Prop where
  recorded : t.Recorded r
  driver : ∃ driver, Dict.find? t.driver r.drivers = some driver ∧ prepared.Of E driver

theorem finds_prepared (hE : E.Of host) (hl : E.In l.catalog) (t : Target) :
    t.prepare.Finds host E l r (t.Ready E r) := by
  unfold prepare
  refine Work.Finds.bind (Work.finds_driver hl t.driver) fun driver l₁ hdriver hl₁ => ?_
  split
  · next hnone =>
    refine (DriverRecord.finds_prepared hE hl₁ driver).mono fun prepared hp => ?_
    refine ⟨⟨⟨driver, hdriver⟩, ?_⟩, driver, hdriver, hp⟩
    intro id hid
    rw [hnone] at hid
    cases hid
  · next id hsome =>
    refine Work.Finds.bind (Work.finds_device hl₁ id) fun device l₂ hdevice hl₂ => ?_
    split
    · next howner =>
      refine (DriverRecord.finds_prepared hE hl₂ driver).mono fun prepared hp => ?_
      refine ⟨⟨⟨driver, hdriver⟩, ?_⟩, driver, hdriver, hp⟩
      intro id' hid'
      rw [hsome] at hid'
      cases hid'
      exact ⟨device, hdevice, howner⟩
    · exact Work.finds_fail hl₂ _

/-- The values that are taken out of what a run left behind are those under the two names. -/
theorem leftBy_eq_ok {t : Target} {program : String} {left : Dict String Value} {v : Value}
    {d : Option (DeviceId × Value)} (h : t.leftBy program left = .ok (v, d)) :
    Dict.find? Template.driver.singleton left = some v ∧ d.map (·.1) = t.device ∧
      ∀ id w, d = some (id, w) → Dict.find? Template.device.singleton left = some w := by
  unfold leftBy at h
  split at h
  · cases h
  · next v' hv hdevice =>
    cases h
    exact ⟨hv, hdevice.symm, nofun⟩
  · next v' id hv hdevice =>
    split at h
    · cases h
    · next w hw =>
      cases h
      refine ⟨hv, hdevice.symm, ?_⟩
      intro _ _ heq
      obtain ⟨⟩ := heq
      exact hw

/-- What a call that was not given up does at its end, where its run left `v` and `d`. -/
def save (t : Target) (v : Value) (d : Option (DeviceId × Value)) (r : Records) : Records :=
  r.putSingletons t.driver v.toJson (d.map fun (id, w) => (id, w.toJson))

theorem ensures_invokeChecked (hl : E.In l.catalog) (t : Target) (prepared : PreparedDriver)
    (call : Call) (token : TokenId) (check : Value → Except Diagnostic β) :
    (t.invokeChecked prepared call token check).Ensures host.Answers l r fun x l' r' =>
      (Still E l r l' r' ∧ ∀ b, x ≠ .ok (.returned b)) ∨
      ∃ b before value left v d, x = .ok (.returned b) ∧ l.singletons.load t = .ok before ∧
        host.runs prepared.unit call (injected before.1 before.2) token
          (.ok (.completed value left)) ∧
        check value = .ok b ∧ t.leftBy prepared.unit.program left = .ok (v, d) ∧
        l' = { l with singletons := l.singletons.commit t.driver v d } ∧ r' = t.save v d r := by
  have hstill : ∀ x : Except HubError (Outcome β), (∀ b, x ≠ .ok (.returned b)) →
      (Still E l r l r ∧ ∀ b, x ≠ .ok (.returned b)) := fun x hx => ⟨.refl hl, hx⟩
  unfold invokeChecked
  rw [Attempt.ensures_bind, Attempt.ensures_of_look]
  rcases l.singletons.load t with e | ⟨driver, device⟩
  · exact .inl (hstill _ nofun)
  refine Attempt.Ensures.bind (Work.ensures_runUnit _ _ _ _) ?_ ?_
  · intro outcome l' r' hend
    obtain ⟨rfl, rfl, hrun⟩ := hend
    cases outcome with
    | failed diagnostics =>
      simp only
      rw [Attempt.ensures_bind, Attempt.ensures_report]
      exact .inl (hstill _ nofun)
    | completed value left =>
      simp only
      cases hcheck : check value with
      | error d =>
        simp only
        rw [Attempt.ensures_bind, Attempt.ensures_report]
        exact .inl (hstill _ nofun)
      | ok b =>
        simp only
        rw [Attempt.ensures_bind, Attempt.ensures_of_done]
        rcases hleft : t.leftBy prepared.unit.program left with e | ⟨v, d⟩
        · exact .inl (hstill _ nofun)
        simp only [Except.mapError]
        rw [Attempt.ensures_bind, Work.ensures_record]
        -- the first write is the last step that can fail
        refine ⟨?_, fun e _ => .inl (hstill _ nofun)⟩
        exact .inr ⟨b, (driver, device), value, left, v, d, rfl, rfl, hrun _ rfl, hcheck, hleft, rfl,
          rfl⟩
  · intro e l' r' hend
    obtain ⟨rfl, rfl, -⟩ := hend
    exact .inl (hstill _ nofun)

/-- A whole call of a driver. What is checked may depend on the program that is called. -/
def invocation (t : Target) (call : Call) (token : TokenId)
    (check : PreparedDriver → Value → Except Diagnostic β) : Work (Outcome β) := do
  let prepared ← t.prepare
  t.invokeChecked prepared call token (check prepared)

theorem invoke_eq (t : Target) (call : Call) (token : TokenId) :
    t.invoke call token = t.invocation call token fun _ => .ok := rfl

/-- The value `v`, and `d` for the device, have taken the place of the singletons of a target in
memory and in the records. All else is as it was. -/
structure Replaced (t : Target) (v : Value) (d : Option (DeviceId × Value)) (s s' : Singletons)
    (r r' : Records) : Prop where
  device_eq : d.map (·.1) = t.device
  driver : Dict.find? t.driver s'.drivers = some v
  driverRecord : ∃ record, Dict.find? t.driver r.drivers = some record ∧
    Dict.find? t.driver r'.drivers = some { record with singleton := some v.toJson }
  otherDrivers : ∀ id, id ≠ t.driver → Dict.find? id s'.drivers = Dict.find? id s.drivers ∧
    Dict.find? id r'.drivers = Dict.find? id r.drivers
  device : ∀ id w, d = some (id, w) → Dict.find? id s'.devices = some w
  deviceRecord : ∀ id w, d = some (id, w) → ∃ record, Dict.find? id r.devices = some record ∧
    Dict.find? id r'.devices = some { record with singleton := some w.toJson }
  otherDevices : ∀ id, t.device ≠ some id → Dict.find? id s'.devices = Dict.find? id s.devices ∧
    Dict.find? id r'.devices = Dict.find? id r.devices
  scripts : r'.scripts = r.scripts

theorem replaced_save {t : Target} {v : Value} {d : Option (DeviceId × Value)} {s : Singletons}
    (hr : t.Recorded r) (hd : d.map (·.1) = t.device) :
    t.Replaced v d s (s.commit t.driver v d) r (t.save v d r) := by
  obtain ⟨record, hrecord⟩ := hr.driver
  have hdriver : Dict.find? t.driver (s.commit t.driver v d).drivers = some v := by
    rw [Singletons.find?_drivers_commit, if_pos rfl]
  have hdriverRecord : Dict.find? t.driver (t.save v d r).drivers =
      some { record with singleton := some v.toJson } := by
    unfold save
    rw [Records.find?_drivers_putSingletons, if_pos rfl, hrecord]
    rfl
  have hothers : ∀ id, id ≠ t.driver →
      Dict.find? id (s.commit t.driver v d).drivers = Dict.find? id s.drivers ∧
      Dict.find? id (t.save v d r).drivers = Dict.find? id r.drivers := by
    intro id hid
    unfold save
    rw [Singletons.find?_drivers_commit, Records.find?_drivers_putSingletons, if_neg hid.symm,
      if_neg hid.symm]
    exact ⟨rfl, rfl⟩
  cases d with
  | none =>
    exact ⟨hd, hdriver, ⟨record, hrecord, hdriverRecord⟩, hothers, nofun, nofun,
      fun _ _ => ⟨rfl, rfl⟩, rfl⟩
  | some d =>
    obtain ⟨deviceId, w⟩ := d
    have ht : t.device = some deviceId := hd.symm
    obtain ⟨device, hdevice, -⟩ := hr.device deviceId ht
    refine ⟨hd, hdriver, ⟨record, hrecord, hdriverRecord⟩, hothers, ?_, ?_, ?_, rfl⟩
    · intro _ _ heq
      obtain ⟨⟩ := heq
      rw [Singletons.find?_devices_commit, if_pos rfl]
    · intro _ _ heq
      obtain ⟨⟩ := heq
      refine ⟨device, hdevice, ?_⟩
      unfold save
      rw [Option.map_some, Records.find?_devices_putSingletons, if_pos rfl, hdevice]
      rfl
    · intro id hid
      have hne : deviceId ≠ id := fun h => hid (h ▸ ht)
      unfold save
      rw [Option.map_some, Singletons.find?_devices_commit, Records.find?_devices_putSingletons,
        if_neg hne, if_neg hne]
      exact ⟨rfl, rfl⟩

section

variable {t : Target} {v : Value} {d : Option (DeviceId × Value)} {s s' : Singletons} {r' : Records}

theorem Replaced.exists_driver (h : t.Replaced v d s s' r r') {id : DriverId} {record : DriverRecord}
    (hr : Dict.find? id r.drivers = some record) :
    ∃ record', Dict.find? id r'.drivers = some record' := by
  by_cases hid : id = t.driver
  · subst hid
    obtain ⟨_, -, hrecord⟩ := h.driverRecord
    exact ⟨_, hrecord⟩
  · rw [(h.otherDrivers id hid).2]
    exact ⟨record, hr⟩

theorem Replaced.exists_before (h : t.Replaced v d s s' r r') {id : DeviceId} {device : DeviceRecord}
    (hr : Dict.find? id r'.devices = some device) :
    ∃ old, Dict.find? id r.devices = some old ∧ old.driver = device.driver := by
  by_cases hid : t.device = some id
  · obtain ⟨⟨id', w⟩, rfl, rfl⟩ := Option.map_eq_some_iff.1 (h.device_eq.trans hid)
    obtain ⟨old, hold, hnew⟩ := h.deviceRecord _ w rfl
    rw [hnew] at hr
    cases hr
    exact ⟨old, hold, rfl⟩
  · rw [(h.otherDevices id hid).2] at hr
    exact ⟨device, hr, rfl⟩

end

theorem ensures_invocation (hE : E.Of host) (hl : E.In l.catalog) (t : Target) (call : Call)
    (token : TokenId) (check : PreparedDriver → Value → Except Diagnostic β) :
    (t.invocation call token check).Ensures host.Answers l r fun x l' r' =>
      (Still E l r l' r' ∧ ∀ b, x ≠ .ok (.returned b)) ∨
      ∃ b prepared before value left v d, x = .ok (.returned b) ∧ t.Ready E r prepared ∧
        l.singletons.load t = .ok before ∧
        host.runs prepared.unit call (injected before.1 before.2) token
          (.ok (.completed value left)) ∧
        check prepared value = .ok b ∧ t.leftBy prepared.unit.program left = .ok (v, d) ∧
        E.In l'.catalog ∧ l'.singletons = l.singletons.commit t.driver v d ∧ r' = t.save v d r := by
  refine Attempt.Ensures.bind (finds_prepared hE hl t) ?_ ?_
  · intro prepared l₁ r₁ hend
    obtain ⟨hstill, hprepared⟩ := hend
    refine (ensures_invokeChecked hstill.catalog t prepared call token _).mono ?_
    intro x l' r' hend
    rcases hend with ⟨hlast, hx⟩ |
      ⟨b, before, value, left, v, d, hx, hload, hrun, hcheck, hleft, hl', hr'⟩
    · exact .inl ⟨hstill.trans hlast, hx⟩
    · rw [hstill.singletons] at hload
      rw [hstill.records] at hr'
      refine .inr ⟨b, prepared, before, value, left, v, d, hx, hprepared prepared rfl, hload, hrun,
        hcheck, hleft, ?_, ?_, hr'⟩
      · rw [hl']
        exact hstill.catalog
      · rw [hl', hstill.singletons]
  · intro e l' r' hend
    obtain ⟨hstill, -⟩ := hend
    exact .inl ⟨hstill, nofun⟩

/-- A call that returns a value has replaced the singletons of its target by those that its run left
behind, and nothing else. A call that ends in any other way has changed no singleton and no record.
-/
theorem invocation_all_or_nothing (host : Host) (t : Target) (call : Call) (token : TokenId)
    (check : PreparedDriver → Value → Except Diagnostic β) {l l' : LiveState} {r r' : Records}
    {x : Except HubError (Outcome β)}
    (h : Flow.Ends host.Answers (t.invocation call token check).run l r x l' r') :
    (∀ b, x = .ok (.returned b) → ∃ prepared before value left v d,
      l.singletons.load t = .ok before ∧
      host.runs prepared.unit call (injected before.1 before.2) token (.ok (.completed value left)) ∧
      check prepared value = .ok b ∧
      Dict.find? Template.driver.singleton left = some v ∧
      (∀ id w, d = some (id, w) → Dict.find? Template.device.singleton left = some w) ∧
      t.Replaced v d l.singletons l'.singletons r r') ∧
    ((∀ b, x ≠ .ok (.returned b)) → l'.singletons = l.singletons ∧ r' = r) := by
  have hends := ensures_invocation (r := r) (Findings.anything_of host)
    (Findings.anything_in l.catalog) t call token check
  rcases (Flow.ensures_iff _ _ _ _).1 hends x l' r' h with
    ⟨hstill, hx⟩ |
    ⟨b, prepared, before, value, left, v, d, rfl, hready, hload, hrun, hcheck, hleft, -, hl', rfl⟩
  · exact ⟨fun b hb => absurd hb (hx b), fun _ => ⟨hstill.singletons, hstill.records⟩⟩
  · refine ⟨?_, fun hx => absurd rfl (hx b)⟩
    intro _ heq
    obtain ⟨⟩ := heq
    obtain ⟨hv, hd, hw⟩ := leftBy_eq_ok hleft
    refine ⟨prepared, before, value, left, v, d, hload, hrun, hcheck, hv, hw, ?_⟩
    rw [hl']
    exact replaced_save hready.recorded hd

/-- One call of the desk lamp counts it up and dims it. -/
theorem lamp_invocation_replaced :
    let t : Target := ⟨Engine.lampDriver.id, some "desk"⟩
    let call := Engine.dim 1 ⟨7⟩
    let hub := Engine.lampHub
    ∃ l r, Flow.Ends Engine.lamp.host.Answers (t.invocation call 0 fun _ => .ok).run hub.1 hub.2
        (.ok (.returned .null)) l r ∧
      t.Replaced (.object [("count", .int 1)]) (some ("desk", .object [("level", .float ⟨7⟩)]))
        hub.1.singletons l.singletons hub.2 r := by
  intro t call hub
  have h := Engine.lamp.ends_outcome (t.invocation call 0 fun _ => .ok) hub.1 hub.2
  have hx : (Engine.lamp.outcome (t.invocation call 0 fun _ => .ok) hub.1 hub.2).1 =
      .ok (.returned .null) := rfl
  rw [hx] at h
  obtain ⟨_, _, _, left, v, d, _, hrun, _, hv, hw, hreplaced⟩ :=
    (invocation_all_or_nothing Engine.lamp.host t call 0 _ h).1 .null rfl
  refine ⟨_, _, h, ?_⟩
  -- what this engine leaves behind is what the call was given
  cases hrun
  obtain ⟨⟨id, w⟩, rfl, rfl⟩ := Option.map_eq_some_iff.1 hreplaced.device_eq
  cases hv
  cases hw _ _ rfl
  exact hreplaced

end Target

end DriverHub
