import DriverHub.Proofs.Hub.Rollout

/-! Calls and new code, step by step. A call keeps what the source says that it has read. New code keeps
nothing until it is recorded, and ends only when all singletons of the driver and its devices have come
under its schemas. -/

namespace DriverHub

open CallStep

variable {ro : Rollout} {α β : Type}

def Course.IsCall (g : Course) : Prop := ∃ source, g = .calling source

theorem Course.IsCall.finished {g : Course} (h : g.IsCall) : g.Finished := by
  obtain ⟨source, rfl⟩ := h
  nofun

namespace Rollout

theorem aside_of_keeps {update : LiveState → LiveState}
    (h : ∀ c, ro.Owns c → keeps? c (.accessed update) = none) : ro.Aside (.accessed update) := by
  refine ⟨h, ?_⟩
  rintro r r' rfl howners
  exact ⟨howners, rfl⟩

theorem aside_putSingletons (driver : DriverId) (json : Json) (device : Option (DeviceId × Json))
    (b : Except RecordError Unit) :
    ro.Aside (.asked (.record (.putSingletons driver json device)) b) := by
  refine aside_of_record (.putSingletons driver json device) (fun r howners k => ?_) (fun r => ?_) b
  · exact (Records.owner?_putSingletons _ _ _ k).trans (howners k)
  · exact Records.source?_putSingletons _ _ _ _

theorem aside_putDevice {device : DeviceRecord} (h : ro.first.owner? device.id = some device.driver)
    (b : Except RecordError Unit) : ro.Aside (.asked (.record (.putDevice device)) b) := by
  refine aside_of_record (.putDevice device) (fun r howners k => ?_) (fun _ => rfl) b
  refine (Records.owner?_putDevice device k).trans ?_
  split
  · next hid => rw [← hid, h]
  · exact howners k

end Rollout

/-! ### Calls -/

/-- A driver is prepared for a target. If it is the one that gets new code, the call has learned its
source, and runs leave behind what that source declares. -/
structure Target.Bound (ro : Rollout) (t : Target) (prepared : PreparedDriver) (g : Course) :
    Prop where
  device : ∀ k, t.device = some k → ro.first.owner? k = some t.driver
  driver : t.driver = ro.id → ∃ source, g = .calling (some source) ∧
    ∀ left, ro.E.left prepared.unit left → (ro.declared source).Leaves left

namespace Work

/-- A call that reads the record of the driver learns its source. -/
theorem learns_driverRecord (before : Option String) (k : DriverId) :
    (driverRecord k).run.Keeps ro.protocol (.calling before) fun x g => g.IsCall ∧
      ∀ record, x = .ok record → record.id = k ∧
        (k = ro.id → ro.Known record.source ∧ g = .calling (some record.source)) := by
  by_cases hk : k = ro.id
  · subst hk
    refine Attempt.keeps_bind.2 (Attempt.keeps_of.2 ?_)
    rintro s b hs ⟨r, r', hr, ⟨rfl, -⟩ | ⟨e, -, rfl, -⟩⟩
    · obtain ⟨source, hknown, hsource⟩ := hr.source
      obtain ⟨record, hfind, rfl⟩ := Option.map_eq_some_iff.1 hsource
      have hresult : RecordOp.result r (.driver ro.id) = some record := hfind
      rw [hresult]
      refine ⟨_, .of_asked hs .learn, ⟨_, rfl⟩, ?_⟩
      rintro _ ⟨⟩
      exact ⟨hr.keyed.find?_driver hfind, fun _ => ⟨hknown, rfl⟩⟩
    · exact ⟨_, .of_asked hs (.aside (Rollout.aside_of_fault _ e)), ⟨_, rfl⟩, nofun⟩
  · refine (consults_driverRecord k _).mono ?_
    rintro x _ ⟨rfl, hx⟩
    exact ⟨⟨_, rfl⟩, fun record h => ⟨(hx record h).1, fun h => absurd h hk⟩⟩

end Work

namespace Target

theorem Bound.of_prepared (hro : ro.Regular) {t : Target} {driver : DriverRecord}
    {prepared : PreparedDriver} {g : Course} (hid : driver.id = t.driver)
    (hlearned : t.driver = ro.id → ro.Known driver.source ∧ g = .calling (some driver.source))
    (hdevice : ∀ k, t.device = some k → ro.first.owner? k = some t.driver)
    (h : prepared.Of ro.E driver) : t.Bound ro prepared g := by
  refine ⟨hdevice, fun ht => ?_⟩
  obtain ⟨hknown, hg⟩ := hlearned ht
  obtain ⟨warnings, hfound⟩ := h.source
  have hdeclares := hro.declares _ hknown
  rw [hid, ht] at hfound
  obtain ⟨p, warnings', he⟩ := hdeclares.valid _ hfound
  obtain ⟨hinfo, rfl, rfl⟩ := Extraction.valid.inj he
  rw [hinfo] at hfound
  exact ⟨driver.source, hg, fun left hleft => hdeclares.leaves _ _ _ left hfound h.unit hleft⟩

theorem follows_prepare (hro : ro.Regular) (t : Target) (before : Option String) :
    t.prepare.run.Keeps ro.protocol (.calling before) fun x g => g.IsCall ∧
      ∀ prepared, x = .ok prepared → t.Bound ro prepared g := by
  refine Attempt.keeps_bind.2 ((Work.learns_driverRecord before t.driver).mono ?_)
  rintro (e | driver) g ⟨hcall, hlearned⟩
  · exact ⟨hcall, nofun⟩
  obtain ⟨hid, hlearned⟩ := hlearned driver rfl
  have hprepare (hdevice : ∀ k, t.device = some k → ro.first.owner? k = some t.driver) :
      (Lookup.inHub driver.prepare).run.Keeps ro.protocol g fun x g => g.IsCall ∧
        ∀ prepared, x = .ok prepared → t.Bound ro prepared g := by
    refine (Work.consults_inHub (Rollout.keeps_prepare hro driver) g).mono ?_
    rintro x _ ⟨rfl, hx⟩
    exact ⟨hcall, fun prepared h => .of_prepared hro hid hlearned hdevice (hx prepared h)⟩
  simp only
  split
  · next hnone =>
    refine hprepare ?_
    rw [hnone]
    nofun
  · next k hsome =>
    refine Work.Consults.bind (Work.consults_deviceRecord k) ?_ fun _ => ⟨hcall, nofun⟩
    intro device howner
    split
    · next heq =>
      refine hprepare fun k' hk' => ?_
      rw [hsome] at hk'
      cases hk'
      rw [howner, heq]
    · exact ⟨hcall, nofun⟩

/-- What a call keeps has the shape that the source declares which it has read. -/
theorem moves_keep {t : Target} {prepared : PreparedDriver} {g : Course} {s : LiveState}
    (h : t.Bound ro prepared g) (hs : ro.Relies s) {left : Dict String Value} {v : Value}
    {d : Option (DeviceId × Value)} (hleft : ro.E.left prepared.unit left)
    (htaken : t.leftBy prepared.unit.program left = .ok (v, d)) :
    ro.Moves g s (.accessed (Update.keep ⟨t.driver, v, d⟩)) g := by
  obtain ⟨hv, hd, hw⟩ := leftBy_eq_ok htaken
  let u : Update := ⟨t.driver, v, d⟩
  refine ⟨hs.catalog, ?_, ?_⟩
  · intro c
    rw [u.keeps?_keep, Flow.Act.after_accessed, u.value?_keep]
  · by_cases ht : t.driver = ro.id
    · obtain ⟨source, rfl, hleaves⟩ := h.driver ht
      refine .keep fun c v' _ hkeeps => ?_
      rw [u.keeps?_keep] at hkeeps
      cases c with
      | driver key =>
        obtain ⟨-, hkept⟩ := Option.ite_none_right_eq_some.1 hkeeps
        exact Option.some.inj hkept ▸ (hleaves left hleft).driver v hv
      | device k =>
        obtain ⟨⟨k', w⟩, rfl, hkeeps⟩ := Option.bind_eq_some_iff.1 hkeeps
        obtain ⟨-, hkept⟩ := Option.ite_none_right_eq_some.1 hkeeps
        exact Option.some.inj hkept ▸ (hleaves left hleft).device w (hw k' w rfl)
    · -- what another driver keeps is for itself or a device of its own
      refine .aside (Rollout.aside_of_keeps fun c howns => ?_)
      rw [u.keeps?_keep]
      cases c with
      | driver key =>
        obtain rfl : key = ro.id := howns
        exact if_neg ht
      | device k =>
        cases d with
        | none => rfl
        | some d =>
          obtain ⟨k', w⟩ := d
          refine if_neg ?_
          rintro rfl
          have howner : ro.first.owner? k' = some ro.id := howns
          rw [h.device k' hd.symm] at howner
          exact ht (Option.some.inj howner)

theorem follows_invokeChecked (hro : ro.Regular) {t : Target} {prepared : PreparedDriver}
    {g : Course} (hcall : g.IsCall) (h : t.Bound ro prepared g) (call : Call) (token : TokenId)
    (check : Value → Except Diagnostic β) :
    (t.invokeChecked prepared call token check).run.Keeps ro.protocol g fun _ g => g.IsCall := by
  unfold invokeChecked
  refine Work.Consults.bind (Work.consults_of_look _ _) ?_ fun _ => hcall
  rintro ⟨driver, device⟩ -
  refine Work.Consults.bind (Work.consults_runUnit hro _ _ _ _) ?_ fun _ => hcall
  rintro (⟨value, left⟩ | diagnostics) hleft
  · simp only
    split
    · exact Work.Consults.bind (Work.consults_report _) (fun _ _ => hcall) fun _ => hcall
    · refine Work.Consults.bind (Work.consults_of_done _ _) ?_ fun _ => hcall
      rintro ⟨v, d⟩ htaken
      refine Work.Consults.bind (Work.consults_record (Rollout.aside_putSingletons _ _ _)) ?_
        fun _ => hcall
      rintro _ -
      refine Attempt.keeps_bind.2 (Attempt.keeps_change fun s hs => ?_)
      exact ⟨g, moves_keep h hs (hleft value left rfl) htaken, hcall⟩
  · exact Work.Consults.bind (Work.consults_report _) (fun _ _ => hcall) fun _ => hcall

theorem follows_invoke (hro : ro.Regular) (t : Target) (call : Call) (token : TokenId)
    (before : Option String) :
    (t.invoke call token).run.Keeps ro.protocol (.calling before) fun _ g => g.IsCall := by
  refine Attempt.keeps_bind.2 ((t.follows_prepare hro before).mono ?_)
  rintro (e | prepared) g ⟨hcall, hbound⟩
  · exact hcall
  · exact follows_invokeChecked hro hcall (hbound prepared rfl) call token .ok

end Target

namespace Work

theorem follows_prepareDevice (hro : ro.Regular) (id : DeviceId) (capability : Capability)
    (before : Option String) :
    (prepareDevice id capability).run.Keeps ro.protocol (.calling before) fun x g => g.IsCall ∧
      ∀ found, x = .ok found → found.1.Bound ro found.2 g := by
  refine Consults.bind (consults_deviceRecord id) ?_ fun _ => ⟨⟨_, rfl⟩, nofun⟩
  intro device _
  refine Attempt.keeps_bind.2 ((Target.follows_prepare hro _ before).mono ?_)
  rintro (e | prepared) g ⟨hcall, hbound⟩
  · exact ⟨hcall, nofun⟩
  · simp only
    split
    · refine ⟨hcall, ?_⟩
      rintro _ ⟨⟩
      exact hbound prepared rfl
    · exact ⟨hcall, nofun⟩

theorem follows_act (hro : ro.Regular) (id : DeviceId) (request : ActionRequest) (token : TokenId)
    (before : Option String) :
    (act id request token).run.Keeps ro.protocol (.calling before) fun _ g => g.IsCall := by
  refine Attempt.keeps_bind.2 ((follows_prepareDevice hro id request.capability before).mono ?_)
  rintro (e | ⟨target, prepared⟩) g ⟨hcall, hbound⟩
  · exact hcall
  · exact Target.follows_invokeChecked hro hcall (hbound _ rfl) _ token _

theorem follows_validateDriver (hro : ro.Regular) (id : DriverId) (token : TokenId)
    (before : Option String) :
    (validateDriver id token).run.Keeps ro.protocol (.calling before) fun _ g => g.IsCall := by
  refine Attempt.keeps_bind.2 ((Target.follows_prepare hro ⟨id, none⟩ before).mono ?_)
  rintro (e | prepared) g ⟨hcall, hbound⟩
  · exact hcall
  · exact Target.follows_invokeChecked hro hcall (hbound prepared rfl) _ token _

/-- The scripts of users are no part of what drivers rely on. -/
theorem keeps_inScripts {flow : Flow services UnitCache α} (h : flow.Asks Service.Reads) (g : Course) :
    (flow.embed LiveState.scripts (fun scripts s => { s with scripts }) Service.request).Keeps
      ro.protocol g fun _ g' => g' = g := by
  induction flow with
  | done a => rfl
  | access update next ih =>
    intro s hs
    exact ⟨g, .of_quiet (fun _ => rfl) hs.catalog, ih _ (h _)⟩
  | ask q next ih =>
    intro s b hs _
    exact ⟨g, .of_asked hs (.aside (Rollout.aside_of_reads q h.1 b)), ih b (h.2 b)⟩

theorem consults_scriptUnit (program : Program) (revision : String) :
    (scriptUnit program revision).Consults ro fun _ => True := by
  intro g
  have hasks := (UnitCache.asks_getOrCompile program revision).mono fun _ => Service.LooksUp.reads
  refine Attempt.keeps_of.2 ((keeps_inScripts hasks g).mono ?_)
  rintro x _ rfl
  exact ⟨rfl, fun _ _ => trivial⟩

theorem consults_unitOf (script : ScriptRecord) : (unitOf script).Consults ro fun _ => True := by
  unfold unitOf
  refine Consults.andThen (consults_look _) ?_
  rintro (_ | unit) -
  · have hanalyze : Consults ro (Attempt.of .engine
        (Service.request (.analyze script.id script.source)) : Work Analysis) fun _ => True := by
      refine fun g => Attempt.keeps_of.2 fun s b hs _ => ?_
      have haside : ro.Aside (.asked (.analyze script.id script.source) b) :=
        Rollout.aside_of_reads (.analyze script.id script.source) trivial b
      exact ⟨g, .of_asked hs (.aside haside), rfl, fun _ _ => trivial⟩
    refine hanalyze.andThen ?_
    rintro (⟨program, warnings⟩ | diagnostics) -
    · exact (consults_scriptUnit program script.source).andThen fun _ _ => consults_pure trivial
    · exact consults_pure trivial
  · exact consults_pure trivial

theorem consults_invokeScript (hro : ro.Regular) (id : String) (call : Call) (token : TokenId) :
    (invokeScript id call token).Consults ro fun _ => True := by
  unfold invokeScript
  refine Consults.andThen (consults_read rfl) fun found _ => ?_
  refine Consults.andThen (consults_some _ _) fun script _ => ?_
  refine Consults.andThen (consults_unitOf script) ?_
  rintro (diagnostics | unit) -
  · exact consults_pure trivial
  · refine Consults.andThen (consults_runUnit hro unit call [] token) ?_
    rintro (⟨value, left⟩ | diagnostics) -
    · exact consults_pure trivial
    · exact consults_pure trivial

theorem keeps_drop {work : Work α} {g : Course} {Q : Course → Prop}
    (h : work.run.Keeps ro.protocol g fun _ g => Q g) :
    work.drop.run.Keeps ro.protocol g fun _ g => Q g := by
  refine Attempt.keeps_bind.2 (h.mono ?_)
  rintro (e | a) g hg <;> exact hg

end Work

theorem Operation.IsCall.follows (hro : ro.Regular) {op : Operation} (h : op.IsCall) :
    op.work.run.Keeps ro.protocol (.calling none) fun _ g => g.IsCall := by
  cases op with
  | invoke target call token => exact Work.keeps_drop (target.follows_invoke hro call token none)
  | act device request token =>
    refine Work.keeps_drop (Attempt.keeps_bind.2 ?_)
    refine (Work.follows_act hro device request token none).mono ?_
    rintro (e | outcome) g hg <;> exact hg
  | validateDriver id token => exact Work.keeps_drop (Work.follows_validateDriver hro id token none)
  | invokeScript id call token =>
    refine Work.keeps_drop ((Work.consults_invokeScript hro id call token _).mono ?_)
    rintro x _ ⟨rfl, -⟩
    exact ⟨none, rfl⟩
  | _ => exact h.elim

/-! ### New code -/

namespace Singletons

theorem value?_setDriver (s : Singletons) (id : DriverId) (v : Value) (c : ConfigTarget) :
    (s.setDriver id v).value? c = if c = .driver id then some v else s.value? c := by
  cases c with
  | driver key =>
    simp only [value?, find?_setDriver, ConfigTarget.driver.injEq]
    exact if_congr eq_comm rfl rfl
  | device k => simp [value?]

theorem value?_setDevice (s : Singletons) (id : DeviceId) (v : Value) (c : ConfigTarget) :
    (s.setDevice id v).value? c = if c = .device id then some v else s.value? c := by
  cases c with
  | driver key => simp [value?, setDevice]
  | device k =>
    simp only [value?, find?_setDevice, ConfigTarget.device.injEq]
    exact if_congr eq_comm rfl rfl

end Singletons

theorem Course.finished_preparing : Course.preparing.Finished := nofun

namespace Rollout

theorem fits_carryOver (hro : ro.Regular) {c : ConfigTarget} {source : String} {v : Value}
    (hknown : ro.Known source) (h : ro.Fits source c v) (saved : Option Json) :
    ro.Fits ro.new c (((ro.declared ro.new).schemaOf c).carryOver v saved false) := by
  have hnew := (hro.declares _ (.inr rfl)).plain c
  have hsource := (hro.declares _ hknown).plain c
  cases saved <;> exact Schema.hasShape_migrate _ hnew hsource h

/-- New code that sets one singleton has one less to set. -/
theorem moves_settle {due : ConfigTarget → Prop} {s : LiveState} {update : LiveState → LiveState}
    {target : ConfigTarget} {v : Value} (hs : ro.Relies s)
    (catalog : ∀ l, (update l).catalog = l.catalog)
    (value : ∀ l c, (update l).singletons.value? c =
      if c = target then some v else l.singletons.value? c)
    (h : ro.Fits ro.new target v) :
    ro.Moves (.settling due) s (.accessed update) (.settling fun c => due c ∧ c ≠ target) := by
  have hkeeps (c : ConfigTarget) : keeps? c (.accessed update) = if c = target then some v else none := by
    refine (value {} c).trans ?_
    cases c <;> rfl
  have hdue : (fun c => due c ∧ c ≠ target) = fun c => due c ∧ keeps? c (.accessed update) = none := by
    funext c
    simp [hkeeps]
  refine ⟨?_, fun c => ?_, ?_⟩
  · rw [Flow.Act.after_accessed, catalog]
    exact hs.catalog
  · rw [Flow.Act.after_accessed, value, hkeeps]
    split <;> simp
  · rw [hdue]
    refine .settle fun c v' _ hc => ?_
    rw [hkeeps] at hc
    obtain ⟨rfl, hv⟩ := Option.ite_none_right_eq_some.1 hc
    exact Option.some.inj hv ▸ h

end Rollout

namespace Work

/-- The devices of the driver are saved under the new schema, each of them. -/
theorem consults_migrateDevices (hro : ro.Regular) (devices : List DeviceRecord)
    (howners : ∀ device ∈ devices, ro.first.owner? device.id = some device.driver) :
    (migrateDevices ro.id (ro.declared ro.new).deviceSchema false devices).Consults ro fun moved =>
      (∀ e ∈ moved, ro.Fits ro.new (.device e.1) e.2) ∧
        ∀ device ∈ devices, device.driver = ro.id → ∃ v, (device.id, v) ∈ moved := by
  induction devices with
  | nil => exact consults_pure ⟨nofun, nofun⟩
  | cons device rest ih =>
    have hrest := ih fun d hd => howners d (List.mem_cons_of_mem _ hd)
    have howner := howners device List.mem_cons_self
    unfold migrateDevices
    by_cases hdriver : device.driver = ro.id
    · rw [if_pos hdriver]
      refine Consults.andThen (consults_of_look _ _) ?_
      rintro v ⟨s, hs, hv⟩
      have howns : ro.Owns (.device device.id) := howner.trans (congrArg some hdriver)
      obtain ⟨v', source, hv', hknown, hfits⟩ := hs.values _ howns
      obtain rfl : v = v' := Option.some.inj ((Singletons.device_eq_ok.1 hv).symm.trans hv')
      refine Consults.andThen (consults_record (Rollout.aside_putDevice howner)) fun _ _ => ?_
      refine hrest.andThen fun moved hmoved => consults_pure ⟨?_, ?_⟩
      · rintro e (_ | ⟨_, he⟩)
        · exact Rollout.fits_carryOver hro hknown hfits device.singleton
        · exact hmoved.1 e he
      · rintro d (_ | ⟨_, hd⟩) hid
        · exact ⟨_, List.mem_cons_self⟩
        · obtain ⟨w, hw⟩ := hmoved.2 d hd hid
          exact ⟨w, List.mem_cons_of_mem _ hw⟩
    · rw [if_neg hdriver]
      refine hrest.mono fun moved hmoved => ⟨hmoved.1, ?_⟩
      rintro d (_ | ⟨_, hd⟩) hid
      · exact absurd hid hdriver
      · exact hmoved.2 d hd hid

/-- New code that has only these devices left to set is finished when it has set them. -/
theorem follows_setDevices (moved : List (DeviceId × Value))
    (hfits : ∀ e ∈ moved, ro.Fits ro.new (.device e.1) e.2) (due : ConfigTarget → Prop)
    (hdue : ∀ c, due c → ∃ e ∈ moved, c = .device e.1) :
    (setDevices moved).run.Keeps ro.protocol (.settling due) fun _ g => g.Finished := by
  induction moved generalizing due with
  | nil =>
    rintro _ ⟨⟩ c hc
    obtain ⟨e, he, -⟩ := hdue c hc
    cases he
  | cons e rest ih =>
    unfold setDevices
    let left (c : ConfigTarget) : Prop := due c ∧ c ≠ .device e.1
    refine Attempt.keeps_bind.2 (Attempt.keeps_change fun s hs => ⟨.settling left, ?_, ?_⟩)
    · exact Rollout.moves_settle hs (fun _ => rfl) (fun l => l.singletons.value?_setDevice e.1 e.2)
        (hfits e List.mem_cons_self)
    · refine ih (fun e he => hfits e (List.mem_cons_of_mem _ he)) _ ?_
      rintro c ⟨hc, hne⟩
      obtain ⟨e', he', rfl⟩ := hdue c hc
      rcases List.mem_cons.1 he' with rfl | he'
      · exact absurd rfl hne
      · exact ⟨e', he', rfl⟩

theorem exists_device_of_owns {r : Records} (hr : ro.Stands r) {k : DeviceId}
    (h : ro.Owns (.device k)) :
    ∃ device ∈ Dict.values r.devices, device.driver = ro.id ∧ device.id = k := by
  have howner : r.owner? k = some ro.id := (hr.owners k).trans h
  obtain ⟨device, hfind, hdriver⟩ := Option.map_eq_some_iff.1 howner
  have hid := hr.keyed.find?_device hfind
  refine ⟨device, ?_, hdriver, hid⟩
  rw [hr.keyed.mem_devices, hid]
  exact hfind

theorem follows_upgrade (hro : ro.Regular) (driver : DriverRecord) (hid : driver.id = ro.id)
    (hsource : driver.source = ro.new) (e : Extraction) :
    (upgrade driver (ro.declared ro.new) false e).run.Keeps ro.protocol .preparing
      fun _ g => g.Finished := by
  unfold upgrade
  refine Consults.bind (consults_of_look _ _) ?_ fun _ => Course.finished_preparing
  rintro v ⟨s, hs, hv⟩
  obtain ⟨v', source, hv', hknown, hfits⟩ := hs.values (.driver driver.id) hid
  obtain rfl : v = v' := Option.some.inj ((Singletons.driver_eq_ok.1 hv).symm.trans hv')
  have hnew : ro.Fits ro.new (.driver driver.id)
      ((ro.declared ro.new).driverSchema.carryOver v driver.singleton false) :=
    Rollout.fits_carryOver hro hknown hfits driver.singleton
  refine Consults.bind (consults_read rfl) ?_ fun _ => Course.finished_preparing
  rintro _ ⟨r, hr, rfl⟩
  have howners : ∀ device ∈ Dict.values r.devices,
      ro.first.owner? device.id = some device.driver := by
    intro device hdevice
    rw [← hr.owners]
    exact Records.owner?_of_find? (hr.keyed.mem_devices.1 hdevice)
  rw [hid]
  refine Consults.bind (consults_migrateDevices hro _ howners) ?_ fun _ => Course.finished_preparing
  rintro moved ⟨hmoved, hall⟩
  refine Attempt.keeps_bind.2 (Attempt.keeps_of.2 ?_)
  rintro s' b hs' ⟨r', r'', -, ⟨rfl, -⟩ | ⟨fault, -, rfl, -⟩⟩
  · refine ⟨_, .of_asked hs' (.record rfl hsource), ?_⟩
    refine Attempt.keeps_bind.2 fun s b hs _ => ⟨_, .of_asked hs (.aside ?_), ?_⟩
    · exact Rollout.aside_of_reads (.log _) trivial b
    let left (c : ConfigTarget) : Prop := ro.Owns c ∧ c ≠ .driver ro.id
    refine Attempt.keeps_bind.2 (Attempt.keeps_change fun s hs => ⟨.settling left, ?_, ?_⟩)
    · exact Rollout.moves_settle hs (fun _ => rfl) (fun l => l.singletons.value?_setDriver ro.id _) hnew
    · refine Attempt.keeps_bind.2 ((follows_setDevices moved hmoved left ?_).mono ?_)
      · rintro c ⟨howns, hne⟩
        cases c with
        | driver key => exact absurd (congrArg ConfigTarget.driver howns) hne
        | device k =>
          obtain ⟨device, hdevice, hdriver, rfl⟩ := exists_device_of_owns hr howns
          obtain ⟨w, hw⟩ := hall device hdevice hdriver
          exact ⟨_, hw, rfl⟩
      · rintro (e | a) g hg <;> exact hg
  · exact ⟨_, .of_asked hs' (.aside (Rollout.aside_of_fault _ fault)), Course.finished_preparing⟩

/-- New code, wherever others change what it has read, ends with nothing left to set. -/
theorem follows_applyCode (hro : ro.Regular) :
    (applyCode ro.id ro.new).run.Keeps ro.protocol .preparing fun _ g => g.Finished := by
  have hprepared : ∀ _ : HubError, Course.preparing.Finished := fun _ => Course.finished_preparing
  unfold applyCode
  refine Consults.bind (consults_driverRecord ro.id) ?_ hprepared
  rintro ⟨id, name, version, source, singleton⟩ ⟨hid, hknown⟩
  obtain rfl : id = ro.id := hid
  refine Consults.bind (consults_inHub (Rollout.keeps_extraction hro _)) ?_ hprepared
  intro before hbefore
  obtain ⟨p, warnings, rfl⟩ := (hro.declares _ (hknown rfl)).valid _ hbefore
  refine Consults.bind (consults_change (fun _ => rfl) fun l => Findings.in_invalidate ro.id) ?_
    hprepared
  rintro _ -
  refine Consults.bind (consults_inHub (Rollout.keeps_extraction hro _)) ?_ hprepared
  intro e he
  obtain ⟨p', warnings', rfl⟩ := (hro.declares _ (.inr rfl)).valid _ he
  exact follows_upgrade hro ⟨ro.id, name, version, ro.new, singleton⟩ rfl rfl
    (.valid (ro.declared ro.new) p' warnings')

end Work

end DriverHub
