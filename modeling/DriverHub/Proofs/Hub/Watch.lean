import DriverHub.Proofs.Dispatch.Callbacks
import DriverHub.Proofs.Flow.Matter
import DriverHub.Proofs.Hub.Annotations

/-! A device whose annotations are watched, while all kinds of operations are under way. Calls of
scripts and lookups leave its annotations, its driver and the driver's source alone. -/

namespace DriverHub

/-- A device, and the host of its hub. -/
structure Watch where
  host : Host
  /-- What the host's analyses tell. -/
  analyze : Analyzer
  reliable : analyze.extractions.Of host
  device : DeviceId
  /-- The drivers that the device may belong to. -/
  drivers : List DriverId

namespace Watch

variable (wt : Watch)

/-- The hub as every operation keeps it. It follows changes, and the device belongs to one of the
drivers. -/
structure Sound (hub : Hub) (r : Records) : Prop where
  following : hub.following = true
  labelled : hub.dispatch.table.Labelled
  catalog : wt.analyze.extractions.In ⟨hub.live.catalog.extractions, []⟩
  keyed : r.Keyed
  owner : ∀ driver, r.owner? wt.device = some driver → driver ∈ wt.drivers

/-- The device has the driver that it had, and the drivers have the sources that they had. -/
structure Unmoved (r r' : Records) : Prop where
  owner : r'.owner? wt.device = r.owner? wt.device
  source : ∀ driver ∈ wt.drivers, r'.source? driver = r.source? driver

variable {wt} {hub hub' : Hub} {r r' r'' : Records}

theorem Unmoved.refl (r : Records) : wt.Unmoved r r := ⟨rfl, fun _ _ => rfl⟩

theorem Unmoved.symm (h : wt.Unmoved r r') : wt.Unmoved r' r :=
  ⟨h.owner.symm, fun driver hd => (h.source driver hd).symm⟩

theorem Unmoved.trans (h : wt.Unmoved r r') (h' : wt.Unmoved r' r'') : wt.Unmoved r r'' :=
  ⟨h'.owner.trans h.owner, fun driver hd => (h'.source driver hd).trans (h.source driver hd)⟩

variable (wt)

/-- The annotations of the device, its driver and the sources of the drivers. -/
def matter : Flow.Matter Hub Records where
  sound := wt.Sound
  spares hub r hub' r' := hub.dispatch.Spares wt.device hub'.dispatch ∧ wt.Unmoved r r'
  spares_refl _ r := ⟨.refl _ _, .refl r⟩
  spares_trans h h' := ⟨h.1.trans h'.1, h.2.trans h'.2⟩

/-- An operation among others, which holds the device or not. -/
abbrev Guards {α : Type} (holds : Bool) (flow : Hosted α) (hub : Hub) (r : Records)
    (Q : α → Hub → Records → Prop) : Prop :=
  flow.Guarded wt.host.HubAnswers wt.matter holds hub r Q

abbrev Harmless {α : Type} (flow : Hosted α) (P : α → Prop) : Prop :=
  Flow.Harmless wt.host.HubAnswers wt.matter flow P

end Watch

/-- What matters of the hub to the annotations of a device. -/
def Hub.essence (hub : Hub) : DispatchState × Bool × Dict DriverId (String × Extraction) :=
  (hub.dispatch, hub.following, hub.live.catalog.extractions)

/-- Questions that give no device to another driver and no driver another source. -/
def HostService.Tame : HostService → Prop
  | .service (.record (.putSingletons ..)) => True
  | .service q => q.Reads
  | _ => True

theorem Service.Reads.tame {q : Service} (h : q.Reads) : (HostService.service q).Tame := by
  cases q with
  | record op => cases op <;> first | exact h | trivial
  | _ => trivial

namespace Watch

variable {wt : Watch} {hub hub' : Hub} {r r' : Records}

theorem Sound.of_essence (h : wt.Sound hub r) (hessence : hub'.essence = hub.essence) :
    wt.matter.sound hub' r ∧ wt.matter.spares hub r hub' r := by
  obtain ⟨hdispatch, hfollowing, hextractions⟩ :
      hub'.dispatch = hub.dispatch ∧ hub'.following = hub.following ∧
        hub'.live.catalog.extractions = hub.live.catalog.extractions := by
    simpa [Hub.essence] using hessence
  refine ⟨⟨?_, ?_, ?_, h.keyed, h.owner⟩, ?_, .refl r⟩
  · rw [hfollowing, h.following]
  · rw [hdispatch]
    exact h.labelled
  · rw [hextractions]
    exact h.catalog
  · rw [hdispatch]
    exact .refl _ _

theorem Sound.of_unmoved (h : wt.Sound hub r) (hkeyed : r'.Keyed) (hmoved : wt.Unmoved r r') :
    wt.matter.sound hub r' ∧ wt.matter.spares hub r hub r' := by
  refine ⟨{ h with keyed := hkeyed, owner := fun driver hd => ?_ }, .refl _ _, hmoved⟩
  exact h.owner driver (hmoved.owner.symm.trans hd)

theorem Sound.of_catalog (h : wt.Sound hub r) {live : LiveState}
    (hcatalog : wt.analyze.extractions.In ⟨live.catalog.extractions, []⟩) :
    wt.matter.sound { hub with live } r ∧ wt.matter.spares hub r { hub with live } r :=
  ⟨{ h with catalog := hcatalog }, .refl _ _, .refl r⟩

theorem unmoved_of_tame {q : HostService} (hq : q.Tame) (hr : r.Keyed) {b : q.Answer}
    (h : wt.host.HubAnswers r q b r') : r'.Keyed ∧ wt.Unmoved r r' := by
  cases q with
  | service q =>
    cases q with
    | record op =>
      rcases h with ⟨-, rfl⟩ | ⟨e, -, -, rfl⟩
      · refine ⟨hr.apply op, ?_⟩
        cases op with
        | putSingletons driver json device =>
          refine ⟨Records.owner?_putSingletons _ _ _ _, fun driver _ => ?_⟩
          exact Records.source?_putSingletons _ _ _ driver
        | driver | drivers | device | devices | script => exact .refl r
        | _ => cases hq
      · exact ⟨hr, .refl _⟩
    | analyze | compile | run =>
      obtain rfl := h.2
      exact ⟨hr, .refl _⟩
    | _ =>
      cases h
      exact ⟨hr, .refl _⟩
  | _ =>
    cases h
    exact ⟨hr, .refl _⟩

variable {α β : Type} {holds : Bool}

theorem harmless_ask {q : HostService} (hq : q.Tame) :
    wt.Harmless (Hosted.ask q) fun b => ∃ hub r r', wt.Sound hub r ∧ wt.host.HubAnswers r q b r' := by
  refine .ask fun hub r b r' hsound hb => ?_
  obtain ⟨hkeyed, hmoved⟩ := unmoved_of_tame hq hsound.keyed hb
  obtain ⟨hsound', hspares⟩ := hsound.of_unmoved hkeyed hmoved
  exact ⟨hsound', hspares, .done ⟨hub, r, r', hsound, hb⟩⟩

theorem harmless_of_leaves {flow : Hosted α} (hleaves : flow.Leaves Hub.essence)
    (hasks : flow.Asks HostService.Tame) : wt.Harmless flow fun _ => True := by
  induction flow with
  | done a => exact .done trivial
  | access update next ih =>
    exact .access (fun hub r hsound => hsound.of_essence (hleaves.1 hub))
      fun hub r _ => ih hub (hleaves.2 hub) (hasks hub)
  | ask q next ih =>
    refine .ask fun hub r b r' hsound hb => ?_
    obtain ⟨hkeyed, hmoved⟩ := unmoved_of_tame hasks.1 hsound.keyed hb
    obtain ⟨hsound', hspares⟩ := hsound.of_unmoved hkeyed hmoved
    exact ⟨hsound', hspares, ih b (hleaves b) (hasks.2 b)⟩

/-! ### Operations on drivers and devices -/

/-- An operation on drivers and devices that is harmless. What it finds is as `P` says. -/
def HarmlessWork (wt : Watch) (w : Work α) (P : α → Prop) : Prop :=
  wt.Harmless (Hosted.work w) fun x => ∀ a, x = .ok a → P a

/-- A harmless operation that cannot fail. -/
def SureWork (wt : Watch) (w : Work α) : Prop :=
  wt.Harmless (Hosted.work w) fun x => ∃ a, x = .ok a

namespace SureWork

variable {first : Work α} {k : α → Work β}

theorem harmless (h : wt.SureWork first) : wt.HarmlessWork first fun _ => True :=
  Flow.Harmless.mono h fun _ _ _ _ => trivial

theorem pure (a : α) : wt.SureWork (pure a) := .done ⟨a, rfl⟩

theorem bind (h : wt.SureWork first) (hk : ∀ a, wt.SureWork (k a)) : wt.SureWork (first >>= k) := by
  intro holds hub r hsound
  refine Flow.Guarded.attempt_bind (h holds hub r hsound) ?_ ?_
  · rintro a hub' r' ⟨hrelies, -⟩
    refine (hk a holds hub' r' hrelies.1).mono ?_
    rintro x hub'' r'' ⟨hrelies', hx⟩
    exact ⟨hrelies.trans hrelies', hx⟩
  · rintro e hub' r' ⟨-, _, ⟨⟩⟩

theorem change {f : LiveState → LiveState} (hf : ∀ l, (f l).catalog = l.catalog) :
    wt.SureWork (Attempt.change f) := by
  refine .access (fun hub r hsound => hsound.of_essence ?_) fun _ _ _ => .done ⟨(), rfl⟩
  change (hub.dispatch, hub.following, (f hub.live).catalog.extractions) = _
  rw [hf]
  rfl

theorem invalidate (id : DriverId) : wt.SureWork (Attempt.change fun s : LiveState =>
    { s with catalog := s.catalog.invalidate id }) :=
  .access (fun _ _ hsound => hsound.of_catalog (Findings.in_invalidate id hsound.catalog))
    fun _ _ _ => .done ⟨(), rfl⟩

theorem report (line : LogLine) : wt.SureWork (Attempt.report line : Work Unit) :=
  Flow.Harmless.bind (harmless_ask trivial) fun a _ => .done ⟨a, rfl⟩

end SureWork

namespace HarmlessWork

variable {first : Work α} {k : α → Work β} {P : α → Prop}

theorem mono {Q : α → Prop} (h : wt.HarmlessWork first P) (hPQ : ∀ a, P a → Q a) :
    wt.HarmlessWork first Q :=
  Flow.Harmless.mono h fun _ hx a ha => hPQ a (hx a ha)

theorem bind {Q : β → Prop} (h : wt.HarmlessWork first P)
    (hk : ∀ a, P a → wt.HarmlessWork (k a) Q) : wt.HarmlessWork (first >>= k) Q := by
  intro holds hub r hsound
  refine Flow.Guarded.attempt_bind (h holds hub r hsound) ?_ ?_
  · rintro a hub' r' ⟨hrelies, ha⟩
    refine (hk a (ha a rfl) holds hub' r' hrelies.1).mono ?_
    rintro x hub'' r'' ⟨hrelies', hx⟩
    exact ⟨hrelies.trans hrelies', hx⟩
  · rintro e hub' r' ⟨hrelies, -⟩
    exact ⟨hrelies, nofun⟩

theorem pure {a : α} (ha : P a) : wt.HarmlessWork (pure a) P := by
  refine .done ?_
  rintro _ ⟨⟩
  exact ha

theorem fail (e : HubError) : wt.HarmlessWork (Attempt.fail e) P := .done nofun

theorem some (e : HubError) (a : Option α) :
    wt.HarmlessWork (Attempt.some e a) fun b => a = some b := by
  cases a with
  | none => exact fail e
  | some a => exact pure rfl

theorem of_done {ε : Type} (wrap : ε → HubError) (x : Except ε α) :
    wt.HarmlessWork (Attempt.of wrap (.done x)) fun a => x = .ok a := by
  refine .done ?_
  cases x with
  | error e => nofun
  | ok a =>
    rintro _ ⟨⟩
    rfl

theorem of_leaves {w : Work α} (hleaves : (Hosted.work w).Leaves Hub.essence)
    (hasks : (Hosted.work w).Asks HostService.Tame) : wt.HarmlessWork w fun _ => True :=
  (harmless_of_leaves hleaves hasks).mono fun _ _ _ _ => trivial

theorem look (f : LiveState → α) : wt.HarmlessWork (Attempt.look f) fun _ => True :=
  of_leaves ⟨fun _ => rfl, fun _ => trivial⟩ fun _ => trivial

theorem of_look {ε : Type} (wrap : ε → HubError) (f : LiveState → Except ε α) :
    wt.HarmlessWork (Attempt.of wrap (Flow.look f)) fun _ => True :=
  of_leaves ⟨fun _ => rfl, fun _ => trivial⟩ fun _ => trivial

theorem ask {q : Service} (hq : (HostService.service q).Tame) :
    wt.HarmlessWork (Work.ask q) fun _ => True :=
  of_leaves (fun _ => trivial) ⟨hq, fun _ => trivial⟩

theorem record {op : RecordOp} (hop : (HostService.service (.record op)).Tame) :
    wt.HarmlessWork (Work.record op) fun _ => True :=
  of_leaves (fun _ => trivial) ⟨hop, fun _ => trivial⟩

end HarmlessWork

/-- What is read is what there is at that time. -/
theorem guards_read {op : RecordOp} (hop : op.isRead = true) (hsound : wt.Sound hub r) :
    wt.Guards holds (Hosted.ask (.service (.record op))) hub r fun x hub' r' =>
      wt.matter.Relies holds hub r hub' r' ∧ ∀ a, x = .ok a → a = op.result r := by
  have hkeep : ∀ x r', wt.host.HubAnswers r (.service (.record op)) x r' →
      r' = r ∧ ∀ a, x = .ok a → a = op.result r := by
    rintro x r' (⟨rfl, rfl⟩ | ⟨e, -, rfl, rfl⟩)
    · refine ⟨Records.apply_of_isRead hop, ?_⟩
      rintro _ ⟨⟩
      rfl
    · exact ⟨rfl, nofun⟩
  intro x r' hx
  obtain ⟨rfl, hresult⟩ := hkeep x r' hx
  exact ⟨.of_spares hsound (wt.matter.spares_refl hub r'), fun hub' r'' hrelies => ⟨hrelies, hresult⟩⟩

theorem guards_record {op : RecordOp} (hop : op.isRead = true) (hsound : wt.Sound hub r) :
    wt.Guards holds (Hosted.work (Work.record op)) hub r fun x hub' r' =>
      wt.matter.Relies holds hub r hub' r' ∧ ∀ a, x = .ok a → a = op.result r := by
  refine Flow.Guarded.bind (guards_read hop hsound) ?_
  rintro (e | a) hub' r' ⟨hrelies, hresult⟩
  · exact ⟨hrelies, nofun⟩
  · refine ⟨hrelies, ?_⟩
    rintro _ ⟨⟩
    exact hresult a rfl

end Watch

/-! ### Lookups -/

theorem Lookup.inHub_bind {α β : Type} (lookup : Lookup α) (k : α → Lookup β) :
    (lookup >>= k).inHub = lookup.inHub >>= fun a => (k a).inHub := by
  refine congrArg Attempt.mk ((Flow.embed_bind lookup.run _).trans ?_)
  refine congrArg (lookup.inHub.run >>= ·) (funext fun x => ?_)
  cases x <;> rfl

namespace Watch

variable {wt : Watch} {hub hub' : Hub} {r r' : Records} {α β : Type} {holds : Bool}

theorem harmless_extraction (driver : DriverRecord) : wt.HarmlessWork driver.extraction.inHub
    (wt.analyze.extractions.source driver.id driver.source) := by
  have hknown : wt.HarmlessWork (Lookup.inHub (.look (Catalog.known? driver))) fun x =>
      ∀ e, x = some e → wt.analyze.extractions.source driver.id driver.source e := by
    refine .access (fun hub r hsound => hsound.of_essence rfl) fun hub r hsound => .done ?_
    rintro _ ⟨⟩ e he
    exact Findings.of_known? hsound.catalog he
  have hanalyzed : wt.HarmlessWork (Lookup.inHub (Attempt.of .engine
      (Service.request (.analyze driver.id.programId driver.source)))) fun analysis =>
        wt.host.analyzes driver.id.programId driver.source (.ok analysis) := by
    refine Flow.Harmless.ask fun hub r x r' hsound hx => ?_
    obtain ⟨hx, rfl⟩ := hx
    refine ⟨hsound, wt.matter.spares_refl hub r', .done ?_⟩
    cases x with
    | error e => nofun
    | ok analysis =>
      rintro _ ⟨⟩
      exact hx
  have hremembered : ∀ e, wt.analyze.extractions.source driver.id driver.source e →
      wt.HarmlessWork (Lookup.inHub (do
        Attempt.change (Catalog.remember driver e)
        return e)) (wt.analyze.extractions.source driver.id driver.source) := by
    intro e he
    refine .access (fun hub r hsound => ?_) fun hub r hsound => .done ?_
    · exact hsound.of_catalog (Findings.in_remember driver e hsound.catalog he)
    · rintro _ ⟨⟩
      exact he
  unfold DriverRecord.extraction
  rw [Lookup.inHub_bind]
  refine hknown.bind ?_
  rintro (_ | e) he
  · simp only
    rw [Lookup.inHub_bind]
    refine hanalyzed.bind fun analysis hanalysis => ?_
    have he := wt.reliable.source driver.id driver.source analysis hanalysis
    split
    · rw [Lookup.inHub_bind]
      exact (SureWork.report _).harmless.bind fun _ _ => hremembered _ he
    · exact hremembered _ he
  · exact .pure (he e rfl)

theorem harmless_validInfo (driver : DriverRecord) :
    wt.HarmlessWork driver.validInfo.inHub fun _ => True := by
  unfold DriverRecord.validInfo
  rw [Lookup.inHub_bind]
  refine (harmless_extraction driver).bind ?_
  rintro (_ | _) -
  · exact .pure trivial
  · exact .fail _

/-- What only works on the units that are kept is harmless. -/
theorem harmless_onUnits {flow : Attempt services UnitCache EngineError α}
    (hasks : flow.Asks Service.Reads) :
    wt.HarmlessWork (Lookup.inHub (Attempt.of .engine (flow.run.embed Catalog.units
      (fun units c => { c with units }) Service.request))) fun _ => True := by
  have hunits : (flow.run.embed Catalog.units (fun units c => { c with units })
      Service.request).Leaves Catalog.extractions :=
    .embed _ (fun _ _ => rfl) fun _ _ => trivial
  have hcatalog := hunits.bind (k := fun x => .done (x.mapError HubError.engine)) fun _ => trivial
  have hlive : (Lookup.inHub (Attempt.of .engine (flow.run.embed Catalog.units
      (fun units c => { c with units }) Service.request))).run.Leaves
        fun l : LiveState => l.catalog.extractions :=
    hcatalog.embed_of (fun _ _ h => h) fun _ _ => trivial
  refine .of_leaves (hlive.embed_of (fun _ hub h => ?_) fun _ _ => trivial) ?_
  · exact congrArg (hub.dispatch, hub.following, ·) h
  · have hunits := Flow.Asks.embed hasks Catalog.units fun units c => { c with units }
    have hasks' := hunits.bind
      (k := fun x => .done (x.mapError HubError.engine)) fun _ => trivial
    exact (hasks'.embed _ _).embed_of fun q hq => ⟨hq.tame, fun _ => trivial⟩

/-- A driver that is ready to run has the annotations in its source. -/
theorem harmless_prepare (driver : DriverRecord) :
    wt.HarmlessWork driver.prepare.inHub fun prepared =>
      prepared.program.triggers = wt.analyze.annotations driver.id driver.source := by
  unfold DriverRecord.prepare
  rw [Lookup.inHub_bind]
  refine (harmless_extraction driver).bind ?_
  rintro (⟨info, program, warnings⟩ | _) he
  · simp only
    rw [Lookup.inHub_bind]
    have hasks := (UnitCache.asks_getOrCompile program driver.source).mono fun _ =>
      Service.LooksUp.reads
    refine (harmless_onUnits hasks).bind fun unit _ => ?_
    exact .pure (Analyzer.annotations_of_found he).symm
  · exact .fail _

/-- A driver that is found has the identity that it was looked up by. -/
theorem harmless_driverRecord (id : DriverId) :
    wt.HarmlessWork (Work.driverRecord id) fun driver => driver.id = id := by
  have hfound : wt.HarmlessWork (Work.record (.driver id)) fun x => ∀ driver, x = some driver →
      driver.id = id := by
    refine Flow.Harmless.bind (harmless_ask rfl) ?_
    rintro (e | a) ⟨hub, r, r', hsound, hx⟩
    · exact .done nofun
    · refine .done ?_
      rintro _ ⟨⟩ driver rfl
      rcases hx with ⟨hx, -⟩ | ⟨e, -, hx, -⟩
      · exact hsound.keyed.find?_driver (Except.ok.inj hx).symm
      · cases hx
  refine hfound.bind fun x hx => ?_
  exact (HarmlessWork.some _ x).mono hx

theorem harmless_deviceRecord (id : DeviceId) :
    wt.HarmlessWork (Work.deviceRecord id) fun _ => True :=
  .bind (.record rfl) fun _ _ => (HarmlessWork.some _ _).mono fun _ _ => trivial

theorem harmless_prepareTarget (t : Target) : wt.HarmlessWork t.prepare fun _ => True := by
  have hprepared : ∀ driver : DriverRecord, wt.HarmlessWork driver.prepare.inHub fun _ => True :=
    fun driver => (harmless_prepare driver).mono fun _ _ => trivial
  unfold Target.prepare
  refine (harmless_driverRecord _).bind fun driver _ => ?_
  split
  · exact hprepared driver
  · refine (harmless_deviceRecord _).bind fun device _ => ?_
    split
    · exact hprepared driver
    · exact .fail _

theorem harmless_runUnit (unit : CompiledUnit) (call : Call) (injected : Dict String Value)
    (token : TokenId) : wt.HarmlessWork (Work.runUnit unit call injected token) fun _ => True := by
  unfold Work.runUnit
  refine (HarmlessWork.look _).bind fun timeout _ => ?_
  refine HarmlessWork.bind (.ask trivial) fun deadline _ => ?_
  refine HarmlessWork.bind (.ask trivial) fun outcome _ => ?_
  refine HarmlessWork.bind (.ask trivial) fun _ _ => ?_
  exact (HarmlessWork.of_done _ _).mono fun _ _ => trivial

theorem harmless_invoke (t : Target) (call : Call) (token : TokenId) :
    wt.HarmlessWork (t.invoke call token) fun _ => True := by
  unfold Target.invoke
  refine (harmless_prepareTarget t).bind fun prepared _ => ?_
  unfold Target.invokeChecked
  refine (HarmlessWork.of_look _ _).bind fun loaded _ => ?_
  refine (harmless_runUnit _ _ _ _).bind ?_
  rintro (⟨value, left⟩ | diagnostics) -
  · refine (HarmlessWork.of_done _ _).bind fun left _ => ?_
    refine HarmlessWork.bind (.record trivial) fun _ _ => ?_
    exact SureWork.harmless (.bind (.change fun _ => rfl) fun _ => .pure _)
  · exact SureWork.harmless (.bind (.report _) fun _ => .pure _)

end Watch

end DriverHub
