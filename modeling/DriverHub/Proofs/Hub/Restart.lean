import DriverHub.Proofs.Hub.Loading
import DriverHub.Proofs.Hub.Operation

/-! Restarts. With an engine that analyzes each source in one way, a hub that is started again over
its records has the singletons that it had, as far as their drivers are valid. A run may restart at
any point. -/

namespace DriverHub

variable {E : Findings} {s s' : Singletons} {l : LiveState} {r : Records}

namespace Revived

/-- Where no source is known no driver is recorded. -/
theorem find?_none_of_source? {id : DriverId} (h : r.source? id = none) :
    Dict.find? id r.drivers = none := Option.map_eq_none_iff.1 h

theorem find?_none_of_owner? {k : DeviceId} (h : r.owner? k = none) :
    Dict.find? k r.devices = none := Option.map_eq_none_iff.1 h

theorem agree (h : Revived E s r s') (ha : Agree s r) (hfit : Fitting E s r) : Agree s' r := by
  refine ⟨?_, ?_, ha.owners⟩
  · intro id
    cases hsource : r.source? id with
    | none =>
      rw [find?_none_of_source? hsource, h.no_driver id hsource, Option.map_none, Option.map_none]
    | some source =>
      obtain ⟨e, found⟩ := hfit.sources id source hsource
      rw [ha.drivers id]
      cases e with
      | valid info p warnings => rw [h.valid_driver id source info p warnings hsource found]
      | invalid diagnostics =>
        rw [h.invalid_driver id source diagnostics hsource found, Option.map_map]
        cases hv : Dict.find? id s.drivers with
        | none => rfl
        | some v =>
          have htame := (hfit.drivers id source v hsource hv).tame
          rw [Option.map_some, Option.map_some, Function.comp_apply, htame.toJson_ofJson]
  · intro k
    cases howner : r.owner? k with
    | none =>
      rw [find?_none_of_owner? howner, h.no_device k howner, Option.map_none, Option.map_none]
    | some id =>
      obtain ⟨device, hdevice, rfl⟩ := Option.map_eq_some_iff.1 howner
      obtain ⟨driver, hdriver⟩ := ha.owners k device hdevice
      have hsource := Records.source?_of_find? hdriver
      obtain ⟨e, found⟩ := hfit.sources _ _ hsource
      rw [ha.devices k]
      cases e with
      | valid info p warnings => rw [h.valid_device k _ _ info p warnings howner hsource found]
      | invalid diagnostics =>
        rw [h.invalid_device k _ _ diagnostics howner hsource found, Option.map_map]
        cases hv : Dict.find? k s.devices with
        | none => rfl
        | some v =>
          have htame := (hfit.devices k _ _ v howner hsource hv).tame
          rw [Option.map_some, Option.map_some, Function.comp_apply, htame.toJson_ofJson]

theorem fitting (h : Revived E s r s') (hE : E.Settled) (hfit : Fitting E s r) : Fitting E s' r := by
  refine { hfit with drivers := ?_, devices := ?_ }
  · intro id source v hsource hv
    obtain ⟨e, found⟩ := hfit.sources id source hsource
    cases e with
    | valid info p warnings =>
      rw [h.valid_driver id source info p warnings hsource found] at hv
      exact hfit.drivers id source v hsource hv
    | invalid diagnostics =>
      rw [h.invalid_driver id source diagnostics hsource found] at hv
      obtain ⟨w, hw, rfl⟩ := Option.map_eq_some_iff.1 hv
      have htame := (hfit.drivers id source w hsource hw).tame
      exact hE.driverFits_invalid found htame.ofJson_toJson
  · intro k id source v howner hsource hv
    obtain ⟨e, found⟩ := hfit.sources id source hsource
    cases e with
    | valid info p warnings =>
      rw [h.valid_device k id source info p warnings howner hsource found] at hv
      exact hfit.devices k id source v howner hsource hv
    | invalid diagnostics =>
      rw [h.invalid_device k id source diagnostics howner hsource found] at hv
      obtain ⟨w, hw, rfl⟩ := Option.map_eq_some_iff.1 hv
      have htame := (hfit.devices k id source w howner hsource hw).tame
      exact hE.deviceFits_invalid found htame.ofJson_toJson

end Revived

/-- How sources are analyzed, once and for all. -/
abbrev Analyzer := String → String → Except EngineError Analysis

namespace Analyzer

/-- A program is named as it was asked for, and the schemas of drivers are plain. -/
structure Regular (analyze : Analyzer) : Prop where
  named : ∀ program source p warnings, analyze program source = .ok (.analyzed p warnings) →
    p.id = program
  plain : ∀ program source p warnings info, analyze program source = .ok (.analyzed p warnings) →
    p.extract = .ok info → info.driverSchema.Plain ∧ info.deviceSchema.Plain

/-- The source of a driver is valid and declares this. -/
def Extracts (analyze : Analyzer) (driver : DriverRecord) (info : DriverInfo) : Prop :=
  ∃ p warnings, analyze driver.id.programId driver.source = .ok (.analyzed p warnings) ∧
    p.extract = .ok info

/-- What can come out of an engine with this analysis, where `built` tells what programs are
compiled to. -/
def findings (analyze : Analyzer) (built : Program → CompiledUnit → Prop) : Findings where
  source id source e := ∃ analysis, analyze id.programId source = .ok analysis ∧ analysis.extraction = e
  unit := built
  left unit left := ∀ p info, built p unit → p.extract = .ok info → info.Takes left

variable {analyze : Analyzer} {built : Program → CompiledUnit → Prop}

theorem valid_iff {id : DriverId} {source : String} {info : DriverInfo} {p : Program}
    {warnings : List Diagnostic} :
    (analyze.findings built).source id source (.valid info p warnings) ↔
      analyze id.programId source = .ok (.analyzed p warnings) ∧ p.extract = .ok info := by
  constructor
  · intro hex
    obtain ⟨analysis, hanalysis, he⟩ := hex
    cases analysis with
    | rejected diagnostics => cases he
    | analyzed p' warnings' =>
      unfold Analysis.extraction at he
      simp only at he
      split at he
      · next hextract =>
        cases he
        exact ⟨hanalysis, hextract⟩
      · cases he
  · intro hboth
    obtain ⟨hanalysis, hextract⟩ := hboth
    refine ⟨_, hanalysis, ?_⟩
    unfold Analysis.extraction
    simp only
    rw [hextract]

theorem Regular.settled (h : analyze.Regular) : (analyze.findings built).Settled := by
  refine ⟨?_, ?_, ?_, ?_⟩
  · rintro id source e e' ⟨analysis, hanalysis, rfl⟩ ⟨analysis', hanalysis', rfl⟩
    rw [hanalysis] at hanalysis'
    cases hanalysis'
    rfl
  · intro id source info p warnings found
    obtain ⟨hanalysis, hextract⟩ := valid_iff.1 found
    exact (h.plain _ _ _ _ _ hanalysis hextract).1
  · intro id source info p warnings found
    obtain ⟨hanalysis, hextract⟩ := valid_iff.1 found
    exact (h.plain _ _ _ _ _ hanalysis hextract).2
  · intro id source info p warnings unit left found hserves hleft
    obtain ⟨id', info', p', warnings', found', hname, hbuilt⟩ := hserves
    obtain ⟨hanalysis, hextract⟩ := valid_iff.1 found
    obtain ⟨hanalysis', -⟩ := valid_iff.1 found'
    -- a unit that is kept for a program comes from the same analysis
    have hid := h.named _ _ _ _ hanalysis
    have hid' := h.named _ _ _ _ hanalysis'
    rw [← hid', hname, hid, hanalysis] at hanalysis'
    cases hanalysis'
    exact hleft p info hbuilt hextract

end Analyzer

/-- Surroundings in which records are saved, sources are analyzed as `analyze` says if at all, and
completed runs leave behind what the schemas of their program say. -/
structure Host.Orderly (analyze : Analyzer) (built : Program → CompiledUnit → Prop) (host : Host) :
    Prop where
  faultless : host.Faultless
  analyzes : ∀ program source analysis, host.analyzes program source (.ok analysis) →
    analyze program source = .ok analysis
  compiles : ∀ p unit, host.compiles p (.ok unit) → built p unit
  runs : ∀ p info unit call injected token value left, built p unit → p.extract = .ok info →
    host.runs unit call injected token (.ok (.completed value left)) → info.Takes left

/-- Surroundings in which records are saved and the engine analyzes exactly as `analyze` says. -/
structure Host.Deterministic (analyze : Analyzer) (host : Host) : Prop where
  faultless : host.Faultless
  analyzes : ∀ program source x, host.analyzes program source x → x = analyze program source

/-- A hub that holds nothing yet. -/
structure LiveState.Fresh (l : LiveState) : Prop where
  singletons : l.singletons = {}
  catalog : l.catalog = {}

/-- The states that a hub comes to from nothing, by operations and restarts one after another. -/
inductive Lived (analyze : Analyzer) (built : Program → CompiledUnit → Prop) :
    LiveState → Records → Prop
  | start {l : LiveState} (fresh : l.Fresh) : Lived analyze built l {}
  | perform {host : Host} {op : Operation} {l l' : LiveState} {r r' : Records}
      {x : Except HubError Unit} (before : Lived analyze built l r) (orderly : host.Orderly analyze built)
      (ends : Flow.Ends host.Answers op.work.run l r x l' r') : Lived analyze built l' r'
  | restart {host : Host} {l l₀ l' : LiveState} {r r' : Records}
      {x : Except HubError (LoadReport × List DriverId)} (before : Lived analyze built l r)
      (deterministic : host.Deterministic analyze) (fresh : l₀.Fresh)
      (ends : Flow.Ends host.Answers Work.load.run l₀ r x l' r') : Lived analyze built l' r'

variable {analyze : Analyzer} {built : Program → CompiledUnit → Prop} {host : Host} {l₀ l' : LiveState}

theorem Host.Orderly.findings_of (h : host.Orderly analyze built) :
    (analyze.findings built).Of host := by
  refine ⟨?_, h.compiles, ?_⟩
  · intro id source analysis hanalysis
    exact ⟨analysis, h.analyzes _ _ _ hanalysis, rfl⟩
  · intro unit call injected token value left hrun p info hbuilt hextract
    exact h.runs p info unit call injected token value left hbuilt hextract hrun

theorem Host.Deterministic.reveals (h : host.Deterministic analyze) :
    (analyze.findings built).Reveals host := by
  constructor
  · intro id source analysis hanalysis
    exact ⟨analysis, (h.analyzes _ _ _ hanalysis).symm, rfl⟩
  · rintro id source e error ⟨analysis, hanalysis, -⟩ herror
    have hboth := (h.analyzes _ _ _ herror).trans hanalysis
    cases hboth

/-- All that is kept from one state of a hub to the next. -/
structure Sound (E : Findings) (l : LiveState) (r : Records) : Prop where
  catalog : E.In l.catalog
  keyed : r.Keyed
  agree : Agree l.singletons r
  fitting : Fitting E l.singletons r

theorem Sound.perform (h : Sound E l r) (hsettled : E.Settled) (hf : host.Faultless)
    (hE : E.Of host) {op : Operation} {r' : Records} {x : Except HubError Unit}
    (ends : Flow.Ends host.Answers op.work.run l r x l' r') : Sound E l' r' := by
  have heffect := (op.effect_work hf hE h.catalog h.keyed h.agree).ends ends
  exact ⟨heffect.catalog, h.keyed.of_ends ends, h.agree.change heffect.change,
    h.fitting.change h.agree h.keyed hsettled heffect.change⟩

theorem Sound.restart (h : Sound E l r) (hsettled : E.Settled) (hf : host.Faultless)
    (hE : E.Reveals host) (hfresh : l₀.Fresh) {r' : Records}
    {x : Except HubError (LoadReport × List DriverId)}
    (ends : Flow.Ends host.Answers Work.load.run l₀ r x l' r') :
    r' = r ∧ Sound E l' r' ∧ Revived E l.singletons r l'.singletons ∧
      ∃ report ids, x = .ok (report, ids) ∧ report.migrated = 0 ∧
        ∀ id, id ∈ report.invalid ↔ ∃ source diagnostics, r.source? id = some source ∧
          E.source id source (.invalid diagnostics) := by
  have hl₀ : E.In l₀.catalog := by
    rw [hfresh.catalog]
    exact Findings.in_empty
  obtain ⟨rfl, hl', hrevived, hreport⟩ := (Work.ensures_load hf hE hsettled h.keyed h.agree h.fitting
    hfresh.singletons hl₀).ends ends
  refine ⟨rfl, ⟨hl', h.keyed, ?_, ?_⟩, hrevived, hreport⟩
  · exact hrevived.agree h.agree h.fitting
  · exact hrevived.fitting hsettled h.fitting

theorem Lived.sound (hregular : analyze.Regular) (h : Lived analyze built l r) :
    Sound (analyze.findings built) l r := by
  induction h with
  | start fresh =>
    refine ⟨?_, Records.keyed_empty, ?_, ?_⟩
    · rw [fresh.catalog]
      exact Findings.in_empty
    · rw [fresh.singletons]
      exact .empty
    · rw [fresh.singletons]
      exact .empty
  | perform _ orderly ends ih =>
    exact ih.perform hregular.settled orderly.faultless orderly.findings_of ends
  | restart _ deterministic fresh ends ih =>
    exact (ih.restart hregular.settled deterministic.faultless deterministic.reveals fresh ends).2.1

/-- The singletons of a valid driver and of its devices have the shapes that its source declares. -/
structure Shaped (analyze : Analyzer) (s : Singletons) (r : Records) : Prop where
  driver : ∀ id driver info, Dict.find? id r.drivers = some driver → analyze.Extracts driver info →
    ∃ v, Dict.find? id s.drivers = some v ∧ info.driverSchema.Conforms v
  device : ∀ k device driver info, Dict.find? k r.devices = some device →
    Dict.find? device.driver r.drivers = some driver → analyze.Extracts driver info →
    ∃ v, Dict.find? k s.devices = some v ∧ info.deviceSchema.Conforms v

/-- What a hub with the singletons `s` finds after a restart: the same singletons for the valid
drivers and their devices, nothing to migrate, and a list of the drivers that are not valid. -/
structure Transparent (analyze : Analyzer) (s s' : Singletons) (r : Records) (report : LoadReport) :
    Prop where
  driver : ∀ id driver info, Dict.find? id r.drivers = some driver → analyze.Extracts driver info →
    Dict.find? id s'.drivers = Dict.find? id s.drivers
  device : ∀ k device driver info, Dict.find? k r.devices = some device →
    Dict.find? device.driver r.drivers = some driver → analyze.Extracts driver info →
    Dict.find? k s'.devices = Dict.find? k s.devices
  migrated : report.migrated = 0
  invalid : ∀ id, id ∈ report.invalid ↔ ∃ driver, Dict.find? id r.drivers = some driver ∧
    ∀ info, ¬ analyze.Extracts driver info

section

variable (hregular : analyze.Regular) (h : Sound (analyze.findings built) l r)

include h in
theorem Sound.exists_found {id : DriverId} {driver : DriverRecord} {info : DriverInfo}
    (hdriver : Dict.find? id r.drivers = some driver) (hextracts : analyze.Extracts driver info) :
    ∃ p warnings, (analyze.findings built).source id driver.source (.valid info p warnings) := by
  obtain ⟨p, warnings, hanalysis, hextract⟩ := hextracts
  rw [h.keyed.find?_driver hdriver] at hanalysis
  exact ⟨p, warnings, Analyzer.valid_iff.2 ⟨hanalysis, hextract⟩⟩

include h in
theorem Sound.shaped : Shaped analyze l.singletons r := by
  constructor
  · intro id driver info hdriver hextracts
    obtain ⟨p, warnings, found⟩ := h.exists_found hdriver hextracts
    obtain ⟨v, hv, -⟩ := h.agree.exists_driver hdriver
    exact ⟨v, hv, (h.fitting.drivers _ _ v (Records.source?_of_find? hdriver) hv).conforms _ _ _ found⟩
  · intro k device driver info hdevice hdriver hextracts
    obtain ⟨p, warnings, found⟩ := h.exists_found hdriver hextracts
    obtain ⟨v, hv, -⟩ := h.agree.exists_device hdevice
    exact ⟨v, hv, (h.fitting.devices k _ _ v (Records.owner?_of_find? hdevice)
      (Records.source?_of_find? hdriver) hv).conforms _ _ _ found⟩

include hregular h in
theorem Sound.invalid_iff (id : DriverId) :
    (∃ source diagnostics, r.source? id = some source ∧
      (analyze.findings built).source id source (.invalid diagnostics)) ↔
    ∃ driver, Dict.find? id r.drivers = some driver ∧ ∀ info, ¬ analyze.Extracts driver info := by
  constructor
  · intro hex
    obtain ⟨source, diagnostics, hsource, found⟩ := hex
    obtain ⟨driver, hdriver, rfl⟩ := Option.map_eq_some_iff.1 hsource
    refine ⟨driver, hdriver, fun info hextracts => ?_⟩
    obtain ⟨p, warnings, found'⟩ := h.exists_found hdriver hextracts
    cases hregular.settled.unique _ _ _ _ found found'
  · intro hex
    obtain ⟨driver, hdriver, hinvalid⟩ := hex
    have hsource := Records.source?_of_find? hdriver
    obtain ⟨e, found⟩ := h.fitting.sources id _ hsource
    cases e with
    | valid info p warnings =>
      obtain ⟨hanalysis, hextract⟩ := Analyzer.valid_iff.1 found
      rw [← h.keyed.find?_driver hdriver] at hanalysis
      exact absurd ⟨p, warnings, hanalysis, hextract⟩ (hinvalid info)
    | invalid diagnostics => exact ⟨driver.source, diagnostics, hsource, found⟩

include hregular h in
theorem Sound.transparent (deterministic : host.Deterministic analyze) (fresh : l₀.Fresh) {r' : Records}
    {x : Except HubError (LoadReport × List DriverId)}
    (ends : Flow.Ends host.Answers Work.load.run l₀ r x l' r') :
    r' = r ∧ ∃ report ids, x = .ok (report, ids) ∧
      Transparent analyze l.singletons l'.singletons r report := by
  obtain ⟨hr', -, hrevived, report, ids, hx, hmigrated, hinvalid⟩ := h.restart hregular.settled
    deterministic.faultless deterministic.reveals fresh ends
  refine ⟨hr', report, ids, hx, ?_, ?_, hmigrated, ?_⟩
  · intro id driver info hdriver hextracts
    obtain ⟨p, warnings, found⟩ := h.exists_found hdriver hextracts
    exact hrevived.valid_driver _ _ _ _ _ (Records.source?_of_find? hdriver) found
  · intro k device driver info hdevice hdriver hextracts
    obtain ⟨p, warnings, found⟩ := h.exists_found hdriver hextracts
    exact hrevived.valid_device k _ _ _ _ _ (Records.owner?_of_find? hdevice)
      (Records.source?_of_find? hdriver) found
  · intro id
    rw [hinvalid, h.invalid_iff hregular]

end

/-- In every state that a hub comes to, the singletons of valid drivers have the declared shapes,
and loading the same records into a fresh hub succeeds and brings just these singletons back. -/
theorem Lived.restart_transparent (hregular : analyze.Regular) (h : Lived analyze built l r) :
    Shaped analyze l.singletons r ∧
    ∀ (host : Host) (l₀ : LiveState), host.Deterministic analyze → l₀.Fresh →
      (∃ x l' r', Flow.Ends host.Answers Work.load.run l₀ r x l' r') ∧
      ∀ x l' r', Flow.Ends host.Answers Work.load.run l₀ r x l' r' → r' = r ∧
        ∃ report ids, x = .ok (report, ids) ∧
          Transparent analyze l.singletons l'.singletons r report := by
  have hsound := h.sound hregular
  refine ⟨hsound.shaped, fun host l₀ deterministic fresh => ⟨?_, ?_⟩⟩
  · exact Flow.exists_ends host.exists_answers Work.load.run l₀ r
  · intro x l' r' ends
    exact hsound.transparent hregular deterministic fresh ends

namespace Engine

/-- The units that an engine compiles a program to. -/
def Builds (engine : Engine) (p : Program) (unit : CompiledUnit) : Prop := engine.compile p = .ok unit

theorem deterministic_host (engine : Engine) : engine.host.Deterministic engine.analyze :=
  ⟨engine.host_faultless, fun _ _ _ h => h⟩

theorem lived_after {engine : Engine} (horderly : engine.host.Orderly engine.analyze engine.Builds)
    (ops : List Operation) {hub : LiveState × Records}
    (h : Lived engine.analyze engine.Builds hub.1 hub.2) :
    Lived engine.analyze engine.Builds (engine.after ops hub).1 (engine.after ops hub).2 := by
  induction ops generalizing hub with
  | nil => exact h
  | cons op rest ih => exact ih (.perform h horderly (engine.ends_outcome op.work hub.1 hub.2))

theorem schemas_of_isLamp {info : DriverInfo} (h : isLamp info = true) :
    info.driverSchema = .struct [("count", .atom .int)] ∧
    info.deviceSchema = .struct [("level", .atom .float)] := by
  unfold isLamp at h
  split at h
  · next hdriver hdevice => exact ⟨hdriver, hdevice⟩
  · cases h

theorem regular_lamp : Analyzer.Regular lamp.analyze := by
  have hlamp : ∀ program source p warnings,
      lamp.analyze program source = .ok (.analyzed p warnings) → p = lampProgram program := by
    intro program source p warnings h
    unfold lamp at h
    simp only [Except.ok.injEq] at h
    split at h
    · cases h
      rfl
    · cases h
  constructor
  · intro program source p warnings h
    rw [hlamp _ _ _ _ h]
    rfl
  · intro program source p warnings info h hextract
    rw [hlamp _ _ _ _ h] at hextract
    cases hextract
    exact ⟨Schema.plain_single _ _, Schema.plain_single _ _⟩

theorem orderly_lamp : lamp.host.Orderly lamp.analyze lamp.Builds := by
  refine ⟨lamp.host_faultless, fun _ _ _ h => h.symm, fun _ _ h => h.symm, ?_⟩
  intro p info unit call injected token value left hbuilt hextract hrun
  unfold Builds lamp at hbuilt
  simp only [hextract] at hbuilt
  split at hbuilt
  · next hinfo =>
    obtain ⟨hdriver, hdevice⟩ := schemas_of_isLamp hinfo
    have hrun : lamp.run unit call injected = .ok (.completed value left) := hrun.symm
    unfold lamp at hrun
    simp only at hrun
    split at hrun
    · split at hrun
      · next count level _ hfinite =>
        cases hrun
        constructor
        · intro _ heq
          obtain ⟨⟩ := heq
          rw [hdriver]
          exact Schema.conforms_single "count" .int trivial
        · intro _ heq
          obtain ⟨⟩ := heq
          rw [hdevice]
          exact Schema.conforms_single "level" .float hfinite
      · cases hrun
    · cases hrun
  · cases hbuilt

end Engine

/-- A lamp goes through a time without a valid source, and is then started again. -/
theorem Lived.lamp_restart_transparent :
    let hub := Engine.lamp.after [.createDriver Engine.lampDriver, .createDevice Engine.deskLamp,
      .invoke ⟨Engine.lampDriver.id, some "desk"⟩ (Engine.dim 1 ⟨7⟩) 0,
      .applyCode Engine.lampDriver.id "dark", .applyCode Engine.lampDriver.id "lamp"] ({}, {})
    Dict.find? "desk" hub.1.singletons.devices = some (.object [("level", .float ⟨7⟩)]) ∧
    Shaped Engine.lamp.analyze hub.1.singletons hub.2 ∧
    ∃ l r report ids,
      Flow.Ends Engine.lamp.host.Answers Work.load.run {} hub.2 (.ok (report, ids)) l r ∧
      Transparent Engine.lamp.analyze hub.1.singletons l.singletons hub.2 report := by
  intro hub
  have hlived : Lived Engine.lamp.analyze Engine.lamp.Builds hub.1 hub.2 :=
    Engine.lived_after Engine.orderly_lamp _ (.start ⟨rfl, rfl⟩)
  obtain ⟨hshaped, hrestart⟩ := restart_transparent Engine.regular_lamp hlived
  obtain ⟨⟨x, l, r, hends⟩, hall⟩ :=
    hrestart Engine.lamp.host {} Engine.lamp.deterministic_host ⟨rfl, rfl⟩
  obtain ⟨-, report, ids, rfl, htransparent⟩ := hall x l r hends
  exact ⟨rfl, hshaped, l, r, report, ids, hends, htransparent⟩

end DriverHub
