import DriverHub.Proofs.Hub.Interleaving
import DriverHub.Proofs.Hub.Restart
import DriverHub.Proofs.Schema.Migration

/-! A driver that has invalid code for a time. Its singletons stay in memory as they are, but the next
valid code takes them up from the records, as if they had been loaded without a schema, and not as
the values that they are. -/

namespace DriverHub

variable {host : Host} {E : Findings} {s : Singletons} {l l' : LiveState} {r r' : Records}

/-- Code that is found to be valid carries over the singletons of the driver and of all its devices,
and no others. -/
theorem Work.NewCode.value? (ha : Agree s r) {id : DriverId} {source : String}
    {info : DriverInfo} {p : Program} {warnings : List Diagnostic}
    (h : Work.NewCode host E id source s r (.ok (.valid info p warnings)) l' r') :
    ∃ old before, Dict.find? id r.drivers = some old ∧ E.source id old.source before ∧ ∀ c,
      (r.Owns id c → ∃ v, s.value? c = some v ∧ l'.singletons.value? c =
        some ((info.schemaOf c).carryOver v (some v.toJson) !before.isValid)) ∧
      (¬ r.Owns id c → l'.singletons.value? c = s.value? c) := by
  cases h with
  | @valid old before _ _ _ v w _ _ recorded known _ _ current carried value _ devices _ =>
    refine ⟨old, before, recorded, known, fun c => ?_⟩
    cases c with
    | driver key =>
      constructor
      · rintro rfl
        obtain ⟨v', hv', hsaved⟩ := ha.exists_driver recorded
        obtain rfl := Option.some.inj (current.symm.trans hv')
        refine ⟨v, current, ?_⟩
        rw [hsaved] at carried
        simp [Singletons.value?, value, Dict.find?_insert, carried, DriverInfo.schemaOf]
      · intro hne
        have hkey : id ≠ key := fun h => hne h.symm
        simp [Singletons.value?, value, Dict.find?_insert, hkey]
    | device k =>
      constructor
      · intro howner
        obtain ⟨device, hdevice, howner⟩ := Option.map_eq_some_iff.1 howner
        obtain ⟨v, hv, hsaved⟩ := ha.exists_device hdevice
        refine ⟨v, hv, ?_⟩
        rw [← hsaved]
        exact (devices.own k device v hdevice howner hv).1
      · intro hne
        refine (devices.others k ?_).1
        intro device hdevice howner
        exact hne (howner ▸ Records.owner?_of_find? hdevice)

namespace Analyzer

/-- What the analysis says about sources; units and runs are left open. -/
def extractions (analyze : Analyzer) : Findings :=
  { analyze.findings fun _ _ => True with left := fun _ _ => True }

variable {analyze : Analyzer}

theorem extractions_of (hdet : host.Deterministic analyze) : analyze.extractions.Of host :=
  ⟨fun _ _ analysis h => ⟨analysis, (hdet.analyzes _ _ _ h).symm, rfl⟩, fun _ _ _ => trivial,
    fun _ _ _ _ _ _ _ => trivial⟩

theorem extractions_valid_iff {id : DriverId} {source : String} {info : DriverInfo} {p : Program}
    {warnings : List Diagnostic} : analyze.extractions.source id source (.valid info p warnings) ↔
      analyze id.programId source = .ok (.analyzed p warnings) ∧ p.extract = .ok info :=
  @valid_iff analyze (fun _ _ => True) id source info p warnings

theorem extractions_unique {id : DriverId} {source : String} {e e' : Extraction}
    (h : analyze.extractions.source id source e) (h' : analyze.extractions.source id source e') :
    e = e' := by
  obtain ⟨analysis, hanalysis, rfl⟩ := h
  obtain ⟨analysis', hanalysis', rfl⟩ := h'
  rw [hanalysis] at hanalysis'
  cases hanalysis'
  rfl

end Analyzer

namespace Work

variable {analyze : Analyzer} {id : DriverId}

/-- Where the old and the new source of a driver can be analyzed, it gets its new code. -/
theorem ensures_applyCode_of_found (hdet : host.Deterministic analyze)
    (hl : analyze.extractions.In l.catalog) (hk : r.Keyed) (ha : Agree l.singletons r)
    {old : DriverRecord} (recorded : Dict.find? id r.drivers = some old) {before e : Extraction}
    (known : analyze.extractions.source id old.source before) {source : String}
    (found : analyze.extractions.source id source e) :
    (applyCode id source).Ensures host.Answers l r fun x l' r' => x = .ok e ∧
      NewCode host analyze.extractions id source l.singletons r (.ok e) l' r' := by
  have hanswered : ∀ {source e}, analyze.extractions.source id source e →
      ∀ error, ¬ host.analyzes id.programId source (.error error) := by
    rintro source e ⟨analysis, hanalysis, -⟩ error herror
    rw [← hdet.analyzes _ _ _ herror] at hanalysis
    cases hanalysis
  refine (ensures_applyCode (Analyzer.extractions_of hdet) hl hk ha id source).mono ?_
  intro x l' r' h
  cases h with
  | refused reason =>
    cases reason with
    | unknown absent =>
      rw [recorded] at absent
      cases absent
    | engine recorded' failed =>
      obtain rfl := Option.some.inj (recorded.symm.trans recorded')
      rcases failed with failed | failed
      · exact absurd failed (hanswered known _)
      · exact absurd failed (hanswered found _)
    | record failed => exact absurd failed (hdet.faultless _ _)
  | invalid recorded' found' catalog kept =>
    obtain rfl := Analyzer.extractions_unique found found'
    exact ⟨rfl, .invalid recorded' found' catalog kept⟩
  | valid recorded' known' found' catalog current carried value record devices scripts =>
    obtain rfl := Analyzer.extractions_unique found found'
    exact ⟨rfl, .valid recorded' known' found' catalog current carried value record devices scripts⟩
  | stopped _ _ _ _ _ _ failed => exact absurd failed (hdet.faultless _ _)

/-- Gives a driver one source after another. -/
def applyCodes (id : DriverId) : List String → Work Unit
  | [] => return
  | source :: rest => do
    let _ ← applyCode id source
    applyCodes id rest

/-- The last source is carried over to from the values in memory if it is the only one, and from the
records after sources that are not valid. -/
theorem ensures_applyCodes (hdet : host.Deterministic analyze) {bad : List String}
    (hbad : ∀ source ∈ bad, ∃ diagnostics, analyze.extractions.source id source (.invalid diagnostics))
    {good : String} {info : DriverInfo} {p : Program} {warnings : List Diagnostic}
    (found : analyze.extractions.source id good (.valid info p warnings))
    (hl : analyze.extractions.In l.catalog) (hk : r.Keyed) (ha : Agree l.singletons r)
    {old : DriverRecord} (recorded : Dict.find? id r.drivers = some old) {before : Extraction}
    (known : analyze.extractions.source id old.source before) :
    (applyCodes id (bad ++ [good])).Ensures host.Answers l r fun x l' _ => x = .ok () ∧ ∀ c,
      (r.Owns id c → ∃ v, l.singletons.value? c = some v ∧ l'.singletons.value? c = some
        ((info.schemaOf c).carryOver v (some v.toJson) !(before.isValid && bad.isEmpty))) ∧
      (¬ r.Owns id c → l'.singletons.value? c = l.singletons.value? c) := by
  induction bad generalizing l r old before with
  | nil =>
    refine Attempt.Ensures.bind (ensures_applyCode_of_found hdet hl hk ha recorded known found) ?_ ?_
    · rintro _ l' r' ⟨h, hcode⟩
      cases h
      obtain ⟨old', before', recorded', known', hvalues⟩ := hcode.value? ha
      obtain rfl := Option.some.inj (recorded.symm.trans recorded')
      obtain rfl := Analyzer.extractions_unique known known'
      exact ⟨rfl, by simpa using hvalues⟩
    · rintro _ _ _ ⟨h, -⟩
      cases h
  | cons source rest ih =>
    obtain ⟨diagnostics, hsource⟩ := hbad source List.mem_cons_self
    refine Attempt.Ensures.bind (ensures_applyCode_of_found hdet hl hk ha recorded known hsource) ?_ ?_
    · rintro _ l₁ r₁ ⟨h, hcode⟩
      cases h
      cases hcode with
      | invalid recorded' _ catalog kept =>
        obtain rfl := Option.some.inj (recorded.symm.trans recorded')
        obtain rfl := hk.find?_driver recorded
        rw [← kept] at ha
        have hrecorded : Dict.find? old.id (r.putDriver { old with source }).drivers =
            some { old with source } := by
          rw [Records.find?_putDriver, if_pos rfl]
        have hkeyed : (r.putDriver { old with source }).Keyed := hk.apply (.putDriver _)
        refine (ih (fun s hs => hbad s (List.mem_cons_of_mem _ hs)) catalog hkeyed
          (ha.invalidCode source recorded) hrecorded hsource).mono ?_
        rintro _ l' _ ⟨rfl, hvalues⟩
        refine ⟨rfl, fun c => ?_⟩
        have howns : (r.putDriver { old with source }).Owns old.id c ↔ r.Owns old.id c := by
          cases c <;> rfl
        have hc := hvalues c
        rw [kept, howns] at hc
        simpa [Extraction.isValid] using hc
    · rintro _ _ _ ⟨h, -⟩
      cases h

/-- After a time with invalid code, new code reads the singletons of a driver and of its devices back
from their trees, where it would have migrated them at once. Both ways always come to their end, and
they end in the same values wherever the values conform to the new schema already. -/
theorem invalid_period (hdet : host.Deterministic analyze) (hl : analyze.extractions.In l.catalog)
    (hk : r.Keyed) (ha : Agree l.singletons r) {old : DriverRecord} {current : DriverInfo}
    (recorded : Dict.find? id r.drivers = some old) (valid : analyze.Extracts old current)
    {bad : List String} (hne : bad ≠ [])
    (hbad : ∀ source ∈ bad, ∃ diagnostics, analyze.extractions.source id source (.invalid diagnostics))
    {good : String} {info : DriverInfo} {p : Program} {warnings : List Diagnostic}
    (found : analyze.extractions.source id good (.valid info p warnings)) :
    (∃ x l' r', Flow.Ends host.Answers (applyCodes id (bad ++ [good])).run l r x l' r') ∧
    (∃ x l' r', Flow.Ends host.Answers (applyCode id good).run l r x l' r') ∧
    ∀ x l₁ r₁ y l₂ r₂, Flow.Ends host.Answers (applyCodes id (bad ++ [good])).run l r x l₁ r₁ →
      Flow.Ends host.Answers (applyCode id good).run l r y l₂ r₂ →
      x = .ok () ∧ y = .ok (.valid info p warnings) ∧ ∀ c,
        (r.Owns id c → ∃ v, l.singletons.value? c = some v ∧
          l₁.singletons.value? c = some ((info.schemaOf c).recover v.toJson).1 ∧
          l₂.singletons.value? c = some ((info.schemaOf c).migrate v) ∧
          ((info.schemaOf c).Distinct → (info.schemaOf c).Conforms v → v.Solid →
            l₁.singletons.value? c = some v ∧ l₂.singletons.value? c = some v)) ∧
        (¬ r.Owns id c → l₁.singletons.value? c = l.singletons.value? c ∧
          l₂.singletons.value? c = l.singletons.value? c) := by
  obtain ⟨p', warnings', hanalysis, hextract⟩ := valid
  obtain rfl := hk.find?_driver recorded
  have known : analyze.extractions.source old.id old.source (.valid current p' warnings') :=
    Analyzer.extractions_valid_iff.2 ⟨hanalysis, hextract⟩
  refine ⟨Flow.exists_ends host.exists_answers _ l r, Flow.exists_ends host.exists_answers _ l r, ?_⟩
  intro x l₁ r₁ y l₂ r₂ hdetour hdirect
  obtain ⟨rfl, hafter⟩ := (Flow.ensures_iff _ _ _ _).1
    (ensures_applyCodes hdet hbad found hl hk ha recorded known) _ _ _ hdetour
  obtain ⟨rfl, hcode⟩ := (Flow.ensures_iff _ _ _ _).1
    (ensures_applyCode_of_found hdet hl hk ha recorded known found) _ _ _ hdirect
  obtain ⟨old', before', recorded', known', hatOnce⟩ := hcode.value? ha
  obtain rfl := Option.some.inj (recorded.symm.trans recorded')
  obtain rfl := Analyzer.extractions_unique known known'
  refine ⟨rfl, rfl, fun c => ⟨fun howns => ?_, fun hother => ?_⟩⟩
  · obtain ⟨v, hv, hv₁⟩ := (hafter c).1 howns
    obtain ⟨v', hv', hv₂⟩ := (hatOnce c).1 howns
    obtain rfl := Option.some.inj (hv.symm.trans hv')
    have hempty : bad.isEmpty = false := by simpa using hne
    rw [hempty] at hv₁
    refine ⟨v, hv, hv₁, hv₂, fun hdistinct hconforms hsolid => ?_⟩
    rw [hv₁, hv₂]
    have hread := Schema.decode_toJson _ hdistinct hconforms hsolid
    have hsame := Schema.migrate_of_hasShape (Schema.hasShape_of_conforms _ hconforms) hdistinct
    simp [Schema.carryOver, Schema.recover, hread, hsame, Extraction.isValid]
  · exact ⟨(hafter c).2 hother, (hatOnce c).2 hother⟩

end Work

namespace Engine

theorem analyze_switches (id : DriverId) :
    (Analyzer.extractions switches.analyze).source id "dimmer" (.valid dimmerInfo
      (switchProgram id.programId [("label", .option .str), ("level", .float)]) []) ∧
    (Analyzer.extractions switches.analyze).source id "switch" (.valid switchInfo
      (switchProgram id.programId [("label", .option .str)]) []) ∧
    (Analyzer.extractions switches.analyze).source id "dark" (.invalid []) :=
  ⟨⟨_, rfl, rfl⟩, ⟨_, rfl, rfl⟩, ⟨_, rfl, rfl⟩⟩

theorem extracts_switchHub : ∃ old, Dict.find? switchDriver.id switchHub.2.drivers = some old ∧
    Analyzer.Extracts switches.analyze old dimmerInfo :=
  ⟨_, rfl, switchProgram switchDriver.id.programId [("label", .option .str), ("level", .float)], [],
    rfl, rfl⟩

theorem invalid_dark : ∀ source ∈ ["dark"], ∃ diagnostics,
    (Analyzer.extractions switches.analyze).source switchDriver.id source (.invalid diagnostics) := by
  intro source hsource
  obtain rfl := List.mem_singleton.1 hsource
  exact ⟨[], (analyze_switches switchDriver.id).2.2⟩

theorem conforms_switchHub {c : ConfigTarget} {v : Value}
    (h : switchHub.1.singletons.value? c = some v) : (dimmerInfo.schemaOf c).Conforms v := by
  cases c with
  | driver id =>
    change Dict.find? id [(switchDriver.id, Value.object [("count", .int 1)])] = some v at h
    rw [Dict.find?_cons] at h
    split at h <;> cases h
    exact Schema.conforms_single "count" .int trivial
  | device k =>
    have hdistinct : dimmerInfo.deviceSchema.Distinct := by
      simp [dimmerInfo, Schema.Distinct, Schema.DistinctFields]
    change Dict.find? k [("attic", Value.object [("label", .absent), ("level", .float .zero)]),
      ("hall", .object [("label", .present (.str "hall")), ("level", .float ⟨7⟩)])] = some v at h
    rw [Dict.find?_cons, Dict.find?_cons] at h
    split at h
    · cases h
      exact Schema.conforms_of_decode dimmerInfo.deviceSchema hdistinct
        (show dimmerInfo.deviceSchema.decode
          (.obj [("label", .null), ("level", .float ⟨.zero, rfl⟩)]) = .ok _ from rfl)
    · split at h <;> cases h
      exact Schema.conforms_of_decode dimmerInfo.deviceSchema hdistinct
        (show dimmerInfo.deviceSchema.decode
          (.obj [("label", .str "hall"), ("level", .float ⟨⟨7⟩, rfl⟩)]) = .ok _ from rfl)

end Engine

namespace Work

open Engine

/-- The switch in the hall keeps its label if its level is taken away at once, and not after a time
with invalid code. -/
theorem invalid_period_switches :
    let hall : ConfigTarget := .device "hall"
    ∃ l₁ r₁ l₂ r₂ e,
      Flow.Ends switches.host.Answers (applyCodes switchDriver.id ["dark", "switch"]).run switchHub.1
        switchHub.2 (.ok ()) l₁ r₁ ∧
      Flow.Ends switches.host.Answers (applyCode switchDriver.id "switch").run switchHub.1 switchHub.2
        (.ok e) l₂ r₂ ∧
      l₁.singletons.value? hall = some (.object [("label", .absent)]) ∧
      l₂.singletons.value? hall = some (.object [("label", .present (.str "hall"))]) := by
  intro hall
  obtain ⟨-, found, -⟩ := analyze_switches switchDriver.id
  obtain ⟨hl, hk, ha⟩ := kept_after (Analyzer.extractions_of switches.deterministic_host)
    switchOperations
  obtain ⟨old, recorded, hextracts⟩ := extracts_switchHub
  obtain ⟨⟨x, l₁, r₁, hdetour⟩, ⟨y, l₂, r₂, hdirect⟩, hends⟩ := invalid_period
    switches.deterministic_host hl hk ha recorded hextracts (List.cons_ne_nil "dark" []) invalid_dark
    found
  obtain ⟨rfl, rfl, hvalues⟩ := hends _ _ _ _ _ _ hdetour hdirect
  obtain ⟨v, hv, hv₁, hv₂, -⟩ := (hvalues hall).1 rfl
  obtain rfl : Value.object [("label", .present (.str "hall")), ("level", .float ⟨7⟩)] = v :=
    Option.some.inj hv
  exact ⟨l₁, r₁, l₂, r₂, _, hdetour, hdirect, hv₁, hv₂⟩

/-- So a time with invalid code may be seen in the singletons afterwards. -/
theorem invalid_period_not_transparent :
    ¬ ∀ (analyze : Analyzer) (host : Host) (l l₁ l₂ : LiveState) (r r₁ r₂ : Records) (id : DriverId)
      (old : DriverRecord) (current info : DriverInfo) (bad : List String) (good : String)
      (p : Program) (warnings : List Diagnostic),
      host.Deterministic analyze → analyze.extractions.In l.catalog → r.Keyed → Agree l.singletons r →
      Dict.find? id r.drivers = some old → analyze.Extracts old current →
      (∀ c v, r.Owns id c → l.singletons.value? c = some v → (current.schemaOf c).Conforms v) →
      bad ≠ [] → (∀ source ∈ bad, ∃ diagnostics,
        analyze.extractions.source id source (.invalid diagnostics)) →
      analyze.extractions.source id good (.valid info p warnings) →
      Flow.Ends host.Answers (applyCodes id (bad ++ [good])).run l r (.ok ()) l₁ r₁ →
      Flow.Ends host.Answers (applyCode id good).run l r (.ok (.valid info p warnings)) l₂ r₂ →
      ∀ c, r.Owns id c → l₁.singletons.value? c = l₂.singletons.value? c := by
  intro h
  obtain ⟨-, found, -⟩ := analyze_switches switchDriver.id
  obtain ⟨hl, hk, ha⟩ := kept_after (Analyzer.extractions_of switches.deterministic_host)
    switchOperations
  obtain ⟨old, recorded, hextracts⟩ := extracts_switchHub
  have hsame := h switches.analyze switches.host _ _ _ _ _ _ _ old dimmerInfo _ ["dark"] "switch" _ _
    switches.deterministic_host hl hk ha recorded hextracts (fun _ _ _ hv => conforms_switchHub hv)
    (List.cons_ne_nil _ _) invalid_dark found
    (switches.ends_outcome (applyCodes switchDriver.id ["dark", "switch"]) switchHub.1 switchHub.2)
    (switches.ends_outcome (applyCode switchDriver.id "switch") switchHub.1 switchHub.2)
    (.device "hall") rfl
  have hlabels : some (Value.object [("label", .absent)]) =
      some (.object [("label", .present (.str "hall"))]) := hsame
  simp at hlabels

end Work

end DriverHub
