import DriverHub.Hub.Invocation
import DriverHub.Proofs.Dict
import DriverHub.Proofs.Flow.Ends

/-! The surroundings of the hub. The table of records is kept as it is; which answers the script
engine gives, and whether an operation on records fails, is left open. The lookups in the catalog
are treated here once and for all: none of them touches a singleton or a record. -/

namespace DriverHub

/-- What is left open about the surroundings. The engine always answers, and maybe in several ways.
-/
structure Host where
  analyzes : String → String → Except EngineError Analysis → Prop
  compiles : Program → Except EngineError CompiledUnit → Prop
  runs : CompiledUnit → Call → Dict String Value → TokenId → Except EngineError RunOutcome → Prop
  /-- The faults that an operation on records may have. -/
  faults : RecordOp → RecordError → Prop
  exists_analyzes : ∀ program source, ∃ x, analyzes program source x
  exists_compiles : ∀ program, ∃ x, compiles program x
  exists_runs : ∀ unit call injected token, ∃ x, runs unit call injected token x

namespace Host

/-- An operation on records that fails leaves them as they were. -/
def Answers (host : Host) (r : Records) : (q : Service) → q.Answer → Records → Prop
  | .record op, x, r' =>
    (x = .ok (op.result r) ∧ r' = op.apply r) ∨ ∃ e, host.faults op e ∧ x = .error e ∧ r' = r
  | .analyze program source, x, r' => host.analyzes program source x ∧ r' = r
  | .compile program, x, r' => host.compiles program x ∧ r' = r
  | .run unit call injected token, x, r' => host.runs unit call injected token x ∧ r' = r
  | .newToken, _, r' => r' = r
  | .startDeadline .., _, r' => r' = r
  | .stopDeadline _, _, r' => r' = r
  | .log _, _, r' => r' = r

/-- Operations on records succeed. -/
def Faultless (host : Host) : Prop := ∀ op e, ¬ host.faults op e

theorem exists_answers (host : Host) (r : Records) (q : Service) :
    ∃ x r', host.Answers r q x r' := by
  cases q with
  | record op => exact ⟨.ok (op.result r), op.apply r, .inl ⟨rfl, rfl⟩⟩
  | analyze program source =>
    obtain ⟨x, h⟩ := host.exists_analyzes program source
    exact ⟨x, r, h, rfl⟩
  | compile program =>
    obtain ⟨x, h⟩ := host.exists_compiles program
    exact ⟨x, r, h, rfl⟩
  | run unit call injected token =>
    obtain ⟨x, h⟩ := host.exists_runs unit call injected token
    exact ⟨x, r, h, rfl⟩
  | newToken => exact ⟨0, r, rfl⟩
  | startDeadline => exact ⟨0, r, rfl⟩
  | stopDeadline => exact ⟨(), r, rfl⟩
  | log => exact ⟨(), r, rfl⟩

end Host

/-! ### Single questions -/

section

variable {host : Host} {σ ε : Type} {s : σ} {r : Records}

@[simp] theorem Attempt.ensures_report (line : LogLine) (Q : Except ε Unit → σ → Records → Prop) :
    (Attempt.report line : Attempt services σ ε Unit).Ensures host.Answers s r Q ↔
      Q (.ok ()) s r := by
  constructor
  · intro h
    exact h () r rfl
  · rintro h _ _ rfl
    exact h

theorem Attempt.ensures_analyze (program source : String)
    (Q : Except HubError Analysis → σ → Records → Prop) :
    (Attempt.of HubError.engine (Service.request (.analyze program source)) :
      Attempt services σ HubError Analysis).Ensures host.Answers s r Q ↔
      ∀ x, host.analyzes program source x → Q (x.mapError .engine) s r := by
  constructor
  · intro h x hx
    exact h x r ⟨hx, rfl⟩
  · intro h x _ hend
    obtain ⟨hx, rfl⟩ := hend
    exact h x hx

theorem Attempt.ensures_compile (program : Program)
    (Q : Except EngineError CompiledUnit → σ → Records → Prop) :
    (Attempt.of id (Service.request (.compile program)) :
      Attempt services σ EngineError CompiledUnit).Ensures host.Answers s r Q ↔
      ∀ x, host.compiles program x → Q (x.mapError id) s r := by
  constructor
  · intro h x hx
    exact h x r ⟨hx, rfl⟩
  · intro h x _ hend
    obtain ⟨hx, rfl⟩ := hend
    exact h x hx

variable {l : LiveState}

theorem Work.ensures_record (op : RecordOp)
    (Q : Except HubError op.Result → LiveState → Records → Prop) :
    (Work.record op).Ensures host.Answers l r Q ↔
      Q (.ok (op.result r)) l (op.apply r) ∧ ∀ e, host.faults op e → Q (.error (.record e)) l r := by
  constructor
  · intro h
    refine ⟨h _ _ (.inl ⟨rfl, rfl⟩), ?_⟩
    intro e he
    exact h _ _ (.inr ⟨e, he, rfl, rfl⟩)
  · rintro ⟨hok, herror⟩ x r' (⟨rfl, rfl⟩ | ⟨e, he, rfl, rfl⟩)
    · exact hok
    · exact herror e he

theorem Work.ensures_record_faultless {β : Type} (hf : host.Faultless) (op : RecordOp)
    (k : op.Result → Work β) (Q : Except HubError β → LiveState → Records → Prop) :
    (Work.record op >>= k).Ensures host.Answers l r Q ↔
      (k (op.result r)).Ensures host.Answers l (op.apply r) Q := by
  rw [Attempt.ensures_bind, Work.ensures_record]
  exact and_iff_left fun e he => absurd he (hf op e)

theorem Lookup.ensures_inHub {α : Type} (lookup : Lookup α)
    (Q : Except HubError α → LiveState → Records → Prop) :
    lookup.inHub.Ensures host.Answers l r Q ↔
      lookup.Ensures host.Answers l.catalog r fun x catalog r => Q x { l with catalog } r :=
  Flow.ensures_embed LiveState.catalog (fun catalog l => { l with catalog }) (fun _ _ => rfl)
    (fun _ _ _ => rfl) (fun _ => rfl) lookup.run l r Q

end

/-! ### The catalog -/

/-- What may come out of the script engine. -/
structure Findings where
  /-- What the source of a driver may turn out to be. -/
  source : DriverId → String → Extraction → Prop
  /-- The units that a program may be compiled to. -/
  unit : Program → CompiledUnit → Prop
  /-- The singletons that a completed run of a unit may leave behind. -/
  left : CompiledUnit → Dict String Value → Prop

namespace Findings

/-- Findings that say nothing. -/
def anything : Findings := ⟨fun _ _ _ => True, fun _ _ => True, fun _ _ => True⟩

variable (E : Findings)

/-- All that comes out of the engine is among the findings. -/
structure Of (host : Host) : Prop where
  source : ∀ (id : DriverId) source analysis, host.analyzes id.programId source (.ok analysis) →
    E.source id source analysis.extraction
  unit : ∀ program unit, host.compiles program (.ok unit) → E.unit program unit
  left : ∀ unit call injected token value left,
    host.runs unit call injected token (.ok (.completed value left)) → E.left unit left

/-- A unit that serves a program at a revision. -/
def Serves (unit : CompiledUnit) (program revision : String) : Prop :=
  ∃ id info p warnings, E.source id revision (.valid info p warnings) ∧ p.id = program ∧ E.unit p unit

/-- All units of a cache serve what they are kept for. -/
def Units (cache : UnitCache) : Prop :=
  ∀ program revision unit, Dict.find? program cache = some (revision, unit) →
    E.Serves unit program revision

/-- All that a catalog knows is among the findings. -/
structure In (catalog : Catalog) : Prop where
  source : ∀ id source e, Dict.find? id catalog.extractions = some (source, e) → E.source id source e
  units : E.Units catalog.units

variable {E} {catalog : Catalog} {cache : UnitCache}

theorem anything_of (host : Host) : anything.Of host :=
  ⟨fun _ _ _ _ => trivial, fun _ _ _ => trivial, fun _ _ _ _ _ _ _ => trivial⟩

theorem anything_in (catalog : Catalog) : anything.In catalog := by
  refine ⟨fun _ _ _ _ => trivial, ?_⟩
  intro program _ _ _
  exact ⟨default, default, { id := program }, [], trivial, rfl, trivial⟩

theorem in_empty : E.In {} := ⟨nofun, nofun⟩

theorem in_remember (driver : DriverRecord) (e : Extraction) (h : E.In catalog)
    (he : E.source driver.id driver.source e) : E.In (catalog.remember driver e) := by
  refine { h with source := ?_ }
  intro id source e' hfind
  unfold Catalog.remember at hfind
  rw [Dict.find?_insert] at hfind
  split at hfind
  · next heq =>
    subst heq
    obtain ⟨rfl, rfl⟩ := Prod.mk.inj (Option.some.inj hfind)
    exact he
  · exact h.source id source e' hfind

theorem units_put {program revision : String} {unit : CompiledUnit} (h : E.Units cache)
    (hu : E.Serves unit program revision) : E.Units (cache.put program revision unit) := by
  intro program' revision' unit' hfind
  unfold UnitCache.put at hfind
  rw [Dict.find?_insert] at hfind
  split at hfind
  · next heq =>
    subst heq
    obtain ⟨rfl, rfl⟩ := Prod.mk.inj (Option.some.inj hfind)
    exact hu
  · exact h program' revision' unit' hfind

theorem in_erase (id : DriverId) (h : E.In catalog) :
    E.In { catalog with extractions := Dict.erase id catalog.extractions } := by
  refine { h with source := ?_ }
  intro id' source e hfind
  rw [Dict.find?_erase] at hfind
  split at hfind
  · cases hfind
  · exact h.source id' source e hfind

theorem units_drop (program : String) (h : E.Units cache) : E.Units (cache.drop program) := by
  intro program' revision unit hfind
  unfold UnitCache.drop at hfind
  rw [Dict.find?_erase] at hfind
  split at hfind
  · cases hfind
  · exact h program' revision unit hfind

theorem in_invalidate (id : DriverId) (h : E.In catalog) : E.In (catalog.invalidate id) :=
  { in_erase id h with units := units_drop id.programId h.units }

theorem of_known? {driver : DriverRecord} {e : Extraction} (h : E.In catalog)
    (hk : catalog.known? driver = some e) : E.source driver.id driver.source e := by
  unfold Catalog.known? at hk
  split at hk
  · next source e' hfind =>
    split at hk
    · next hs =>
      obtain rfl := Option.some.inj hk
      exact hs ▸ h.source driver.id source e' hfind
    · cases hk
  · cases hk

theorem of_get? {program revision : String} {unit : CompiledUnit} (h : E.Units cache)
    (hget : cache.get? program revision = some unit) : E.Serves unit program revision := by
  unfold UnitCache.get? at hget
  split at hget
  · next kept unit' hfind =>
    split at hget
    · next hs =>
      obtain rfl := Option.some.inj hget
      exact hs ▸ h program kept unit' hfind
    · cases hget
  · cases hget

end Findings

/-- All that may come out of the engine of a host. -/
def Host.findings (host : Host) : Findings where
  source id source e :=
    ∃ analysis, host.analyzes id.programId source (.ok analysis) ∧ analysis.extraction = e
  unit p unit := host.compiles p (.ok unit)
  left unit left := ∃ call injected token value,
    host.runs unit call injected token (.ok (.completed value left))

theorem Host.findings_of (host : Host) : host.findings.Of host :=
  ⟨fun _ _ analysis h => ⟨analysis, h, rfl⟩, fun _ _ h => h,
    fun _ call injected token value _ h => ⟨call, injected, token, value, h⟩⟩

theorem Analysis.eq_analyzed_of_valid {analysis : Analysis} {info : DriverInfo} {program : Program}
    {warnings : List Diagnostic} (h : analysis.extraction = .valid info program warnings) :
    analysis = .analyzed program warnings ∧ program.extract = .ok info := by
  unfold extraction at h
  split at h
  · cases h
  · split at h
    · next hextract =>
      cases h
      exact ⟨rfl, hextract⟩
    · cases h

/-- Neither a singleton nor a record has changed; the catalog may know more. -/
structure Still (E : Findings) (l : LiveState) (r : Records) (l' : LiveState) (r' : Records) :
    Prop where
  singletons : l'.singletons = l.singletons
  records : r' = r
  catalog : E.In l'.catalog

section

variable {host : Host} {E : Findings} {l l' l'' : LiveState} {r r' r'' : Records}

theorem Still.refl (hl : E.In l.catalog) : Still E l r l r := ⟨rfl, rfl, hl⟩

theorem Still.of_catalog {catalog : Catalog} (h : E.In catalog) : Still E l r { l with catalog } r :=
  ⟨rfl, rfl, h⟩

theorem Still.trans (h : Still E l r l' r') (h' : Still E l' r' l'' r'') : Still E l r l'' r'' :=
  ⟨h'.singletons.trans h.singletons, h'.records.trans h.records, h'.catalog⟩

/-- An operation that changes neither a singleton nor a record. What it finds is as `P` says. -/
def Work.Finds {α : Type} (host : Host) (E : Findings) (l : LiveState) (r : Records) (work : Work α)
    (P : α → Prop) : Prop :=
  work.Ensures host.Answers l r fun x l' r' => Still E l r l' r' ∧ ∀ a, x = .ok a → P a

theorem Work.Finds.mono {α : Type} {work : Work α} {P Q : α → Prop} (h : work.Finds host E l r P)
    (hPQ : ∀ a, P a → Q a) : work.Finds host E l r Q := by
  refine Attempt.Ensures.mono h ?_
  intro x l' r' hend
  obtain ⟨hstill, hx⟩ := hend
  exact ⟨hstill, fun a ha => hPQ a (hx a ha)⟩

theorem Work.Finds.bind {α β : Type} {first : Work α} {k : α → Work β} {P : α → Prop} {Q : β → Prop}
    (h : first.Finds host E l r P)
    (hk : ∀ a l₁, P a → E.In l₁.catalog → (k a).Finds host E l₁ r Q) :
    (first >>= k).Finds host E l r Q := by
  refine Attempt.Ensures.bind h ?_ ?_
  · intro a l₁ r₁ hend
    obtain ⟨hstill, ha⟩ := hend
    have hrest := hk a l₁ (ha a rfl) hstill.catalog
    rw [← hstill.records] at hrest
    refine Attempt.Ensures.mono hrest ?_
    intro x l' r' hend
    obtain ⟨hlast, hx⟩ := hend
    exact ⟨hstill.trans hlast, hx⟩
  · intro e l₁ r₁ hend
    obtain ⟨hstill, -⟩ := hend
    exact ⟨hstill, nofun⟩

theorem Work.finds_pure {α : Type} {P : α → Prop} {a : α} (hl : E.In l.catalog) (ha : P a) :
    Work.Finds host E l r (pure a) P := by
  refine ⟨.refl hl, ?_⟩
  intro _ heq
  obtain ⟨⟩ := heq
  exact ha

theorem Work.finds_fail {α : Type} {P : α → Prop} (hl : E.In l.catalog) (e : HubError) :
    Work.Finds host E l r (Attempt.fail e) P := ⟨.refl hl, nofun⟩

namespace DriverRecord

/-- A lookup fails only where the analysis of the source does. -/
theorem ensures_extraction {driver : DriverRecord}
    (hE : ∀ analysis, host.analyzes driver.id.programId driver.source (.ok analysis) →
      E.source driver.id driver.source analysis.extraction) (hl : E.In l.catalog) :
    driver.extraction.inHub.Ensures host.Answers l r fun x l' r' => Still E l r l' r' ∧
      ((∃ e, x = .ok e ∧ E.source driver.id driver.source e) ∨
        ∃ e, x = .error (.engine e) ∧ host.analyzes driver.id.programId driver.source (.error e)) := by
  rw [Lookup.ensures_inHub]
  unfold DriverRecord.extraction
  rw [Attempt.ensures_bind, Attempt.ensures_look]
  cases hk : l.catalog.known? driver with
  | some e => exact ⟨.refl hl, .inl ⟨e, rfl, Findings.of_known? hl hk⟩⟩
  | none =>
    simp only
    rw [Attempt.ensures_bind, Attempt.ensures_analyze]
    rintro (e | analysis) ha
    · exact ⟨.refl hl, .inr ⟨e, rfl, ha⟩⟩
    · have he : E.source driver.id driver.source analysis.extraction := hE _ ha
      have hnew := Findings.in_remember driver analysis.extraction hl he
      -- the two branches differ only in the line that is written about a script that is not valid
      have hlast : (do Attempt.change (Catalog.remember driver analysis.extraction)
                       return analysis.extraction : Lookup Extraction).Ensures host.Answers l.catalog r
          fun x catalog r' => Still E l r { l with catalog } r' ∧
            ((∃ e, x = .ok e ∧ E.source driver.id driver.source e) ∨
              ∃ e, x = .error (.engine e) ∧
                host.analyzes driver.id.programId driver.source (.error e)) :=
        ⟨.of_catalog hnew, .inl ⟨_, rfl, he⟩⟩
      simp only [Except.mapError]
      split
      · rw [Attempt.ensures_bind, Attempt.ensures_report]
        exact hlast
      · exact hlast

theorem finds_extraction (hE : E.Of host) (hl : E.In l.catalog) (driver : DriverRecord) :
    driver.extraction.inHub.Finds host E l r (E.source driver.id driver.source) := by
  refine (ensures_extraction (hE.source _ _) hl).mono ?_
  intro x l' r' hend
  obtain ⟨hstill, ⟨e, rfl, he⟩ | ⟨e, rfl, -⟩⟩ := hend
  · refine ⟨hstill, ?_⟩
    intro _ heq
    obtain ⟨⟩ := heq
    exact he
  · exact ⟨hstill, nofun⟩

theorem finds_validInfo (hE : E.Of host) (hl : E.In l.catalog) (driver : DriverRecord) :
    driver.validInfo.inHub.Finds host E l r fun info => ∃ program warnings,
      E.source driver.id driver.source (.valid info program warnings) := by
  have h := finds_extraction (r := r) hE hl driver
  unfold Work.Finds at h ⊢
  rw [Lookup.ensures_inHub] at h ⊢
  unfold validInfo
  refine h.bind ?_ ?_
  · intro e catalog r' hend
    obtain ⟨hstill, he⟩ := hend
    cases e with
    | valid info program warnings =>
      refine ⟨hstill, ?_⟩
      intro _ heq
      obtain ⟨⟩ := heq
      exact ⟨program, warnings, he _ rfl⟩
    | invalid diagnostics => exact ⟨hstill, nofun⟩
  · intro e catalog r' hend
    obtain ⟨hstill, -⟩ := hend
    exact ⟨hstill, nofun⟩

end DriverRecord

theorem UnitCache.ensures_getOrCompile (hE : E.Of host) {cache : UnitCache} (hc : E.Units cache)
    {id : DriverId} {info : DriverInfo} {program : Program} {warnings : List Diagnostic}
    {revision : String} (he : E.source id revision (.valid info program warnings)) :
    (getOrCompile program revision).Ensures host.Answers cache r fun x cache' r' =>
      r' = r ∧ E.Units cache' ∧ ∀ unit, x = .ok unit → E.Serves unit program.id revision := by
  unfold getOrCompile
  rw [Attempt.ensures_bind, Attempt.ensures_look]
  cases hget : get? program.id revision cache with
  | some unit =>
    refine ⟨rfl, hc, ?_⟩
    intro _ heq
    obtain ⟨⟩ := heq
    exact Findings.of_get? hc hget
  | none =>
    simp only
    rw [Attempt.ensures_bind, Attempt.ensures_compile]
    rintro (e | unit) hcompile
    · exact ⟨rfl, hc, nofun⟩
    · have hserves : E.Serves unit program.id revision :=
        ⟨id, info, program, warnings, he, rfl, hE.unit _ _ hcompile⟩
      refine ⟨rfl, Findings.units_put hc hserves, ?_⟩
      intro _ heq
      obtain ⟨⟩ := heq
      exact hserves

/-- A prepared driver stands for what its record says: its schemas are those of the source, and its
unit serves the program. -/
structure PreparedDriver.Of (E : Findings) (driver : DriverRecord) (prepared : PreparedDriver) :
    Prop where
  source : ∃ warnings, E.source driver.id driver.source (.valid prepared.info prepared.program warnings)
  unit : E.Serves prepared.unit prepared.program.id driver.source

theorem PreparedDriver.Of.extract {driver : DriverRecord} {prepared : PreparedDriver}
    (h : prepared.Of host.findings driver) : prepared.program.extract = .ok prepared.info := by
  obtain ⟨warnings, analysis, -, hvalid⟩ := h.source
  exact (Analysis.eq_analyzed_of_valid hvalid).2

/-- Preparing a driver finds it invalid only where its source is. -/
theorem DriverRecord.ensures_prepare (hE : E.Of host) (hl : E.In l.catalog) (driver : DriverRecord) :
    driver.prepare.inHub.Ensures host.Answers l r fun x l' r' => Still E l r l' r' ∧
      (∀ prepared, x = .ok prepared → prepared.Of E driver) ∧
      ∀ id diagnostics, x = .error (.driverInvalid id diagnostics) →
        E.source driver.id driver.source (.invalid diagnostics) := by
  have h := ensures_extraction (r := r) (hE.source driver.id driver.source) hl
  rw [Lookup.ensures_inHub] at h ⊢
  unfold DriverRecord.prepare
  refine h.bind ?_ ?_
  · rintro e catalog r' ⟨hstill, ⟨_, ⟨⟩, hsource⟩ | ⟨_, ⟨⟩, -⟩⟩
    cases e with
    | invalid diagnostics =>
      refine ⟨hstill, nofun, ?_⟩
      intro _ _ heq
      obtain ⟨⟩ := heq
      exact hsource
    | valid info program warnings =>
      simp only
      rw [Attempt.ensures_bind, Attempt.ensures_of]
      have hunit := UnitCache.ensures_getOrCompile (r := r') hE hstill.catalog.units hsource
      refine (Flow.ensures_embed Catalog.units (fun units c => { c with units }) (fun _ _ => rfl)
        (fun _ _ _ => rfl) (fun _ => rfl) _ _ _ _).2 (hunit.mono ?_)
      intro x units _ hend
      obtain ⟨rfl, hunits, hx⟩ := hend
      have hstill' : Still E l r { l with catalog := { catalog with units } } _ :=
        ⟨rfl, hstill.records, { hstill.catalog with units := hunits }⟩
      cases x with
      | error e => exact ⟨hstill', nofun, nofun⟩
      | ok unit =>
        refine ⟨hstill', ?_, nofun⟩
        intro _ heq
        obtain ⟨⟩ := heq
        exact ⟨⟨warnings, hsource⟩, hx unit rfl⟩
  · rintro e catalog r' ⟨hstill, ⟨_, ⟨⟩, -⟩ | ⟨e', he, -⟩⟩
    obtain ⟨⟩ := he
    exact ⟨hstill, nofun, nofun⟩

theorem DriverRecord.finds_prepared (hE : E.Of host) (hl : E.In l.catalog) (driver : DriverRecord) :
    driver.prepare.inHub.Finds host E l r (PreparedDriver.Of E driver) :=
  (ensures_prepare hE hl driver).mono fun _ _ _ hend => ⟨hend.1, hend.2.1⟩

end

end DriverHub
