import DriverHub.Proofs.Flow.Session
import DriverHub.Proofs.Hub.Engine

/-! Lookups of drivers. The catalog keeps analyses by driver and compiled units by program, and two
drivers may share a program. Lookups and removals may come in any order and overtake each other; as
long as the engine answers by what it is asked alone, nobody can tell from an answer that anything is
kept. Kept sources are compared in full here, which is what digests come to where no two of them agree
by accident. -/

namespace DriverHub

variable {W : Type} {engine : Engine} {R : Surroundings services W}

/-! ### Without a catalog -/

namespace Engine

/-- What an analysis of a source tells, if nothing is kept. -/
def extractionOf (engine : Engine) (id : DriverId) (source : String) :
    Except EngineError Extraction :=
  (engine.analyze id.programId source).map Analysis.extraction

/-- A driver that was analyzed and compiled just now. -/
def prepared (engine : Engine) (driver : DriverRecord) : Except HubError PreparedDriver :=
  match engine.extractionOf driver.id driver.source with
  | .ok (.valid info program _) =>
    match engine.compile program with
    | .ok unit => .ok { unit, info, program }
    | .error e => .error (.engine e)
  | .ok (.invalid diagnostics) => .error (.driverInvalid driver.id diagnostics)
  | .error e => .error (.engine e)

/-- An answer of this engine, if the question is for an engine to answer. -/
def Gives (engine : Engine) : (q : Service) → q.Answer → Prop
  | .analyze program source, x => x = engine.analyze program source
  | .compile program, x => x = engine.compile program
  | _, _ => True

/-- Surroundings with this engine, which always answer. -/
structure Behind (engine : Engine) (R : Surroundings services W) : Prop where
  gives : ∀ w q b v, R w q b v → engine.Gives q b
  total : ∀ w q, ∃ b v, R w q b v
  /-- A program is known by the identifier that it was analyzed for. -/
  named : ∀ id source program warnings,
    engine.analyze id source = .ok (.analyzed program warnings) → program.id = id

theorem findings_source {id : DriverId} {source : String} {e : Extraction} :
    engine.findings.source id source e ↔ engine.extractionOf id source = .ok e := by
  change (∃ analysis, _ = _ ∧ _ = _) ↔ Except.map _ _ = _
  cases engine.analyze id.programId source with
  | error e => simp [Except.map]
  | ok analysis => simp [Except.map]

theorem analyze_of_valid {id : DriverId} {source : String} {info : DriverInfo} {program : Program}
    {warnings : List Diagnostic}
    (h : engine.extractionOf id source = .ok (.valid info program warnings)) :
    engine.analyze id.programId source = .ok (.analyzed program warnings) := by
  unfold extractionOf at h
  rcases hanalyze : engine.analyze id.programId source with e | analysis
  · rw [hanalyze] at h
    cases h
  · rw [hanalyze] at h
    rw [(Analysis.eq_analyzed_of_valid (Except.ok.inj h)).1]

/-- A unit that serves a program at a source was compiled from what the source is analyzed to, for
whichever of the drivers that share the program. -/
theorem compile_of_serves (hR : engine.Behind R) {id : DriverId} {source : String}
    {info : DriverInfo} {program : Program} {warnings : List Diagnostic} {unit : CompiledUnit}
    (hvalid : engine.extractionOf id source = .ok (.valid info program warnings))
    (h : engine.findings.Serves unit program.id source) : engine.compile program = .ok unit := by
  obtain ⟨id', info', program', warnings', hvalid', hid, hunit⟩ := h
  have hanalyze := analyze_of_valid hvalid
  have hanalyze' := analyze_of_valid (findings_source.1 hvalid')
  have hsame : id'.programId = id.programId := by
    rw [← hR.named _ _ _ _ hanalyze, ← hR.named _ _ _ _ hanalyze', hid]
  rw [hsame, hanalyze] at hanalyze'
  cases hanalyze'
  exact hunit

end Engine

namespace Catalog

/-- Forgets what is known about a driver, which is kept in two places: another lookup may come in
between. -/
def forget (id : DriverId) : Flow services Catalog Unit := do
  Flow.change fun catalog => { catalog with extractions := Dict.erase id catalog.extractions }
  Flow.change fun catalog => { catalog with units := catalog.units.drop id.programId }

theorem ensures_forget (id : DriverId) (catalog : Catalog) (w : W) (Q : Unit → Catalog → W → Prop) :
    (forget id).Ensures R catalog w Q ↔ Q () (catalog.invalidate id) w := Iff.rfl

end Catalog

/-! ### Calls -/

inductive CatalogCall where
  | extraction (driver : DriverRecord)
  | prepare (driver : DriverRecord)
  | invalidate (id : DriverId)

namespace CatalogCall

def Result : CatalogCall → Type
  | extraction _ => Except HubError Extraction
  | prepare _ => Except HubError PreparedDriver
  | invalidate _ => Unit

def flow : (call : CatalogCall) → Flow services Catalog call.Result
  | extraction driver => driver.extraction.run
  | prepare driver => driver.prepare.run
  | invalidate id => Catalog.forget id

/-- Any calls, in any order of turns. -/
def setting (R : Surroundings services W) : Flow.Setting services Catalog W Result where
  answers := R
  flow := flow
  admits _ := True
  permits _ _ := True

instance (R : Surroundings services W) (p : Flow.Session services Catalog W Result)
    (t : Flow.Turn services Catalog) : Decidable ((setting R).permits p t) :=
  inferInstanceAs (Decidable True)

/-- The turns that a call takes at most. -/
def turns : CatalogCall → Nat
  | extraction _ => 4
  | prepare _ => 7
  | invalidate _ => 2

/-- What a call ends with, if nothing is kept. -/
def Direct (engine : Engine) : (call : CatalogCall) → call.Result → Prop
  | extraction driver, x => x = (engine.extractionOf driver.id driver.source).mapError .engine
  | prepare driver, x => x = engine.prepared driver
  | invalidate _, _ => True

end CatalogCall

/-! ### Lookups among others -/

/-- A lookup that has so many turns left. Whatever it finds kept, the engine says the same, and so it
stays. -/
def lookups (engine : Engine) : Flow.Protocol services Catalog Nat where
  relies _ catalog := engine.findings.In catalog
  answers := engine.Gives
  moves n catalog act m := m < n ∧ engine.findings.In (act.after catalog)

section

variable {n : Nat}

theorem keeps_extraction (driver : DriverRecord) :
    driver.extraction.run.Keeps (lookups engine) (n + 4)
      fun x m => x = (engine.extractionOf driver.id driver.source).mapError .engine ∧ n ≤ m := by
  refine Attempt.keeps_bind.2 (Attempt.keeps_look fun catalog hcatalog => ?_)
  refine ⟨n + 3, ⟨by omega, hcatalog⟩, ?_⟩
  dsimp only
  split
  · next e hknown =>
    rw [Engine.findings_source.1 (Findings.of_known? hcatalog hknown)]
    exact ⟨rfl, by omega⟩
  refine Attempt.keeps_bind.2 (Attempt.keeps_of.2 fun catalog x hcatalog hx => ?_)
  refine ⟨n + 2, ⟨by omega, hcatalog⟩, ?_⟩
  change x = engine.analyze _ _ at hx
  unfold Engine.extractionOf
  rw [← hx]
  rcases x with e | analysis
  · exact ⟨rfl, by omega⟩
  have hfound : engine.findings.source driver.id driver.source analysis.extraction :=
    ⟨analysis, hx.symm, rfl⟩
  have hremember (m : Nat) (hm : n < m) : Flow.Keeps (lookups engine)
      (do Attempt.change (Catalog.remember driver analysis.extraction); return analysis.extraction :
        Lookup Extraction).run m fun x m => x = .ok analysis.extraction ∧ n ≤ m := by
    refine Attempt.keeps_bind.2 (Attempt.keeps_change fun catalog hcatalog => ?_)
    exact ⟨n, ⟨hm, Findings.in_remember driver _ hcatalog hfound⟩, rfl, Nat.le_refl n⟩
  simp only [Flow.Keeps, Except.mapError]
  split
  · intro catalog _ hcatalog _
    exact ⟨n + 1, ⟨by omega, hcatalog⟩, hremember (n + 1) (by omega)⟩
  · exact hremember (n + 2) (by omega)

/-- The unit of a program at the source that it was analyzed from. -/
theorem keeps_getOrCompile (hR : engine.Behind R) {id : DriverId} {source : String}
    {info : DriverInfo} {program : Program} {warnings : List Diagnostic}
    (hvalid : engine.extractionOf id source = .ok (.valid info program warnings)) :
    ((UnitCache.getOrCompile program source).run.embed Catalog.units
      (fun units c => { c with units }) Service.request).Keeps (lookups engine) (n + 3)
      fun x _ => x = engine.compile program := by
  intro catalog hcatalog
  refine ⟨n + 2, ⟨by omega, hcatalog⟩, ?_⟩
  dsimp only
  cases hget : UnitCache.get? program.id source catalog.units with
  | some unit => exact (Engine.compile_of_serves hR hvalid (Findings.of_get? hcatalog.units hget)).symm
  | none =>
    intro catalog x hcatalog hx
    refine ⟨n + 1, ⟨by omega, hcatalog⟩, ?_⟩
    change x = engine.compile program at hx
    rcases x with e | unit
    · exact hx
    have hserves : engine.findings.Serves unit program.id source :=
      ⟨id, info, program, warnings, Engine.findings_source.2 hvalid, rfl, hx.symm⟩
    intro catalog hcatalog
    exact ⟨n, ⟨by omega, { hcatalog with units := Findings.units_put hcatalog.units hserves }⟩, hx⟩

theorem keeps_prepare (hR : engine.Behind R) (driver : DriverRecord) :
    driver.prepare.run.Keeps (lookups engine) 7 fun x _ => x = engine.prepared driver := by
  refine Attempt.keeps_bind.2 ((keeps_extraction (n := 3) driver).mono ?_)
  rintro x m ⟨hx, hm⟩
  obtain ⟨m, rfl⟩ := Nat.exists_eq_add_of_le' hm
  unfold Engine.prepared
  rcases hextraction : engine.extractionOf driver.id driver.source with e | e
  all_goals
    rw [hextraction] at hx
    subst hx
  · rfl
  cases e with
  | invalid diagnostics => rfl
  | valid info program warnings =>
    have hcompile := keeps_getOrCompile (n := m) hR hextraction
    refine Attempt.keeps_bind.2 (Attempt.keeps_of.2 (hcompile.mono ?_))
    rintro x _ rfl
    dsimp only
    cases engine.compile program with
    | error e => rfl
    | ok unit => rfl

end

/-! ### Sessions -/

theorem CatalogCall.keeps_flow (hR : engine.Behind R) (call : CatalogCall) :
    call.flow.Keeps (lookups engine) call.turns fun x _ => call.Direct engine x := by
  cases call with
  | extraction driver => exact (keeps_extraction (n := 0) driver).mono fun _ _ h => h.1
  | prepare driver => exact keeps_prepare hR driver
  | invalidate id =>
    intro catalog hcatalog
    refine ⟨1, ⟨Nat.lt_add_one 1, Findings.in_erase id hcatalog⟩, ?_⟩
    intro catalog hcatalog
    have hunits := Findings.units_drop id.programId hcatalog.units
    exact ⟨0, ⟨Nat.zero_lt_one, { hcatalog with units := hunits }⟩, trivial⟩

/-- All lookups, each with the turns that it has left. -/
abbrev LookupStandings (engine : Engine) :=
  List (Flow.Standing (lookups engine) fun call (x : CatalogCall.Result call) _ => call.Direct engine x)

/-- No call takes more turns than it may. -/
def WithinTurns (standings : LookupStandings engine) (turns : List (Flow.Turn services Catalog)) :
    Prop :=
  ∀ i, turns.countP (·.caller = i) + (standings[i]?.elim 0 (·.value)) ≤
    standings[i]?.elim 0 (·.caller.call.turns)

theorem WithinTurns.call {standings : LookupStandings engine}
    {turns : List (Flow.Turn services Catalog)} (h : WithinTurns standings turns) {e}
    (he : e.value = e.caller.call.turns) : WithinTurns (standings ++ [e]) turns := by
  intro i
  have hi := h i
  rcases Nat.lt_trichotomy i standings.length with hlt | rfl | hgt
  · rwa [List.getElem?_append_left hlt]
  · rw [List.getElem?_eq_none (Nat.le_refl _)] at hi
    rw [List.getElem?_concat_length]
    simp only [Option.elim_none, Option.elim_some] at hi ⊢
    omega
  · rw [List.getElem?_eq_none (Nat.le_of_lt hgt)] at hi
    rwa [List.getElem?_eq_none (by rwa [List.length_append])]

theorem WithinTurns.turn {left right : LookupStandings engine} {e e'}
    {turns : List (Flow.Turn services Catalog)} {catalog : Catalog} {act}
    (h : WithinTurns (left ++ e :: right) turns) (hcall : e'.caller.call = e.caller.call)
    (hvalue : e'.value < e.value) :
    WithinTurns (left ++ e' :: right) (turns ++ [⟨left.length, catalog, act⟩]) := by
  intro i
  have hi := h i
  rw [List.countP_append, List.countP_singleton]
  by_cases heq : left.length = i
  · subst heq
    rw [List.getElem?_append_right (Nat.le_refl _), Nat.sub_self, List.getElem?_cons_zero] at hi ⊢
    simp only [Option.elim_some, hcall, decide_true, if_true] at hi ⊢
    omega
  · rw [Flow.getElem?_other e' e heq]
    simpa [heq] using hi

/-- Whatever other lookups and removals come in between, a lookup ends with what analyzing and
compiling the source would give just then; and each call comes to its end, as it takes only so many
turns and may always take the next. -/
theorem lookups_direct {w : W} {p : Flow.Session services Catalog W CatalogCall.Result}
    (hR : engine.Behind R) (h : (CatalogCall.setting R).Leads {} w p) :
    (∀ driver x, ⟨.extraction driver, .done x⟩ ∈ p.callers →
      x = (engine.extractionOf driver.id driver.source).mapError .engine) ∧
    (∀ driver x, ⟨.prepare driver, .done x⟩ ∈ p.callers → x = engine.prepared driver) ∧
    ∀ i c, p.callers[i]? = some c → p.turns.countP (·.caller = i) ≤ c.call.turns ∧
      (c.ended = false → ∃ p' t, (CatalogCall.setting R).Leads {} w p' ∧
        p'.callers.map (·.call) = p.callers.map (·.call) ∧ p'.turns = p.turns ++ [t] ∧
        t.caller = i) := by
  obtain ⟨standings, hcallers, -, hturns⟩ := h.invariant (P := lookups engine)
    (Q := fun call x _ => CatalogCall.Direct engine call x) CatalogCall.turns
    (fun call _ => CatalogCall.keeps_flow hR call)
    (fun (standings : LookupStandings engine) catalog _ turns =>
      engine.findings.In catalog ∧ WithinTurns standings turns)
    ⟨Findings.in_empty, fun _ => Nat.le_refl 0⟩ (fun q b v _ hb => hR.gives _ q b v hb) (fun hinv => hinv.1)
    (fun _ _ he hinv => ⟨hinv.1, hinv.2.call he⟩)
    (fun hinv hcall hmove _ _ => ⟨hmove.2, hinv.2.turn hcall hmove.1⟩)
  have hdirect (call : CatalogCall) (x : call.Result) (hmem : ⟨call, .done x⟩ ∈ p.callers) :
      call.Direct engine x := by
    rw [hcallers, List.mem_map] at hmem
    obtain ⟨⟨c, n, hkeeps⟩, -, rfl⟩ := hmem
    exact hkeeps
  refine ⟨fun driver => hdirect (.extraction driver), fun driver => hdirect (.prepare driver), ?_⟩
  intro i c hc
  refine ⟨?_, h.exists_turn hR.total (fun _ _ => trivial) hc⟩
  have hi := hturns i
  rw [hcallers, List.getElem?_map, Option.map_eq_some_iff] at hc
  obtain ⟨e, he, rfl⟩ := hc
  rw [he] at hi
  exact Nat.le_of_add_right_le hi

theorem Engine.behind_host (engine : Engine) (named : ∀ id source program warnings,
    engine.analyze id source = .ok (.analyzed program warnings) → program.id = id) :
    engine.Behind engine.host.Answers := by
  refine ⟨?_, engine.host.exists_answers, named⟩
  intro r q x r' h
  cases q with
  | analyze program source => exact h.1
  | compile program => exact h.1
  | _ => trivial

theorem Engine.named_switches (id source : String) (program : Program) (warnings : List Diagnostic)
    (h : switches.analyze id source = .ok (.analyzed program warnings)) : program.id = id := by
  dsimp only [switches] at h
  split at h <;> cases h
  rfl

/-- Two drivers with one program between them. -/
def twinDriver (first : Bool) (source : String) : DriverRecord where
  id := if first then ⟨"acme:wall", "switch"⟩ else ⟨"acme", "wall:switch"⟩
  name := "Switch"
  version := default
  source := source

/-- Two drivers with one program and different sources are made ready at once. The first one's unit is
kept first and the second one's over it, while what is known about the first is forgotten; then the
first is made ready again, and once more with the source of the second. -/
def twins : Flow.Session services Catalog Records CatalogCall.Result :=
  let calls : List CatalogCall :=
    [.prepare (twinDriver true "dimmer"), .prepare (twinDriver false "switch"),
      .invalidate (twinDriver true "dimmer").id, .prepare (twinDriver true "dimmer"),
      .extraction (twinDriver true "switch"), .prepare (twinDriver true "switch")]
  (Flow.Session.opened (CatalogCall.setting Engine.switches.host.Answers) calls {} {}).turnsOf
    (CatalogCall.setting Engine.switches.host.Answers) Engine.switches.answer
    ([0, 1, 0, 1, 0, 1, 0, 1, 0, 1, 2, 0, 1, 2] ++ [3, 3, 3, 3, 3, 3, 3] ++ [4, 4, 4] ++ [5, 5, 5, 5])

theorem leads_twins : (CatalogCall.setting Engine.switches.host.Answers).Leads {} {} twins :=
  (Flow.Setting.Leads.opened _ fun _ _ => trivial).turnsOf Engine.switches.answers_answer _

/-- The first driver is a dimmer, the second a switch, and the first in its new source a switch too. -/
theorem twins_direct :
    (twinDriver true "dimmer").id ≠ (twinDriver false "switch").id ∧
    (twinDriver true "dimmer").id.programId = (twinDriver false "switch").id.programId ∧
    twins.AtRest ∧ twins.turns.countP (·.caller = 0) ≤ 7 ∧
    ∀ first source, (first, source) ∈ [(true, "dimmer"), (false, "switch"), (true, "switch")] →
      ∃ x, ⟨.prepare (twinDriver first source), .done x⟩ ∈ twins.callers ∧
        x = Engine.switches.prepared (twinDriver first source) ∧
        x.map (·.unit.artifact) = .ok source := by
  have hdirect := lookups_direct (Engine.switches.behind_host Engine.named_switches) leads_twins
  obtain ⟨-, hprepare, hturns⟩ := hdirect
  refine ⟨by decide, by decide, by decide, (hturns 0 _ rfl).1, ?_⟩
  intro first source hmem
  simp only [List.mem_cons, Prod.mk.injEq, List.not_mem_nil, or_false] at hmem
  rcases hmem with ⟨rfl, rfl⟩ | ⟨rfl, rfl⟩ | ⟨rfl, rfl⟩
  · exact ⟨_, List.mem_of_getElem? (i := 0) rfl, hprepare _ _ (List.mem_of_getElem? (i := 0) rfl), rfl⟩
  · exact ⟨_, List.mem_of_getElem? (i := 1) rfl, hprepare _ _ (List.mem_of_getElem? (i := 1) rfl), rfl⟩
  · exact ⟨_, List.mem_of_getElem? (i := 5) rfl, hprepare _ _ (List.mem_of_getElem? (i := 5) rfl), rfl⟩

end DriverHub
