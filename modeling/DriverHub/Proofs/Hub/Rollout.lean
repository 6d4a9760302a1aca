import DriverHub.Proofs.Flow.Session
import DriverHub.Proofs.Hub.Interleaving
import DriverHub.Proofs.Schema.Migration

/-! New code for a driver, while calls of the same driver go on. Neither waits for the other: a call
keeps what the source that it has read says, however long ago it has read it, and new code brings the
singletons under its schemas one after another, once it is recorded. -/

namespace DriverHub

open CallStep

/-- What a run of a driver leaves behind has the shapes that the driver declares. -/
structure DriverInfo.Leaves (info : DriverInfo) (left : Dict String Value) : Prop where
  driver : ∀ v, Dict.find? Template.driver.singleton left = some v → v.HasShape info.driverSchema
  device : ∀ v, Dict.find? Template.device.singleton left = some v → v.HasShape info.deviceSchema

/-- A source of a driver is valid and declares this. Its schemas are plain, and runs of it leave behind
what they say. -/
structure Findings.Declares (E : Findings) (id : DriverId) (source : String) (info : DriverInfo) :
    Prop where
  valid : ∀ e, E.source id source e → ∃ p warnings, e = .valid info p warnings
  plain : ∀ c, (info.schemaOf c).Plain
  leaves : ∀ p warnings unit left, E.source id source (.valid info p warnings) →
    E.Serves unit p.id source → E.left unit left → info.Leaves left

/-- A driver that gets new code. -/
structure Rollout where
  host : Host
  E : Findings
  id : DriverId
  old : String
  new : String
  /-- What the two sources declare. -/
  declared : String → DriverInfo
  /-- The records at first. -/
  first : Records

/-- Where a call or the new code stands. -/
inductive Course where
  /-- A call, with the source that it has read for the driver. -/
  | calling (source : Option String)
  /-- New code that is not recorded yet. -/
  | preparing
  /-- New code that is recorded, and has yet to bring these under its schemas. -/
  | settling (due : ConfigTarget → Prop)

/-- Nothing is left to be brought under new schemas. -/
def Course.Finished (g : Course) : Prop := ∀ due, g = .settling due → ∀ c, ¬ due c

abbrev HubAct := Flow.Act services LiveState

namespace Rollout

variable (ro : Rollout)

/-- The source is the old one or the new one. -/
def Known (source : String) : Prop := source = ro.old ∨ source = ro.new

/-- The driver itself, or a device of it. -/
def Owns (c : ConfigTarget) : Prop := ro.first.Owns ro.id c

/-- A value has the shape that a source declares. -/
def Fits (source : String) (c : ConfigTarget) (v : Value) : Prop :=
  v.HasShape ((ro.declared source).schemaOf c)

/-- The owners of devices are as they were at first. -/
def SameOwners (r : Records) : Prop := ∀ k, r.owner? k = ro.first.owner? k

/-- The records as calls may find them. -/
structure Stands (r : Records) : Prop where
  keyed : r.Keyed
  owners : ro.SameOwners r
  source : ∃ source, ro.Known source ∧ r.source? ro.id = some source

/-- An act that keeps nothing for the driver or a device of it, gives no device to another driver, and
leaves the source as it is. -/
structure Aside (act : HubAct) : Prop where
  keeps : ∀ c, ro.Owns c → keeps? c act = none
  records : ∀ r r', act.Answered ro.host.Answers r r' → ro.SameOwners r →
    ro.SameOwners r' ∧ r'.source? ro.id = r.source? ro.id

inductive Leads : Course → HubAct → Course → Prop
  | aside {g act} (aside : ro.Aside act) : Leads g act g
  | learn {before record} :
    Leads (.calling before) (.asked (.record (.driver ro.id)) (.ok (some record)))
      (.calling (some record.source))
  | keep {source update}
      (fits : ∀ c v, ro.Owns c → keeps? c (.accessed update) = some v → ro.Fits source c v) :
    Leads (.calling (some source)) (.accessed update) (.calling (some source))
  | record {record} (id : record.id = ro.id) (source : record.source = ro.new) :
    Leads .preparing (.asked (.record (.putDriver record)) (.ok ())) (.settling ro.Owns)
  | settle {due update}
      (fits : ∀ c v, ro.Owns c → keeps? c (.accessed update) = some v → ro.Fits ro.new c v) :
    Leads (.settling due) (.accessed update)
      (.settling fun c => due c ∧ keeps? c (.accessed update) = none)

/-- What calls and new code find in memory whenever their turn comes. -/
structure Relies (s : LiveState) : Prop where
  catalog : ro.E.In s.catalog
  values : ∀ c, ro.Owns c →
    ∃ v source, s.singletons.value? c = some v ∧ ro.Known source ∧ ro.Fits source c v

structure Moves (g : Course) (s : LiveState) (act : HubAct) (g' : Course) : Prop where
  catalog : ro.E.In (act.after s).catalog
  value : ∀ c, (act.after s).singletons.value? c = (keeps? c act).or (s.singletons.value? c)
  leads : ro.Leads g act g'

/-- The protocol of calls and new code, in records that others may change. -/
def protocol : Flow.Protocol services LiveState Course where
  relies _ := ro.Relies
  answers q b := ∃ r r', ro.Stands r ∧ ro.host.Answers r q b r'
  moves := ro.Moves

/-- The protocol of lookups in a part of the hub that is good: they leave it good, and write to no
record. -/
def lookups {σ : Type} (good : σ → Prop) : Flow.Protocol services σ Unit where
  relies _ := good
  answers := ro.protocol.answers
  moves _ s act _ := good (act.after s) ∧ ∀ q b, act = .asked q b → q.Reads

/-- What comes out of the engine is among the findings, and both sources are valid. -/
structure Regular : Prop where
  of : ro.E.Of ro.host
  declares : ∀ source, ro.Known source → ro.E.Declares ro.id source (ro.declared source)

variable {ro}

theorem aside_of_quiet {update : LiveState → LiveState}
    (quiet : ∀ l, (update l).singletons = l.singletons) : ro.Aside (.accessed update) := by
  refine ⟨fun c _ => keeps?_of_quiet quiet c, ?_⟩
  rintro r r' rfl howners
  exact ⟨howners, rfl⟩

theorem aside_of_reads (q : Service) (reads : q.Reads) (b : q.Answer) : ro.Aside (.asked q b) := by
  refine ⟨fun _ _ => rfl, ?_⟩
  intro r r' hanswer howners
  obtain rfl := reads.eq_of_answers hanswer
  exact ⟨howners, rfl⟩

theorem aside_of_record (op : RecordOp) (howners : ∀ r, ro.SameOwners r → ro.SameOwners (op.apply r))
    (hsource : ∀ r, (op.apply r).source? ro.id = r.source? ro.id) (b : Except RecordError op.Result) :
    ro.Aside (.asked (.record op) b) := by
  refine ⟨fun _ _ => rfl, ?_⟩
  rintro r r' (⟨-, rfl⟩ | ⟨-, -, -, rfl⟩) h
  · exact ⟨howners r h, hsource r⟩
  · exact ⟨h, rfl⟩

theorem aside_of_fault (op : RecordOp) (e : RecordError) :
    ro.Aside (.asked (.record op) (.error e)) := by
  refine ⟨fun _ _ => rfl, ?_⟩
  rintro r r' (⟨h, -⟩ | ⟨-, -, -, rfl⟩) howners
  · cases h
  · exact ⟨howners, rfl⟩

theorem Moves.of_quiet {g : Course} {s : LiveState} {update : LiveState → LiveState}
    (quiet : ∀ l, (update l).singletons = l.singletons) (catalog : ro.E.In (update s).catalog) :
    ro.Moves g s (.accessed update) g := by
  refine ⟨catalog, fun c => ?_, .aside (aside_of_quiet quiet)⟩
  rw [keeps?_of_quiet quiet c, Flow.Act.after_accessed, quiet, Option.none_or]

theorem Moves.of_asked {g g' : Course} {s : LiveState} {q : Service} {b : q.Answer}
    (hs : ro.Relies s) (h : ro.Leads g (.asked q b) g') : ro.Moves g s (.asked q b) g' :=
  ⟨hs.catalog, fun _ => rfl, h⟩

end Rollout

/-! ### Operations that only look -/

namespace Work

variable {ro : Rollout} {α β : Type}

/-- An operation that is aside all the way. What it finds is as `P` says. -/
def Consults (ro : Rollout) (work : Work α) (P : α → Prop) : Prop :=
  ∀ g, work.run.Keeps ro.protocol g fun x g' => g' = g ∧ ∀ a, x = .ok a → P a

namespace Consults

variable {first : Work α} {k : α → Work β} {P : α → Prop}

theorem bind {g : Course} {Q : Except HubError β → Course → Prop} (h : first.Consults ro P)
    (hk : ∀ a, P a → (k a).run.Keeps ro.protocol g Q) (herror : ∀ e, Q (.error e) g) :
    (first >>= k).run.Keeps ro.protocol g Q := by
  refine Attempt.keeps_bind.2 ((h g).mono ?_)
  rintro (e | a) g' ⟨rfl, ha⟩
  · exact herror e
  · exact hk a (ha a rfl)

theorem andThen {Q : β → Prop} (h : first.Consults ro P) (hk : ∀ a, P a → (k a).Consults ro Q) :
    (first >>= k).Consults ro Q :=
  fun g => h.bind (fun a ha => hk a ha g) fun _ => ⟨rfl, nofun⟩

theorem mono {Q : α → Prop} (h : first.Consults ro P) (hPQ : ∀ a, P a → Q a) :
    first.Consults ro Q :=
  fun g => (h g).mono fun _ _ ⟨hg, ha⟩ => ⟨hg, fun a hx => hPQ a (ha a hx)⟩

end Consults

theorem consults_pure {P : α → Prop} {a : α} (ha : P a) : Consults ro (pure a) P := by
  refine fun g => ⟨rfl, ?_⟩
  rintro _ ⟨⟩
  exact ha

theorem consults_fail {P : α → Prop} (e : HubError) : Consults ro (Attempt.fail e) P :=
  fun _ => ⟨rfl, nofun⟩

theorem consults_some (e : HubError) (a : Option α) :
    Consults ro (Attempt.some e a) fun b => a = some b := by
  cases a with
  | none => exact consults_fail e
  | some a => exact consults_pure rfl

theorem consults_of_done {ε : Type} (wrap : ε → HubError) (x : Except ε α) :
    Consults ro (Attempt.of wrap (.done x)) fun a => x = .ok a := by
  refine fun g => ⟨rfl, ?_⟩
  cases x with
  | error e => nofun
  | ok a =>
    rintro _ ⟨⟩
    rfl

theorem consults_look (f : LiveState → α) :
    Consults ro (Attempt.look f) fun a => ∃ s, ro.Relies s ∧ f s = a := by
  intro g s hs
  refine ⟨g, .of_quiet (fun _ => rfl) hs.catalog, rfl, ?_⟩
  rintro _ ⟨⟩
  exact ⟨s, hs, rfl⟩

theorem consults_of_look {ε : Type} (wrap : ε → HubError) (f : LiveState → Except ε α) :
    Consults ro (Attempt.of wrap (Flow.look f)) fun a => ∃ s, ro.Relies s ∧ f s = .ok a := by
  intro g s hs
  refine ⟨g, .of_quiet (fun _ => rfl) hs.catalog, rfl, ?_⟩
  cases hf : f s with
  | error e => nofun
  | ok a =>
    rintro _ ⟨⟩
    exact ⟨s, hs, hf⟩

theorem consults_change {f : LiveState → LiveState}
    (quiet : ∀ l, (f l).singletons = l.singletons)
    (catalog : ∀ l, ro.E.In l.catalog → ro.E.In (f l).catalog) :
    Consults ro (Attempt.change f) fun _ => True :=
  fun g s hs => ⟨g, .of_quiet quiet (catalog s hs.catalog), rfl, fun _ _ => trivial⟩

theorem consults_ask {q : Service} (reads : q.Reads) :
    (ask q).Consults ro fun b => ro.protocol.answers q b := by
  intro g s b hs hb
  refine ⟨g, .of_asked hs (.aside (Rollout.aside_of_reads q reads b)), rfl, ?_⟩
  rintro _ ⟨⟩
  exact hb

theorem consults_report (line : LogLine) :
    Consults ro (Attempt.report line : Work Unit) fun _ => True :=
  (consults_ask (q := .log line) trivial).mono fun _ _ => trivial

theorem consults_record {op : RecordOp} (aside : ∀ b, ro.Aside (.asked (.record op) b)) :
    (record op).Consults ro fun x => ∃ r, ro.Stands r ∧ x = op.result r := by
  rintro g s b hs ⟨r, r', hr, ⟨rfl, -⟩ | ⟨e, -, rfl, -⟩⟩
  · refine ⟨g, .of_asked hs (.aside (aside _)), rfl, ?_⟩
    rintro _ ⟨⟩
    exact ⟨r, hr, rfl⟩
  · exact ⟨g, .of_asked hs (.aside (aside _)), rfl, nofun⟩

theorem consults_read {op : RecordOp} (h : op.isRead = true) :
    (record op).Consults ro fun x => ∃ r, ro.Stands r ∧ x = op.result r :=
  consults_record (Rollout.aside_of_reads (.record op) h)

theorem consults_driverRecord (k : DriverId) :
    (driverRecord k).Consults ro fun record => record.id = k ∧ (k = ro.id → ro.Known record.source) := by
  refine (consults_read rfl).andThen ?_
  rintro found ⟨r, hr, rfl⟩
  refine (consults_some _ _).mono fun record hfind => ⟨hr.keyed.find?_driver hfind, ?_⟩
  rintro rfl
  obtain ⟨source, hknown, hsource⟩ := hr.source
  rw [Records.source?_of_find? hfind] at hsource
  exact Option.some.inj hsource ▸ hknown

theorem consults_deviceRecord (k : DeviceId) :
    (deviceRecord k).Consults ro fun device => ro.first.owner? k = some device.driver := by
  refine (consults_read rfl).andThen ?_
  rintro found ⟨r, hr, rfl⟩
  refine (consults_some _ _).mono fun device hfind => ?_
  rw [← hr.owners k]
  exact Records.owner?_of_find? hfind

theorem consults_runUnit (hro : ro.Regular) (unit : CompiledUnit) (call : Call)
    (injected : Dict String Value) (token : TokenId) :
    (runUnit unit call injected token).Consults ro fun outcome => ∀ value left,
      outcome = .completed value left → ro.E.left unit left := by
  unfold runUnit
  refine Consults.andThen (consults_look _) fun timeout _ => ?_
  refine Consults.andThen (consults_ask trivial) fun deadline _ => ?_
  refine Consults.andThen (consults_ask trivial) fun outcome houtcome => ?_
  refine Consults.andThen (consults_ask trivial) fun _ _ => ?_
  refine (consults_of_done _ _).mono ?_
  rintro _ rfl value left rfl
  obtain ⟨r, r', -, hrun, -⟩ := houtcome
  exact hro.of.left _ _ _ _ _ _ hrun

end Work

/-! ### Lookups in the catalog -/

namespace Rollout

variable {ro : Rollout}

/-- A lookup in a part of the hub that is good finds the same as it would alone. -/
theorem keeps_getOrCompile (hro : ro.Regular) {id : DriverId} {info : DriverInfo} {program : Program}
    {warnings : List Diagnostic} {revision : String}
    (he : ro.E.source id revision (.valid info program warnings)) :
    (UnitCache.getOrCompile program revision).run.Keeps (ro.lookups ro.E.Units) () fun x _ =>
      ∀ unit, x = .ok unit → ro.E.Serves unit program.id revision := by
  refine Attempt.keeps_bind.2 (Attempt.keeps_look fun cache hcache => ⟨(), ⟨hcache, nofun⟩, ?_⟩)
  cases hget : UnitCache.get? program.id revision cache with
  | some unit =>
    rintro _ ⟨⟩
    exact Findings.of_get? hcache hget
  | none =>
    simp only
    refine Attempt.keeps_bind.2 (Attempt.keeps_of.2 ?_)
    rintro cache' b hcache' ⟨r, r', -, hcompile, -⟩
    refine ⟨(), ⟨hcache', ?_⟩, ?_⟩
    · rintro _ _ ⟨⟩
      trivial
    · cases b with
      | error e => nofun
      | ok unit =>
        have hserves : ro.E.Serves unit program.id revision :=
          ⟨id, info, program, warnings, he, rfl, hro.of.unit _ _ hcompile⟩
        intro cache'' hcache''
        refine ⟨(), ⟨Findings.units_put hcache'' hserves, nofun⟩, ?_⟩
        rintro _ ⟨⟩
        exact hserves

theorem keeps_extraction (hro : ro.Regular) (driver : DriverRecord) :
    driver.extraction.run.Keeps (ro.lookups ro.E.In) () fun x _ =>
      ∀ e, x = .ok e → ro.E.source driver.id driver.source e := by
  refine Attempt.keeps_bind.2 (Attempt.keeps_look fun catalog hcatalog =>
    ⟨(), ⟨hcatalog, nofun⟩, ?_⟩)
  cases hknown : catalog.known? driver with
  | some e =>
    rintro _ ⟨⟩
    exact Findings.of_known? hcatalog hknown
  | none =>
    simp only
    refine Attempt.keeps_bind.2 (Attempt.keeps_of.2 ?_)
    rintro catalog' b hcatalog' ⟨r, r', -, hanalysis, -⟩
    refine ⟨(), ⟨hcatalog', ?_⟩, ?_⟩
    · rintro _ _ ⟨⟩
      trivial
    · cases b with
      | error e => nofun
      | ok analysis =>
        have he := hro.of.source driver.id driver.source analysis hanalysis
        have hremember : (do Attempt.change (Catalog.remember driver analysis.extraction)
                             return analysis.extraction : Lookup Extraction).run.Keeps
            (ro.lookups ro.E.In) () fun x _ =>
              ∀ e, x = .ok e → ro.E.source driver.id driver.source e := by
          intro catalog'' hcatalog''
          refine ⟨(), ⟨Findings.in_remember driver _ hcatalog'' he, nofun⟩, ?_⟩
          rintro _ ⟨⟩
          exact he
        simp only [Flow.Keeps, Except.mapError]
        split
        · intro catalog'' _ hcatalog'' _
          refine ⟨(), ⟨hcatalog'', ?_⟩, hremember⟩
          rintro _ _ ⟨⟩
          trivial
        · exact hremember

theorem keeps_prepare (hro : ro.Regular) (driver : DriverRecord) :
    driver.prepare.run.Keeps (ro.lookups ro.E.In) () fun x _ =>
      ∀ prepared, x = .ok prepared → prepared.Of ro.E driver := by
  refine Attempt.keeps_bind.2 ((keeps_extraction hro driver).mono ?_)
  rintro (e | e) _ he
  · nofun
  have hfound := he e rfl
  cases e with
  | invalid diagnostics => nofun
  | valid info program warnings =>
    refine Attempt.keeps_bind.2 (Flow.keeps_bind.2 ?_)
    refine ((keeps_getOrCompile hro hfound).embed (fun _ _ => True) trivial ?_ ?_ ?_ ?_).mono ?_
    · exact fun _ _ catalog _ hcatalog => hcatalog.units
    · exact fun _ _ h => h
    · rintro _ _ catalog update _ - hcatalog ⟨hunits, -⟩
      exact ⟨(), trivial, { hcatalog with units := hunits }, nofun⟩
    · rintro _ _ catalog q b _ - hcatalog ⟨-, hreads⟩
      refine ⟨(), trivial, hcatalog, ?_⟩
      rintro _ _ ⟨⟩
      exact hreads q b rfl
    · rintro (e | unit) _ ⟨-, -, hserves⟩
      · nofun
      · rintro _ ⟨⟩
        exact ⟨⟨warnings, hfound⟩, hserves unit rfl⟩

end Rollout

namespace Work

variable {ro : Rollout} {α : Type}

theorem consults_inHub {lookup : Lookup α} {P : α → Prop}
    (h : lookup.run.Keeps (ro.lookups ro.E.In) () fun x _ => ∀ a, x = .ok a → P a) :
    lookup.inHub.Consults ro P := by
  intro g
  refine (h.embed (fun _ g' => g' = g) rfl ?_ ?_ ?_ ?_).mono ?_
  · exact fun _ _ s _ hs => hs.catalog
  · exact fun _ _ h => h
  · rintro _ _ s update _ rfl - ⟨hcatalog, -⟩
    exact ⟨_, rfl, .of_quiet (fun _ => rfl) hcatalog⟩
  · rintro _ g s q b _ rfl hs ⟨-, hreads⟩
    exact ⟨_, rfl, .of_asked hs (.aside (Rollout.aside_of_reads q (hreads q b rfl) b))⟩
  · rintro x _ ⟨-, rfl, ha⟩
    exact ⟨rfl, ha⟩

end Work

end DriverHub
