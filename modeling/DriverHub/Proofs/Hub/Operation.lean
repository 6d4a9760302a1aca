import DriverHub.Hub.Actions
import DriverHub.Proofs.Hub.NewCode

/-! Runs of the hub: operations one after another, in any order and with any arguments, on a hub
that starts with nothing. In every state that is reached, singletons and records agree. -/

namespace DriverHub

variable {host : Host} {E : Findings} {l l' : LiveState} {r r' : Records}

namespace Target

theorem effect_invokeChecked {β : Type} (hE : E.Of host) (hl : E.In l.catalog) {t : Target}
    {prepared : PreparedDriver} (hready : t.Ready E r prepared) (call : Call) (token : TokenId)
    (check : Value → Except Diagnostic β) :
    (t.invokeChecked prepared call token check).Ensures host.Answers l r fun _ l' r' =>
      Effect E l.singletons r l' r' := by
  refine (ensures_invokeChecked hl t prepared call token check).mono ?_
  intro x l' r' hend
  rcases hend with ⟨hstill, -⟩ | ⟨b, before, value, left, v, d, -, -, hrun, -, hleft, rfl, rfl⟩
  · exact hstill.effect
  · exact ⟨hl, .called hready (hE.left _ _ _ _ _ _ hrun) hleft⟩

theorem effect_invoke (hE : E.Of host) (hl : E.In l.catalog) (t : Target) (call : Call)
    (token : TokenId) :
    (t.invoke call token).Ensures host.Answers l r fun _ l' r' => Effect E l.singletons r l' r' := by
  unfold invoke
  refine Effect.bind (finds_prepared hE hl t) fun prepared l₁ hready hl₁ _ => ?_
  exact effect_invokeChecked hE hl₁ hready call token _

end Target

namespace Work

/-- A device is prepared for a capability if it is recorded and its driver is ready and provides the
capability. -/
theorem finds_prepareDevice (hE : E.Of host) (hl : E.In l.catalog) (id : DeviceId)
    (capability : Capability) :
    (prepareDevice id capability).Finds host E l r fun found => found.1.Ready E r found.2 ∧
      capability ∈ found.2.info.deviceCapabilities ∧
      ∃ device, Dict.find? id r.devices = some device ∧ found.1.driver = device.driver := by
  unfold prepareDevice
  refine Finds.bind (finds_device hl id) fun device l₁ hdevice hl₁ => ?_
  refine Finds.bind (Target.finds_prepared hE hl₁ _) fun prepared l₂ hready hl₂ => ?_
  split
  · next hcapable => exact finds_pure hl₂ ⟨hready, hcapable, device, hdevice, rfl⟩
  · exact finds_fail hl₂ _

theorem effect_act (hE : E.Of host) (hl : E.In l.catalog) (id : DeviceId) (request : ActionRequest)
    (token : TokenId) :
    (act id request token).Ensures host.Answers l r fun _ l' r' => Effect E l.singletons r l' r' := by
  unfold act
  refine Effect.bind (finds_prepareDevice hE hl id request.capability) fun found l₁ hfound hl₁ _ => ?_
  obtain ⟨target, prepared⟩ := found
  exact Target.effect_invokeChecked hE hl₁ hfound.1 _ token _

theorem effect_validateDriver (hE : E.Of host) (hl : E.In l.catalog) (id : DriverId)
    (token : TokenId) :
    (validateDriver id token).Ensures host.Answers l r fun _ l' r' =>
      Effect E l.singletons r l' r' := by
  unfold validateDriver
  refine Effect.bind (Target.finds_prepared hE hl ⟨id, none⟩) fun prepared l₁ hready hl₁ _ => ?_
  exact Target.effect_invokeChecked hE hl₁ hready _ token _

theorem finds_scriptUnit (hl : E.In l.catalog) (program : Program) (revision : String) :
    (scriptUnit program revision).Finds host E l r fun _ => True := by
  unfold scriptUnit Finds
  rw [Attempt.ensures_of]
  have he : Findings.anything.source default revision (.valid default program []) := trivial
  have hunits : Findings.anything.Units l.scripts := (Findings.anything_in ⟨[], l.scripts⟩).units
  refine (Flow.ensures_embed LiveState.scripts (fun scripts s => { s with scripts }) (fun _ _ => rfl)
    (fun _ _ _ => rfl) (fun _ => rfl) _ _ _ _).2 ?_
  refine (UnitCache.ensures_getOrCompile (Findings.anything_of host) hunits he).mono ?_
  intro x scripts _ hend
  obtain ⟨rfl, -, -⟩ := hend
  exact ⟨⟨rfl, rfl, hl⟩, fun _ _ => trivial⟩

theorem finds_unitOf (hl : E.In l.catalog) (script : ScriptRecord) :
    (unitOf script).Finds host E l r fun _ => True := by
  unfold unitOf Finds
  rw [Attempt.ensures_bind, Attempt.ensures_look]
  simp only
  split
  · exact finds_pure hl trivial
  · rw [Attempt.ensures_bind, Attempt.ensures_analyze]
    rintro (e | analysis) -
    · exact ⟨.refl hl, nofun⟩
    · cases analysis with
      | rejected diagnostics => exact finds_pure hl trivial
      | analyzed program warnings =>
        refine Finds.bind (finds_scriptUnit hl program script.source) fun unit l₁ _ hl₁ => ?_
        exact finds_pure hl₁ trivial

theorem finds_invokeScript (hl : E.In l.catalog) (id : String) (call : Call) (token : TokenId) :
    (invokeScript id call token).Finds host E l r fun _ => True := by
  unfold invokeScript
  refine Finds.bind (finds_record hl rfl) fun kept l₁ _ hl₁ => ?_
  refine Finds.bind (finds_some hl₁ _ kept) fun script l₂ _ hl₂ => ?_
  refine Finds.bind (finds_unitOf hl₂ script) fun found l₃ _ hl₃ => ?_
  cases found with
  | error diagnostics => exact finds_pure hl₃ trivial
  | ok unit =>
    refine Finds.bind (finds_runUnit hl₃ unit call [] token) fun outcome l₄ _ hl₄ => ?_
    cases outcome with
    | completed value left => exact finds_pure hl₄ trivial
    | failed diagnostics => exact finds_pure hl₄ trivial

/-- An operation without its result. -/
def drop {α : Type} (work : Work α) : Work Unit := do let _ ← work

theorem ensures_drop {α : Type} {work : Work α} {Q : LiveState → Records → Prop}
    (h : work.Ensures host.Answers l r fun _ l' r' => Q l' r') :
    work.drop.Ensures host.Answers l r fun _ l' r' => Q l' r' := by
  unfold drop
  exact Attempt.Ensures.bind h (fun _ _ _ h => h) (fun _ _ _ h => h)

end Work

/-- What can be asked of a hub. -/
inductive Operation where
  | createDriver (driver : DriverRecord)
  | applyCode (id : DriverId) (source : String)
  | deleteDriver (id : DriverId)
  | createDevice (device : DeviceRecord)
  | deleteDevice (id : DeviceId)
  | validateConfig (target : ConfigTarget) (json : Json)
  | applyConfig (target : ConfigTarget) (json : Json)
  | invoke (target : Target) (call : Call) (token : TokenId)
  | act (device : DeviceId) (request : ActionRequest) (token : TokenId)
  | validateDriver (id : DriverId) (token : TokenId)
  | invokeScript (id : String) (call : Call) (token : TokenId)

namespace Operation

def work : Operation → Work Unit
  | createDriver driver => (Work.createDriver driver).drop
  | applyCode id source => (Work.applyCode id source).drop
  | deleteDriver id => Work.deleteDriver id
  | createDevice device => Work.createDevice device
  | deleteDevice id => Work.deleteDevice id
  | validateConfig target json => Work.validateConfig target json
  | applyConfig target json => Work.applyConfig target json
  | invoke target call token => (target.invoke call token).drop
  | act device request token => (Work.performAction device request token).drop
  | validateDriver id token => (Work.validateDriver id token).drop
  | invokeScript id call token => (Work.invokeScript id call token).drop

/-- Where records and singletons agree, every operation makes one change. -/
theorem effect_work (hf : host.Faultless) (hE : E.Of host) (hl : E.In l.catalog) (hk : r.Keyed)
    (ha : Agree l.singletons r) (op : Operation) :
    op.work.Ensures host.Answers l r fun _ l' r' => Effect E l.singletons r l' r' := by
  cases op with
  | createDriver driver => exact Work.ensures_drop (Work.effect_createDriver hf hE hl driver)
  | applyCode id source => exact Work.ensures_drop (Work.effect_applyCode hf hE hl hk ha id source)
  | deleteDriver id => exact Work.effect_deleteDriver hf hl id
  | createDevice device => exact Work.effect_createDevice hf hE hl device
  | deleteDevice id => exact Work.effect_deleteDevice hf hl id
  | validateConfig target json => exact Work.effect_validateConfig hE hl target json
  | applyConfig target json => exact Work.effect_applyConfig hf hE hl hk target json
  | invoke target call token => exact Work.ensures_drop (target.effect_invoke hE hl call token)
  | act device request token =>
    refine Work.ensures_drop ?_
    unfold Work.performAction
    exact Attempt.Ensures.bind (Work.effect_act hE hl device request token) (fun _ _ _ h => h)
      (fun _ _ _ h => h)
  | validateDriver id token => exact Work.ensures_drop (Work.effect_validateDriver hE hl id token)
  | invokeScript id call token =>
    exact Work.ensures_drop (Work.finds_invokeScript hl id call token).effect

end Operation

theorem Records.Keyed.of_answers {q : Service} {x : q.Answer} (h : host.Answers r q x r')
    (hk : r.Keyed) : r'.Keyed := by
  cases q with
  | record op =>
    rcases h with ⟨-, rfl⟩ | ⟨e, -, -, rfl⟩
    · exact hk.apply op
    · exact hk
  | analyze | compile | run => exact h.2 ▸ hk
  | newToken | startDeadline | stopDeadline | log => exact h ▸ hk

theorem Records.Keyed.of_ends {σ α : Type} {flow : Flow services σ α} {s s' : σ} {a : α}
    (h : Flow.Ends host.Answers flow s r a s' r') (hk : r.Keyed) : r'.Keyed := by
  induction h with
  | done => exact hk
  | access _ ih => exact ih hk
  | ask answered _ ih => exact ih (hk.of_answers answered)

/-- The states that a hub comes to, by operations one after another. Each may meet other
surroundings, as long as these are `allowed`. -/
inductive Reached (initial : LiveState → Prop) (allowed : Host → Prop) : LiveState → Records → Prop
  | start {l : LiveState} (empty : initial l) : Reached initial allowed l {}
  | perform {host : Host} {op : Operation} {l l' : LiveState} {r r' : Records}
      {x : Except HubError Unit} (before : Reached initial allowed l r) (host_allowed : allowed host)
      (ends : Flow.Ends host.Answers op.work.run l r x l' r') :
    Reached initial allowed l' r'

namespace Reached

variable {initial : LiveState → Prop} {allowed : Host → Prop}

/-- What holds at first and is kept by every change holds in every state that is reached. -/
theorem keeps {P : Singletons → Records → Prop} (hinitial : ∀ l, initial l → l.singletons = {})
    (hcatalog : ∀ l, initial l → E.In l.catalog) (hfaultless : ∀ host, allowed host → host.Faultless)
    (hE : ∀ host, allowed host → E.Of host) (empty : P {} {})
    (step : ∀ s r s' r', Agree s r → r.Keyed → P s r → Change E s r s' r' → P s' r')
    (h : Reached initial allowed l r) :
    E.In l.catalog ∧ r.Keyed ∧ Agree l.singletons r ∧ P l.singletons r := by
  induction h with
  | @start l hl =>
    rw [hinitial l hl]
    exact ⟨hcatalog l hl, Records.keyed_empty, .empty, empty⟩
  | @perform host op l l' r r' x _ hhost ends ih =>
    obtain ⟨hl, hk, ha, hP⟩ := ih
    have heffect := (op.effect_work (hfaultless host hhost) (hE host hhost) hl hk ha).ends ends
    exact ⟨heffect.catalog, hk.of_ends ends, ha.change heffect.change,
      step _ _ _ _ ha hk hP heffect.change⟩

/-- Where operations on records succeed, a hub that starts with no singletons and no records always
has the singletons that its records hold, and no others. -/
theorem singletons_agree (h : Reached (fun l => l.singletons = {}) Host.Faultless l r) :
    Agree l.singletons r := by
  have hinvariant := keeps (E := .anything) (P := fun _ _ => True) (fun _ hl => hl)
    (fun l _ => Findings.anything_in l.catalog) (fun _ hhost => hhost)
    (fun host _ => Findings.anything_of host) trivial (fun _ _ _ _ _ _ _ _ => trivial) h
  exact hinvariant.2.2.1

end Reached

namespace Engine

/-- The hub and its records after some operations. -/
def after (engine : Engine) : List Operation → LiveState × Records → LiveState × Records
  | [], hub => hub
  | op :: rest, hub => engine.after rest (engine.outcome op.work hub.1 hub.2).2

theorem reached_after {initial : LiveState → Prop} {allowed : Host → Prop} {engine : Engine}
    (hhost : allowed engine.host) (ops : List Operation) {hub : LiveState × Records}
    (h : Reached initial allowed hub.1 hub.2) :
    Reached initial allowed (engine.after ops hub).1 (engine.after ops hub).2 := by
  induction ops generalizing hub with
  | nil => exact h
  | cons op rest ih => exact ih (.perform h hhost (engine.ends_outcome op.work hub.1 hub.2))

theorem kept_after {engine : Engine} (hE : E.Of engine.host) (ops : List Operation) :
    E.In (engine.after ops ({}, {})).1.catalog ∧ (engine.after ops ({}, {})).2.Keyed ∧
      Agree (engine.after ops ({}, {})).1.singletons (engine.after ops ({}, {})).2 := by
  let allowed (host : Host) : Prop := host = engine.host
  have hallowed : allowed engine.host := rfl
  have hreached : Reached (fun l => l = {}) allowed (engine.after ops ({}, {})).1
      (engine.after ops ({}, {})).2 := reached_after hallowed ops (.start rfl)
  have hkept := Reached.keeps (E := E) (P := fun _ _ => True) (by rintro _ rfl; rfl)
    (by rintro _ rfl; exact Findings.in_empty) (by rintro _ rfl; exact engine.host_faultless)
    (by rintro _ rfl; exact hE) trivial (fun _ _ _ _ _ _ _ _ => trivial) hreached
  exact ⟨hkept.1, hkept.2.1, hkept.2.2.1⟩

/-- A switch comes to the attic and one to the hall, and that in the hall is pressed once. -/
def switchOperations : List Operation :=
  [.createDriver switchDriver, .createDevice (switchIn "attic"), .createDevice (switchIn "hall"),
    .invoke ⟨switchDriver.id, some "hall"⟩ press 0]

/-- A hub with these switches, and its records. -/
def switchHub : LiveState × Records := switches.after switchOperations ({}, {})

end Engine

/-- A lamp is added, dimmed and given its first code again. -/
theorem Reached.lamp_singletons_agree :
    let hub := Engine.lamp.after [.createDriver Engine.lampDriver, .createDevice Engine.deskLamp,
      .invoke ⟨Engine.lampDriver.id, some "desk"⟩ (Engine.dim 1 ⟨7⟩) 0,
      .applyCode Engine.lampDriver.id "dark"] ({}, {})
    Dict.find? "desk" hub.1.singletons.devices = some (.object [("level", .float ⟨7⟩)]) ∧
      Agree hub.1.singletons hub.2 := by
  refine ⟨rfl, ?_⟩
  exact singletons_agree (Engine.reached_after Engine.lamp.host_faultless _ (.start rfl))

end DriverHub
