import DriverHub.Hub.Overview
import DriverHub.Proofs.Driver.Conformance
import DriverHub.Proofs.Flow.Questions
import DriverHub.Proofs.Hub.Calls

/-! Capabilities as gates. A request of a device reaches the engine only if the device's driver has
promised to serve it, and its script then defines the function that is called. An overview asks a
device for nothing that its driver has not promised. -/

namespace DriverHub

variable {α β : Type} {host : Host} {l l' : LiveState} {r r' : Records}

theorem filterMap_ran?_of_idle {asked : List Service} (h : ∀ q ∈ asked, q.Idle) :
    asked.filterMap Service.ran? = [] :=
  List.filterMap_eq_nil_iff.2 h

/-- A device is recorded, and so is its driver, whose source is valid. The driver provides the capability
that a request needs, and its script defines the function that serves the request. The unit is one that
serves this script. -/
inductive ActionRequest.Granted (host : Host) (r : Records) (id : DeviceId) (request : ActionRequest)
    (unit : CompiledUnit) : Prop
  | intro {device driver info program warnings}
      (recorded : Dict.find? id r.devices = some device)
      (driven : Dict.find? device.driver r.drivers = some driver)
      (valid : host.findings.source driver.id driver.source (.valid info program warnings))
      (provided : request.capability ∈ info.deviceCapabilities)
      (defined : program.Defines .device request.call.function)
      (serves : host.findings.Serves unit program.id driver.source)

/-! ### Runs -/

namespace Work

variable {asked : List Service}

theorem ensures_ran_of_idle {work : Work α} (h : work.Asks Service.Idle) :
    work.Ensures (Flow.Listing host.Answers) l (r, asked) fun _ _ w' =>
      w'.2.filterMap Service.ran? = asked.filterMap Service.ran? := by
  refine (Flow.ensures_iff _ _ _ _).2 ?_
  rintro x l' ⟨r', asked'⟩ hends
  obtain ⟨own, rfl, hown⟩ := Flow.Asks.listed h hends
  rw [List.filterMap_append, filterMap_ran?_of_idle hown, List.append_nil]

theorem ensures_ran_runUnit (unit : CompiledUnit) (call : Call) (injected : Dict String Value)
    (token : TokenId) :
    (runUnit unit call injected token).Ensures (Flow.Listing host.Answers) l (r, asked) fun _ _ w' =>
      w'.2.filterMap Service.ran? = asked.filterMap Service.ran? ++ [(unit, call)] := by
  rintro deadline ⟨_, _⟩ ⟨-, rfl⟩ x ⟨_, _⟩ ⟨-, rfl⟩ _ ⟨_, _⟩ ⟨-, rfl⟩
  have hran : (asked ++ [Service.startDeadline token l.timeout] ++
      [Service.run unit call injected token] ++ [Service.stopDeadline deadline]).filterMap
        Service.ran? = asked.filterMap Service.ran? ++ [(unit, call)] := by
    simp [List.filterMap_cons, Service.ran?]
  cases x with
  | error e => exact hran
  | ok outcome => exact hran

end Work

namespace Target

variable {asked : List Service}

/-- A call of a driver runs its unit once, unless the singletons of the target are missing. -/
theorem ensures_ran_invokeChecked (t : Target) (prepared : PreparedDriver) (call : Call)
    (token : TokenId) (check : Value → Except Diagnostic β) :
    (t.invokeChecked prepared call token check).Ensures (Flow.Listing host.Answers) l (r, asked)
      fun _ l' w' => (l' = l ∧ w' = (r, asked)) ∨
        w'.2.filterMap Service.ran? = asked.filterMap Service.ran? ++ [(prepared.unit, call)] := by
  unfold invokeChecked
  rw [Attempt.ensures_bind, Attempt.ensures_of_look]
  rcases l.singletons.load t with e | ⟨driver, device⟩
  · exact .inl ⟨rfl, rfl⟩
  refine Attempt.Ensures.bind (Work.ensures_ran_runUnit _ _ _ _) ?_ fun _ _ _ h => .inr h
  rintro outcome l₁ ⟨r₁, asked₁⟩ hran
  -- nothing that follows the run is another one
  suffices hidle : ∀ rest : Work (Outcome β), rest.Asks Service.Idle →
      rest.Ensures (Flow.Listing host.Answers) l₁ (r₁, asked₁) fun _ l' w' => (l' = l ∧ w' = (r, asked)) ∨
        w'.2.filterMap Service.ran? = asked.filterMap Service.ran? ++ [(prepared.unit, call)] by
    refine hidle _ ?_
    cases outcome with
    | failed diagnostics => exact ⟨rfl, fun _ => trivial⟩
    | completed value left =>
      simp only
      split
      · exact ⟨rfl, fun _ => trivial⟩
      · refine Attempt.Asks.bind trivial ?_
        rintro ⟨v, d⟩
        refine Attempt.Asks.bind ⟨rfl, fun _ => trivial⟩ fun _ => ?_
        exact Attempt.Asks.bind (fun _ => trivial) fun _ => trivial
  intro rest hrest
  refine (Work.ensures_ran_of_idle hrest).mono fun _ _ _ h => ?_
  exact .inr (h.trans hran)

end Target

/-! ### Requests -/

namespace Work

theorem granted_of_ready {id : DeviceId} {request : ActionRequest} {t : Target}
    {prepared : PreparedDriver} {device : DeviceRecord} (hready : t.Ready host.findings r prepared)
    (hcapable : request.capability ∈ prepared.info.deviceCapabilities)
    (hdevice : Dict.find? id r.devices = some device) (ht : t.driver = device.driver) :
    request.Granted host r id prepared.unit := by
  obtain ⟨driver, hdriver, hprepared⟩ := hready.driver
  obtain ⟨warnings, hvalid⟩ := hprepared.source
  rw [ht] at hdriver
  exact .intro hdevice hdriver hvalid hcapable
    (Program.defines_of_extract hprepared.extract hcapable request.call_required) hprepared.unit

theorem ran_act (hl : host.findings.In l.catalog) {id : DeviceId} {request : ActionRequest}
    {token : TokenId} {x : Except HubError (Outcome ActionOutput)} {asked : List Service}
    (h : Flow.Ends (Flow.Listing host.Answers) (act id request token).run l (r, []) x l' (r', asked)) :
    (∃ unit, asked.filterMap Service.ran? = [(unit, request.call)] ∧
        request.Granted host r id unit) ∨
      (∀ q ∈ asked, q.LooksUp) ∧ l'.singletons = l.singletons ∧ r' = r := by
  obtain ⟨found, l₁, ⟨r₁, asked₁⟩, hfirst, hrest⟩ := Flow.Ends.of_bind h
  obtain ⟨_, rfl, hlooks⟩ := (asks_prepareDevice id request.capability).listed hfirst
  obtain ⟨hstill, hfound⟩ := (finds_prepareDevice host.findings_of hl id request.capability).ends
    hfirst.of_listing
  rcases found with e | ⟨t, prepared⟩
  · cases hrest
    exact .inr ⟨hlooks, hstill.singletons, hstill.records⟩
  · obtain ⟨hready, hcapable, device, hdevice, ht⟩ := hfound _ rfl
    have hran := (t.ensures_ran_invokeChecked prepared request.call token _).ends hrest
    rcases hran with ⟨rfl, hsame⟩ | hran
    · cases hsame
      exact .inr ⟨hlooks, hstill.singletons, hstill.records⟩
    · refine .inl ⟨prepared.unit, ?_, granted_of_ready hready hcapable hdevice ht⟩
      rw [hran, filterMap_ran?_of_idle fun q hq => (hlooks q hq).idle, List.nil_append]

end Work

/-! ### Overviews -/

/-- An operation that is not refused for want of a capability. What it comes to, and the hub and the
records then, are as `Q` says. -/
def Work.Supported (host : Host) (l : LiveState) (r : Records) (work : Work α)
    (Q : α → LiveState → Records → Prop) : Prop :=
  work.Ensures host.Answers l r fun x l' r' =>
    match x with
    | .ok a => Q a l' r'
    | .error e => ∀ id capability, e ≠ .unsupported id capability

namespace Work

variable {P : α → LiveState → Records → Prop} {Q : β → LiveState → Records → Prop}

theorem Supported.bind {first : Work α} {k : α → Work β} (h : first.Supported host l r P)
    (hk : ∀ a l' r', P a l' r' → (k a).Supported host l' r' Q) :
    (first >>= k).Supported host l r Q :=
  Attempt.Ensures.bind h hk fun _ _ _ he => he

theorem supported_some {e : HubError} (he : ∀ id capability, e ≠ .unsupported id capability)
    (a : Option α) : Supported host l r (Attempt.some e a) fun b l' r' =>
      l' = l ∧ r' = r ∧ a = some b := by
  cases a with
  | none => exact he
  | some a => exact ⟨rfl, rfl, rfl⟩

theorem supported_record (op : RecordOp) : (record op).Supported host l r fun a l' r' =>
    l' = l ∧ r' = op.apply r ∧ a = op.result r := by
  unfold Supported
  rw [ensures_record]
  refine ⟨⟨rfl, rfl, rfl⟩, fun e _ id capability h => ?_⟩
  cases h

theorem supported_driverRecord (id : DriverId) :
    (driverRecord id).Supported host l r fun driver l' r' =>
      l' = l ∧ r' = r ∧ Dict.find? id r.drivers = some driver := by
  refine (supported_record _).bind ?_
  rintro found _ _ ⟨rfl, rfl, rfl⟩
  refine supported_some (fun _ _ h => ?_) _
  cases h

theorem supported_deviceRecord (id : DeviceId) :
    (deviceRecord id).Supported host l r fun device l' r' =>
      l' = l ∧ r' = r ∧ Dict.find? id r.devices = some device := by
  refine (supported_record _).bind ?_
  rintro found _ _ ⟨rfl, rfl, rfl⟩
  refine supported_some (fun _ _ h => ?_) _
  cases h

theorem supported_deviceValue (id : DeviceId) :
    (deviceValue id).Supported host l r fun _ l' r' => l' = l ∧ r' = r := by
  unfold Supported deviceValue
  rw [Attempt.ensures_of_look]
  cases l.singletons.device id with
  | error e =>
    intro _ _ h
    cases h
  | ok v => exact ⟨rfl, rfl⟩

theorem supported_runUnit (unit : CompiledUnit) (call : Call) (injected : Dict String Value)
    (token : TokenId) :
    (runUnit unit call injected token).Supported host l r fun _ l' r' => l' = l ∧ r' = r := by
  rintro deadline _ rfl x _ ⟨-, rfl⟩ _ _ rfl
  cases x with
  | error e =>
    intro _ _ h
    cases h
  | ok outcome => exact ⟨rfl, rfl⟩

end Work

/-! The catalog keeps what it has found out about a source for as long as nothing else is looked up. -/

namespace DriverRecord

variable {driver : DriverRecord} {info : DriverInfo} {program : Program} {warnings : List Diagnostic}

/-- What a lookup has found is known from then on. -/
theorem supported_extraction (driver : DriverRecord) :
    driver.extraction.inHub.Supported host l r fun e l' r' =>
      r' = r ∧ l'.catalog.known? driver = some e := by
  unfold Work.Supported
  rw [Lookup.ensures_inHub]
  unfold extraction
  rw [Attempt.ensures_bind, Attempt.ensures_look]
  cases hk : l.catalog.known? driver with
  | some e => exact ⟨rfl, hk⟩
  | none =>
    simp only
    rw [Attempt.ensures_bind, Attempt.ensures_analyze]
    rintro (e | analysis) -
    · intro _ _ h
      cases h
    · have hknown : (l.catalog.remember driver analysis.extraction).known? driver =
          some analysis.extraction := by
        unfold Catalog.known? Catalog.remember
        rw [Dict.find?_insert, if_pos rfl]
        exact if_pos rfl
      simp only [Except.mapError]
      split
      · rw [Attempt.ensures_bind, Attempt.ensures_report]
        exact ⟨rfl, hknown⟩
      · exact ⟨rfl, hknown⟩

theorem supported_prepare (hk : l.catalog.known? driver = some (.valid info program warnings)) :
    driver.prepare.inHub.Supported host l r fun prepared l' r' =>
      r' = r ∧ l'.catalog.extractions = l.catalog.extractions ∧ prepared.info = info := by
  have hsource : Findings.anything.source driver.id driver.source (.valid info program warnings) :=
    trivial
  have hunits : Findings.anything.Units l.catalog.units := (Findings.anything_in l.catalog).units
  unfold Work.Supported
  rw [Lookup.ensures_inHub]
  unfold prepare extraction
  rw [Attempt.ensures_bind, Attempt.ensures_bind, Attempt.ensures_look, hk]
  simp only [Attempt.ensures_pure]
  rw [Attempt.ensures_bind, Attempt.ensures_of]
  refine (Flow.ensures_embed Catalog.units (fun units c => { c with units }) (fun _ _ => rfl)
    (fun _ _ _ => rfl) (fun _ => rfl) _ _ _ _).2 ?_
  refine (UnitCache.ensures_getOrCompile (Findings.anything_of host) hunits hsource).mono ?_
  rintro (e | unit) units _ ⟨rfl, -, -⟩
  · intro _ _ h
    cases h
  · exact ⟨rfl, rfl, rfl⟩

end DriverRecord

/-- The driver of a device is known to be valid, with these schemas and capabilities. -/
inductive LiveState.Knows (l : LiveState) (r : Records) (id : DeviceId) (info : DriverInfo) : Prop
  | intro {device driver program warnings} (recorded : Dict.find? id r.devices = some device)
      (driven : Dict.find? device.driver r.drivers = some driver)
      (known : l.catalog.known? driver = some (.valid info program warnings))

namespace LiveState.Knows

variable {id : DeviceId} {info : DriverInfo}

theorem of_extractions (h : l.Knows r id info)
    (hsame : l'.catalog.extractions = l.catalog.extractions) : l'.Knows r id info := by
  obtain ⟨recorded, driven, known⟩ := h
  have hknown : ∀ driver, l'.catalog.known? driver = l.catalog.known? driver := by
    intro driver
    unfold Catalog.known?
    rw [hsame]
  exact .intro recorded driven ((hknown _).trans known)

theorem putSingletons (h : l.Knows r id info) (key : DriverId) (json : Json)
    (other : Option (DeviceId × Json)) : l.Knows (r.putSingletons key json other) id info := by
  obtain @⟨device, driver, program, warnings, recorded, driven, known⟩ := h
  obtain ⟨v, hdevice⟩ : ∃ v, Dict.find? id (r.putSingletons key json other).devices =
      some { device with singleton := v } := by
    cases other with
    | none => exact ⟨device.singleton, recorded⟩
    | some other =>
      rw [Records.find?_devices_putSingletons, recorded]
      split <;> exact ⟨_, rfl⟩
  obtain ⟨w, hdriver⟩ : ∃ w, Dict.find? device.driver (r.putSingletons key json other).drivers =
      some { driver with singleton := w } := by
    rw [Records.find?_drivers_putSingletons, driven]
    split <;> exact ⟨_, rfl⟩
  exact .intro hdevice hdriver known

end LiveState.Knows

namespace Work

variable {id : DeviceId} {info : DriverInfo} {token : TokenId}

theorem supported_prepareDevice (h : l.Knows r id info) {capability : Capability}
    (hcapable : capability ∈ info.deviceCapabilities) :
    (prepareDevice id capability).Supported host l r fun _ l' r' => l'.Knows r' id info := by
  obtain @⟨device, driver, program, warnings, recorded, driven, known⟩ := h
  unfold prepareDevice Target.prepare
  refine (supported_deviceRecord id).bind ?_
  rintro device' _ _ ⟨rfl, rfl, hdevice⟩
  obtain rfl := Option.some.inj (recorded.symm.trans hdevice)
  refine Supported.bind (P := fun prepared l' r' => prepared.info = info ∧ l'.Knows r' id info) ?_ ?_
  · refine (supported_driverRecord device.driver).bind ?_
    rintro driver' _ _ ⟨rfl, rfl, hdriver⟩
    obtain rfl := Option.some.inj (driven.symm.trans hdriver)
    refine (supported_deviceRecord id).bind ?_
    rintro device' _ _ ⟨rfl, rfl, hdevice⟩
    obtain rfl := Option.some.inj (recorded.symm.trans hdevice)
    simp only [if_true]
    refine Attempt.Ensures.mono (DriverRecord.supported_prepare known) ?_
    rintro (e | prepared) l' r' hend
    · exact hend
    · obtain ⟨rfl, hsame, hinfo⟩ := hend
      exact ⟨hinfo, .of_extractions (.intro recorded driven known) hsame⟩
  · rintro prepared l' r' ⟨hinfo, hknows⟩
    rw [if_pos (hinfo ▸ hcapable)]
    exact hknows

theorem supported_invokeChecked (h : l.Knows r id info) (t : Target) (prepared : PreparedDriver)
    (call : Call) (check : Value → Except Diagnostic β) :
    (t.invokeChecked prepared call token check).Supported host l r fun _ l' r' =>
      l'.Knows r' id info := by
  unfold Target.invokeChecked Supported
  rw [Attempt.ensures_bind, Attempt.ensures_of_look]
  rcases l.singletons.load t with e | ⟨driver, device⟩
  · intro _ _ heq
    cases heq
  refine Supported.bind (supported_runUnit _ _ _ _) ?_
  rintro outcome _ _ ⟨rfl, rfl⟩
  cases outcome with
  | failed diagnostics =>
    unfold Supported
    simp only
    rw [Attempt.ensures_bind, Attempt.ensures_report]
    exact h
  | completed value left =>
    unfold Supported
    simp only
    split
    · rw [Attempt.ensures_bind, Attempt.ensures_report]
      exact h
    · rw [Attempt.ensures_bind, Attempt.ensures_of_done]
      rcases t.leftBy prepared.unit.program left with e | ⟨v, d⟩
      · intro _ _ heq
        cases heq
      refine Supported.bind (supported_record _) ?_
      rintro _ _ _ ⟨rfl, rfl, rfl⟩
      exact (h.putSingletons _ _ _).of_extractions rfl

theorem supported_act (h : l.Knows r id info) {request : ActionRequest}
    (hcapable : request.capability ∈ info.deviceCapabilities) :
    (act id request token).Supported host l r fun _ l' r' => l'.Knows r' id info := by
  unfold act
  refine (supported_prepareDevice h hcapable).bind ?_
  rintro ⟨t, prepared⟩ l' r' hknows
  exact supported_invokeChecked hknows t prepared request.call _

theorem supported_collectReports (requests : List ActionRequest)
    (hcapable : ∀ request ∈ requests, request.capability ∈ info.deviceCapabilities)
    (h : l.Knows r id info) (o : DeviceOverview) :
    (collectReports id token o requests).Supported host l r fun _ _ _ => True := by
  induction requests generalizing l r o with
  | nil => trivial
  | cons request rest ih =>
    refine (supported_act h (hcapable request List.mem_cons_self)).bind ?_
    intro outcome l' r' hknows
    exact ih (fun q hq => hcapable q (List.mem_cons_of_mem _ hq)) hknows _

end Work

theorem Capability.capability_of_reports {capability : Capability} {request : ActionRequest}
    (h : request ∈ capability.reports) : request.capability = capability := by
  cases capability <;> simp only [reports, List.mem_cons, List.not_mem_nil, or_false] at h
  case power => rcases h with rfl | rfl <;> rfl
  all_goals
    subst h
    rfl

theorem Work.supported_deviceOverview (id : DeviceId) (token : TokenId) :
    (deviceOverview id token).Supported host l r fun _ _ _ => True := by
  unfold deviceOverview
  refine (supported_deviceRecord id).bind ?_
  rintro device _ _ ⟨rfl, rfl, recorded⟩
  refine (supported_deviceValue id).bind ?_
  rintro v _ _ ⟨rfl, rfl⟩
  refine (supported_driverRecord device.driver).bind ?_
  rintro driver _ _ ⟨rfl, rfl, driven⟩
  refine (DriverRecord.supported_extraction driver).bind ?_
  rintro (⟨info, program, warnings⟩ | diagnostics) l' r' ⟨rfl, known⟩
  · refine supported_collectReports _ ?_ (.intro recorded driven known) _
    intro request hrequest
    obtain ⟨capability, hcapability, hreports⟩ := List.mem_flatMap.1 hrequest
    rw [Capability.capability_of_reports hreports]
    exact hcapability
  · trivial

namespace Work

/-- A request that is performed hands the engine one call at most. If it does, this is the call of the
request, and what it needs is granted: the device and its driver are recorded, the source of the driver
is valid, the driver provides the capability of the request, and the first implementation of `Device`
by the singleton `@Device` of the script defines the function. If it does not, nothing is written. And
an overview that runs alone is never refused for want of a capability. -/
theorem performAction_granted (host : Host) (hl : host.findings.In l.catalog) (id : DeviceId)
    (request : ActionRequest) (token : TokenId) {x : Except HubError ActionResponse}
    {asked : List Service}
    (h : Flow.Ends (Flow.Listing host.Answers) (performAction id request token).run l (r, []) x l'
      (r', asked)) :
    ((∃ unit, asked.filterMap Service.ran? = [(unit, request.call)] ∧
        request.Granted host r id unit) ∨
      asked.filterMap Service.ran? = [] ∧ (∀ q ∈ asked, q.Reads) ∧ l'.singletons = l.singletons ∧
        r' = r) ∧
    ∀ {l l' : LiveState} {r r' : Records} {x : Except HubError DeviceOverview},
      Flow.Ends host.Answers (deviceOverview id token).run l r x l' r' →
      ∀ device capability, x ≠ .error (.unsupported device capability) := by
  constructor
  · obtain ⟨outcome, l₁, ⟨r₁, asked₁⟩, hact, hrest⟩ := Flow.Ends.of_bind h
    have hsame : l' = l₁ ∧ r' = r₁ ∧ asked = asked₁ := by
      rcases outcome with e | outcome <;> cases hrest <;> exact ⟨rfl, rfl, rfl⟩
    obtain ⟨rfl, rfl, rfl⟩ := hsame
    rcases ran_act hl hact with hran | ⟨hlooks, hsingletons, hrecords⟩
    · exact .inl hran
    · refine .inr ⟨?_, ?_, hsingletons, hrecords⟩
      · exact filterMap_ran?_of_idle fun q hq => (hlooks q hq).idle
      · exact fun q hq => (hlooks q hq).reads
  · rintro l l' r r' x hends device capability rfl
    exact (Flow.ensures_iff _ _ _ _).1 (supported_deviceOverview id token) _ _ _ hends device
      capability rfl

end Work

namespace Engine

/-- The answers of an engine, with a list of what it was asked. -/
def listed (engine : Engine) (w : Records × List Service) (q : Service) :
    q.Answer × Records × List Service :=
  ((engine.answer w.1 q).1, (engine.answer w.1 q).2, w.2 ++ [q])

theorem listing_listed (engine : Engine) (w : Records × List Service) (q : Service) :
    Flow.Listing (I := services) engine.host.Answers w q (engine.listed w q).1 (engine.listed w q).2 :=
  ⟨engine.answers_answer w.1 q, rfl⟩

/-- A driver whose devices can be switched. -/
def plugProgram (id : String) : Program where
  id := id
  singletons :=
    [{ ident := "@Driver", type := .object [],
       implementations := [⟨"Driver", [], [⟨"validate_driver", {}⟩], {}⟩] },
     { ident := "@Device", type := .object [("on", .bool)],
       implementations := [⟨"Device", ["power"],
         [⟨"validate_device", {}⟩, ⟨"set_power", {}⟩, ⟨"report_power", {}⟩, ⟨"report_power_draw", {}⟩],
         {}⟩] }]

/-- An engine that knows the source `plug` alone. A plug that is switched stays so, and all other calls
fail. -/
def plugs : Engine where
  analyze program source :=
    .ok (if source = "plug" then .analyzed (plugProgram program) [] else .rejected [])
  compile program := .ok ⟨program.id, "plug"⟩
  run _ call _ :=
    match call.args with
    | [.bool on] =>
      .ok (.completed (.bool true) [("@Device", .object [("on", .bool on)]), ("@Driver", .object [])])
    | _ => .ok (.failed [])

def plugDriver : DriverRecord where
  id := ⟨"acme", "plug"⟩
  name := "Plug"
  version := default
  source := "plug"

def deskPlug : DeviceRecord where
  id := "desk"
  name := "Desk"
  room := "study"
  driver := plugDriver.id

/-- A hub with a plug on the desk, and its records. -/
def plugHub : LiveState × Records :=
  plugs.after [.createDriver plugDriver, .createDevice deskPlug] ({}, {})

/-- How the plug is switched on. -/
def plugging : Except HubError ActionResponse × LiveState × Records × List Service :=
  (Work.performAction "desk" (.setPower true) 0).run.play plugs.listed plugHub.1 (plugHub.2, [])

end Engine

namespace Work

open Engine

/-- The plug is switched by the call that its script has promised, and gives an overview then. -/
theorem performAction_granted_plugs :
    (∃ unit, plugging.2.2.2.filterMap Service.ran? =
        [(unit, (ActionRequest.setPower true).call)] ∧
      (ActionRequest.setPower true).Granted plugs.host plugHub.2 "desk" unit) ∧
    ∀ device capability, (plugs.outcome (deviceOverview "desk" 0) plugging.2.1 plugging.2.2.1).1 ≠
      .error (.unsupported device capability) := by
  have hl : plugs.host.findings.In plugHub.1.catalog := (kept_after plugs.host.findings_of _).1
  have hends := Flow.ends_play plugs.listing_listed
    (performAction "desk" (.setPower true) 0).run plugHub.1 (plugHub.2, [])
  obtain ⟨hran, hoverview⟩ := performAction_granted plugs.host hl "desk" (.setPower true) 0 hends
  refine ⟨hran.resolve_right ?_, hoverview (plugs.ends_outcome _ _ _)⟩
  rintro ⟨hnone, -⟩
  have hsome : (plugging.2.2.2.filterMap Service.ran?).isEmpty = false := by decide +kernel
  rw [show plugging.2.2.2.filterMap Service.ran? = [] from hnone] at hsome
  cases hsome

end Work

end DriverHub
