import DriverHub.Proofs.Driver.Conformance
import DriverHub.Proofs.Driver.Contract
import DriverHub.Proofs.Flow.Questions
import DriverHub.Proofs.Hub.Calls

/-! Contracts in calls. Once the engine has completed a run, the value that it returned decides by the
contract of the request alone whether the call returns. If it does not, the fault of the driver points
to the function that was called, and nothing of the run is kept. -/

namespace DriverHub

variable {β : Type} {host : Host} {l l' : LiveState} {r r' : Records}

/-- The value that a run has completed with, and the singletons that it left behind. -/
def Flow.Exchange.completed? (e : Flow.Exchange services) : Option (Value × Dict String Value) :=
  match e with
  | ⟨.run .., .ok (.completed value left)⟩ => some (value, left)
  | _ => none

theorem Flow.Exchange.completed?_of_idle {e : Flow.Exchange services} (h : Service.Idle e.question) :
    e.completed? = none := by
  obtain ⟨q, x⟩ := e
  cases q with
  | run => cases h
  | _ => rfl

theorem Flow.Exchange.completed_append_of_idle (said : List (Flow.Exchange services))
    {e : Flow.Exchange services} (h : Service.Idle e.question) :
    (said ++ [e]).filterMap (·.completed?) = said.filterMap (·.completed?) := by
  simp [List.filterMap_append, completed?_of_idle h]

/-- The script of the driver of a device, by what the records say. -/
inductive DeviceId.Scripted (host : Host) (r : Records) (id : DeviceId) (program : Program) : Prop
  | intro {device driver info warnings} (recorded : Dict.find? id r.devices = some device)
      (driven : Dict.find? device.driver r.drivers = some driver)
      (valid : host.findings.source driver.id driver.source (.valid info program warnings))

/-! ### Runs -/

section

variable {said : List (Flow.Exchange services)}

theorem Work.ensures_completed_runUnit (unit : CompiledUnit) (call : Call) (injected : Dict String Value)
    (token : TokenId) :
    (runUnit unit call injected token).Ensures (Flow.Recording host.Answers) l (r, said) fun x l' w' =>
      l' = l ∧ w'.1 = r ∧ w'.2.filterMap (·.completed?) = said.filterMap (·.completed?) ++
        match x with
        | .ok (.completed value left) => [(value, left)]
        | _ => [] := by
  rintro deadline ⟨r₁, _⟩ ⟨hr₁, rfl⟩ x ⟨r₂, _⟩ ⟨⟨-, hr₂⟩, rfl⟩ _ ⟨r₃, _⟩ ⟨hr₃, rfl⟩
  refine ⟨rfl, hr₃.trans (hr₂.trans hr₁), ?_⟩
  simp only [List.filterMap_append]
  rcases x with e | ⟨value, left⟩ | diagnostics <;> simp [Flow.Exchange.completed?, Except.mapError]

/-- Where the run of a call completes, the check decides on the outcome, provided that the records can
be written and that what is left behind has the singletons. A value that does not pass leaves the hub
and the records as they are. -/
theorem Target.ensures_completed_invokeChecked (hf : host.Faultless) (t : Target)
    (prepared : PreparedDriver) (call : Call) (token : TokenId) (check : Value → Except Diagnostic β) :
    (t.invokeChecked prepared call token check).Ensures (Flow.Recording host.Answers) l (r, said)
      fun x l' w' => w'.2.filterMap (·.completed?) = said.filterMap (·.completed?) ∨
        ∃ value left, w'.2.filterMap (·.completed?) = said.filterMap (·.completed?) ++ [(value, left)] ∧
          (∀ d, check value = .error d → x = .ok (.failed [d]) ∧ l' = l ∧ w'.1 = r) ∧
          ∀ b kept, check value = .ok b → t.leftBy prepared.unit.program left = .ok kept →
            x = .ok (.returned b) := by
  unfold invokeChecked
  rw [Attempt.ensures_bind, Attempt.ensures_of_look]
  rcases l.singletons.load t with e | ⟨driver, device⟩
  · exact .inl rfl
  refine Attempt.Ensures.bind (Work.ensures_completed_runUnit _ _ _ _) ?_ ?_
  swap
  · rintro e _ _ ⟨-, -, hsaid⟩
    exact .inl (hsaid.trans (List.append_nil _))
  rintro outcome _ ⟨_, said₁⟩ ⟨rfl, rfl, hsaid⟩
  cases outcome with
  | failed diagnostics =>
    rintro _ ⟨_, _⟩ ⟨-, rfl⟩
    rw [List.append_nil] at hsaid
    refine .inl ((Flow.Exchange.completed_append_of_idle said₁ ?_).trans hsaid)
    rfl
  | completed value left =>
    simp only
    cases hcheck : check value with
    | error d =>
      rintro _ ⟨_, _⟩ ⟨hr, rfl⟩
      refine .inr ⟨value, left, (Flow.Exchange.completed_append_of_idle said₁ ?_).trans hsaid, ?_, ?_⟩
      · rfl
      · rintro d' hd'
        obtain rfl := Except.error.inj (hcheck.symm.trans hd')
        exact ⟨rfl, rfl, hr⟩
      · intro b kept hb
        cases hcheck.symm.trans hb
    | ok b =>
      simp only
      rw [Attempt.ensures_bind, Attempt.ensures_of_done]
      rcases hleft : t.leftBy prepared.unit.program left with e | ⟨v, d⟩
      · refine .inr ⟨value, left, hsaid, fun d hd => ?_, fun b' kept _ hkept => ?_⟩
        · cases hcheck.symm.trans hd
        · cases hleft.symm.trans hkept
      · rintro saved ⟨_, _⟩ ⟨hsaved, rfl⟩
        obtain ⟨rfl, -⟩ : saved = .ok () ∧ _ := hsaved.resolve_right fun ⟨e, he, _⟩ => hf _ e he
        refine .inr ⟨value, left, (Flow.Exchange.completed_append_of_idle said₁ ?_).trans hsaid,
          fun d hd => ?_, fun b' kept hb' _ => ?_⟩
        · rfl
        · cases hcheck.symm.trans hd
        · obtain rfl := Except.ok.inj (hcheck.symm.trans hb')
          rfl

end

theorem Target.exists_leftBy (t : Target) (program : String) {left : Dict String Value}
    {driver device : Value} (hdriver : Dict.find? Template.driver.singleton left = some driver)
    (hdevice : Dict.find? Template.device.singleton left = some device) :
    ∃ kept, t.leftBy program left = .ok kept := by
  unfold leftBy
  rw [hdriver, hdevice]
  cases t.device <;> exact ⟨_, rfl⟩

/-! ### Requests -/

namespace Work

/-- What was prepared is the script of the device's driver, in which the function that serves a request
has a place. -/
theorem scripted_of_ready {id : DeviceId} {request : ActionRequest} {t : Target}
    {prepared : PreparedDriver} {device : DeviceRecord} (hready : t.Ready host.findings r prepared)
    (hcapable : request.capability ∈ prepared.info.deviceCapabilities)
    (hdevice : Dict.find? id r.devices = some device) (ht : t.driver = device.driver) :
    id.Scripted host r prepared.program ∧
      ∃ span, prepared.program.methodSpan? request.call.function = some span := by
  obtain ⟨driver, hdriver, hprepared⟩ := hready.driver
  obtain ⟨warnings, hvalid⟩ := hprepared.source
  rw [ht] at hdriver
  have hdefined : prepared.program.Defines .device request.call.function :=
    Program.defines_of_extract hprepared.extract hcapable request.call_required
  exact ⟨.intro hdevice hdriver hvalid, hdefined.exists_span⟩

section

variable {id : DeviceId} {request : ActionRequest} {token : TokenId}
  {x : Except HubError (Outcome ActionOutput)} {said : List (Flow.Exchange services)}
  {value driver device : Value} {left : Dict String Value}

/-- Once its run has completed, a request comes to what the check of the value says. -/
theorem checked_act (hf : host.Faultless) (hl : host.findings.In l.catalog)
    (h : Flow.Ends (Flow.Recording host.Answers) (act id request token).run l (r, []) x l' (r', said))
    (hrun : (value, left) ∈ said.filterMap (·.completed?))
    (hdriver : Dict.find? Template.driver.singleton left = some driver)
    (hdevice : Dict.find? Template.device.singleton left = some device) :
    ∃ program span, id.Scripted host r program ∧
      program.methodSpan? request.call.function = some span ∧
      (∀ d, request.check span value = .error d →
        x = .ok (.failed [d]) ∧ l'.singletons = l.singletons ∧ r' = r) ∧
      ∀ output, request.check span value = .ok output → x = .ok (.returned output) := by
  obtain ⟨found, l₁, ⟨r₁, said₁⟩, hfirst, hrest⟩ := Flow.Ends.of_bind h
  have hlisting := hfirst.listing_of_recording
  obtain ⟨_, hasked, hlooks⟩ := (asks_prepareDevice id request.capability).listed hlisting
  obtain rfl : said₁.map (·.question) = _ := hasked
  obtain ⟨hstill, hfound⟩ := (finds_prepareDevice host.findings_of hl id request.capability).ends
    hlisting.of_listing
  -- nothing runs before the driver is prepared
  have hquiet : said₁.filterMap (·.completed?) = [] := by
    refine List.filterMap_eq_nil_iff.2 fun e he => Flow.Exchange.completed?_of_idle ?_
    exact (hlooks _ (List.mem_map_of_mem he)).idle
  rcases found with e | ⟨t, prepared⟩
  · cases hrest
    rw [hquiet] at hrun
    cases hrun
  obtain ⟨hready, hcapable, record, hrecord, ht⟩ := hfound _ rfl
  obtain ⟨hscripted, span, hspan⟩ := scripted_of_ready hready hcapable hrecord ht
  have hchecked := (t.ensures_completed_invokeChecked hf prepared request.call token _).ends hrest
  rw [hquiet] at hchecked
  rcases hchecked with hnone | ⟨value', left', hone, hrefused, hpassed⟩
  · rw [hnone] at hrun
    cases hrun
  obtain ⟨rfl, rfl⟩ : value' = value ∧ left' = left := by
    rw [hone] at hrun
    simpa [eq_comm] using hrun
  obtain ⟨kept, hkept⟩ := t.exists_leftBy prepared.unit.program hdriver hdevice
  have hspanOf : prepared.program.spanOf request.call.function = span := by
    unfold Program.spanOf
    rw [hspan]
    rfl
  rw [hspanOf] at hrefused hpassed
  refine ⟨prepared.program, span, hscripted, hspan, fun d hd => ?_, fun output houtput => ?_⟩
  · obtain ⟨hx, rfl, hrecords⟩ := hrefused d hd
    exact ⟨hx, hstill.singletons, hrecords.trans hstill.records⟩
  · exact hpassed output kept houtput hkept

/-- The contract of a request decides on what a completed run comes to. If the run leaves both singletons
behind and the records can be written, the request returns just for the values that keep the contract,
and then with what these report. Any other value fails the request: the driver is charged with one
fault, that of the first item that offends, at the place of the function that was called; and neither
the singletons nor the records have changed. -/
theorem act_keeps_contract (hf : host.Faultless) (hl : host.findings.In l.catalog)
    (h : Flow.Ends (Flow.Recording host.Answers) (act id request token).run l (r, []) x l' (r', said))
    (hrun : (value, left) ∈ said.filterMap (·.completed?))
    (hdriver : Dict.find? Template.driver.singleton left = some driver)
    (hdevice : Dict.find? Template.device.singleton left = some device) :
    (∀ output, x = .ok (.returned output) ↔ request.Keeps value output) ∧
    ((∃ output, request.Keeps value output) ∨
      ∃ program span d, id.Scripted host r program ∧
        program.methodSpan? request.call.function = some span ∧ request.Offends span value d ∧
        d = .driverFault d.message span ∧ x = .ok (.failed [d]) ∧ l'.singletons = l.singletons ∧
        r' = r) := by
  obtain ⟨program, span, hscripted, hspan, hrefused, hpassed⟩ :=
    checked_act hf hl h hrun hdriver hdevice
  rcases request.keeps_or_offends value span with ⟨output, hkeeps⟩ | ⟨d, hoffends⟩
  · obtain rfl := hpassed output (ActionRequest.check_of_keeps hkeeps span)
    refine ⟨fun output' => ⟨?_, fun hkeeps' => ?_⟩, .inl ⟨output, hkeeps⟩⟩
    · rintro ⟨⟩
      exact hkeeps
    · rw [ActionRequest.keeps_unique hkeeps hkeeps']
  · obtain ⟨rfl, hsingletons, hrecords⟩ := hrefused d (ActionRequest.check_of_offends hoffends)
    refine ⟨fun output => ⟨nofun, fun hkeeps => ?_⟩, .inr ?_⟩
    · exact absurd hoffends (ActionRequest.not_offends hkeeps)
    · exact ⟨program, span, d, hscripted, hspan, hoffends, hoffends.driverFault, rfl, hsingletons,
        hrecords⟩

end

end Work

namespace Engine

/-- A driver whose devices can be dimmed. -/
def stripProgram (id : String) : Program where
  id := id
  singletons :=
    [{ ident := "@Driver", type := .object [],
       implementations := [⟨"Driver", [], [⟨"validate_driver", {}⟩], {}⟩] },
     { ident := "@Device", type := .object [],
       implementations := [⟨"Device", ["dimmable"],
         [⟨"validate_device", {}⟩, ⟨"dim", {}⟩, ⟨"report_dim", ⟨"strip", 40, 90⟩⟩], {}⟩] }]

/-- A channel of a strip, which has the levels from 0 to 255. -/
def stripChannel (label : String) (level : Int64) : Value :=
  .object [("label", .str label), ("range", .range ⟨0, 255, true⟩), ("value", .int level)]

/-- What a strip reports: its right half is brighter than it can be. -/
def stripLevels : Value := .list [stripChannel "left" 80, stripChannel "right" 300]

/-- An engine that knows the source `strip` alone, and that reports the same whatever is called. -/
def strips : Engine where
  analyze program source :=
    .ok (if source = "strip" then .analyzed (stripProgram program) [] else .rejected [])
  compile program := .ok ⟨program.id, "strip"⟩
  run _ _ _ := .ok (.completed stripLevels [("@Device", .object []), ("@Driver", .object [])])

def stripDriver : DriverRecord where
  id := ⟨"acme", "strip"⟩
  name := "Strip"
  version := default
  source := "strip"

def shelfStrip : DeviceRecord where
  id := "shelf"
  name := "Shelf"
  room := "study"
  driver := stripDriver.id

/-- A hub with a strip on the shelf, and its records. -/
def stripHub : LiveState × Records :=
  strips.after [.createDriver stripDriver, .createDevice shelfStrip] ({}, {})

/-- How the strip is asked for its levels. -/
def reporting : Except HubError (Outcome ActionOutput) × LiveState × Records ×
    List (Flow.Exchange services) :=
  (Work.act "shelf" .reportDim 0).run.play (Flow.recorded strips.answer) stripHub.1 (stripHub.2, [])

end Engine

namespace Work

open Engine

/-- The strip is charged with its right half, the first item that offends. -/
theorem act_keeps_contract_strips :
    reporting.1 = .ok (.failed [Contract.outOfRange "right" ⟨0, 255, true⟩ 300 ⟨"strip", 40, 90⟩]) ∧
    reporting.2.1.singletons = stripHub.1.singletons ∧ reporting.2.2.1 = stripHub.2 := by
  have hl : strips.host.findings.In stripHub.1.catalog := (kept_after strips.host.findings_of _).1
  have hends := Flow.ends_recorded strips.answers_answer (act "shelf" .reportDim 0).run stripHub.1
    (stripHub.2, [])
  have hrun : (stripLevels, [("@Device", .object []), ("@Driver", .object [])]) ∈
      reporting.2.2.2.filterMap (·.completed?) := by
    refine List.mem_of_getElem? (i := 0) ?_
    rfl
  obtain ⟨-, hfailed⟩ := act_keeps_contract strips.host_faultless hl hends hrun rfl rfl
  have hcheck (span : Span) : ActionRequest.check .reportDim span stripLevels =
      .error (Contract.outOfRange "right" ⟨0, 255, true⟩ 300 span) := rfl
  rcases hfailed with ⟨output, hkeeps⟩ | ⟨program, span, d, -, -, hoffends, -, hx, hsame, hrecords⟩
  · have hdiffer := (hcheck default).symm.trans (ActionRequest.check_of_keeps hkeeps default)
    cases hdiffer
  · obtain rfl := Except.error.inj ((hcheck span).symm.trans (ActionRequest.check_of_offends hoffends))
    have hspan : (reporting.1.toOption.map fun outcome => (ActionResponse.ofOutcome outcome).diagnostics.map
        (·.span)) = some [⟨"strip", 40, 90⟩] := by decide +kernel
    have hreport : reporting.1 = .ok (.failed [Contract.outOfRange "right" ⟨0, 255, true⟩ 300 span]) := hx
    rw [hreport] at hspan ⊢
    cases hspan
    exact ⟨rfl, hsame, hrecords⟩

end Work

end DriverHub
