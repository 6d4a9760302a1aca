import DriverHub.Proofs.Flow.Interleaving
import DriverHub.Proofs.Hub.Operation

/-! Calls of drivers and scripts, step by step. Whatever others do in between, a call writes to the
records only to save what its run left behind, and once that is saved its next step keeps the same
in memory. -/

namespace DriverHub

/-- What one call replaces: the singleton of a driver, and maybe that of a device. -/
structure Update where
  driver : DriverId
  value : Value
  device : Option (DeviceId × Value)

namespace Update

@[reducible]
def saving (u : Update) : RecordOp :=
  .putSingletons u.driver u.value.toJson (u.device.map fun (id, w) => (id, w.toJson))

def keep (u : Update) (l : LiveState) : LiveState :=
  { l with singletons := l.singletons.commit u.driver u.value u.device }

end Update

/-- A question that does not write to the records. -/
def Service.Reads : Service → Prop
  | .record op => op.isRead
  | _ => True

/-- A question that reads a record, or that has to do with a source and not with a run of it. -/
def Service.LooksUp : Service → Prop
  | .record op => op.isRead
  | .analyze .. | .compile _ | .log _ => True
  | _ => False

theorem Service.LooksUp.reads {q : Service} (h : q.LooksUp) : q.Reads := by
  cases q with
  | record op => exact h
  | _ => trivial

/-- The unit that is run, and the call that it is handed. -/
def Service.ran? : Service → Option (CompiledUnit × Call)
  | .run unit call _ _ => some (unit, call)
  | _ => none

/-- A question that hands nothing to the engine to run. -/
def Service.Idle (q : Service) : Prop := q.ran? = none

theorem Service.LooksUp.idle {q : Service} (h : q.LooksUp) : q.Idle := by
  cases q with
  | run => cases h
  | _ => rfl

/-- A flow that calls drivers. It may owe an update that it has saved, to the singletons in memory.
-/
inductive Calling {α : Type} : Option Update → Flow services LiveState α → Prop
  | done {a : α} : Calling none (.done a)
  | access {update : LiveState → LiveState} {next : LiveState → Flow services LiveState α}
      (quiet : ∀ l, (update l).singletons = l.singletons) (rest : ∀ l, Calling none (next l)) :
    Calling none (.access update next)
  | ask {q : Service} {next : q.Answer → Flow services LiveState α} (reads : q.Reads)
      (rest : ∀ x, Calling none (next x)) :
    Calling none (.ask q next)
  | save {u : Update} {next : Except RecordError Unit → Flow services LiveState α}
      (saved : Calling (some u) (next (.ok ()))) (failed : ∀ e, Calling none (next (.error e))) :
    Calling none (.ask (.record u.saving) next)
  | keep {u : Update} {next : LiveState → Flow services LiveState α}
      (rest : ∀ l, Calling none (next l)) :
    Calling (some u) (.access u.keep next)

variable {α β ε δ : Type}

namespace Calling

theorem bind {owed : Option Update} {flow : Flow services LiveState α}
    {k : α → Flow services LiveState β} (h : Calling owed flow) (hk : ∀ a, Calling none (k a)) :
    Calling owed (flow.bind k) := by
  induction h with
  | done => exact hk _
  | access quiet _ ih => exact .access quiet ih
  | ask reads _ ih => exact .ask reads ih
  | save _ _ ihSaved ihFailed => exact .save ihSaved ihFailed
  | keep _ ih => exact .keep ih

end Calling

/-- A flow that leaves the singletons in memory as they are and writes to no record. -/
structure Looking (flow : Flow services LiveState α) : Prop where
  leaves : flow.Leaves LiveState.singletons
  reads : flow.Asks Service.Reads

namespace Looking

theorem bind {flow : Flow services LiveState α} {k : α → Flow services LiveState β}
    (h : Looking flow) (hk : ∀ a, Looking (k a)) : Looking (flow.bind k) :=
  ⟨h.leaves.bind fun a => (hk a).leaves, h.reads.bind fun a => (hk a).reads⟩

/-- A flow over a part of the hub that does not hold the singletons only looks. -/
theorem of_asks {σ : Type} {flow : Flow services σ α} (h : flow.Asks Service.Reads)
    {get : LiveState → σ} {set : σ → LiveState → LiveState}
    (quiet : ∀ s l, (set s l).singletons = l.singletons) :
    Looking (flow.embed get set Service.request) :=
  ⟨.embed flow quiet fun _ _ => trivial, h.embed get set⟩

/-- To look is to call nothing. -/
theorem calling {flow : Flow services LiveState α} (h : Looking flow) : Calling none flow := by
  induction flow with
  | done a => exact .done
  | access update next ih => exact .access h.leaves.1 fun l => ih l ⟨h.leaves.2 l, h.reads l⟩
  | ask q next ih => exact .ask h.reads.1 fun b => ih b ⟨h.leaves b, h.reads.2 b⟩

end Looking

/-! ### Lookups -/

namespace Attempt

variable {σ : Type}

def Asks (P : Service → Prop) (attempt : Attempt services σ ε α) : Prop := attempt.run.Asks P

theorem Asks.mono {P P' : Service → Prop} {attempt : Attempt services σ ε α} (h : attempt.Asks P)
    (hP : ∀ q, P q → P' q) : attempt.Asks P' := Flow.Asks.mono h hP

theorem Asks.bind {P : Service → Prop} {attempt : Attempt services σ ε α}
    {k : α → Attempt services σ ε β} (h : attempt.Asks P) (hk : ∀ a, (k a).Asks P) :
    (attempt >>= k).Asks P := by
  refine Flow.Asks.bind h ?_
  intro x
  rcases x with e | a
  · trivial
  · exact hk a

end Attempt

theorem UnitCache.asks_getOrCompile (program : Program) (revision : String) :
    (getOrCompile program revision).Asks Service.LooksUp := by
  unfold getOrCompile
  refine Attempt.Asks.bind (fun _ => trivial) ?_
  intro x
  rcases x with _ | unit
  · have hcompile : (Attempt.of id (Service.request (.compile program)) :
        Attempt services UnitCache EngineError CompiledUnit).Asks Service.LooksUp :=
      ⟨trivial, fun _ => trivial⟩
    refine Attempt.Asks.bind hcompile ?_
    intro unit
    exact fun _ => trivial
  · trivial

namespace DriverRecord

theorem asks_extraction (driver : DriverRecord) : driver.extraction.Asks Service.LooksUp := by
  unfold extraction
  refine Attempt.Asks.bind (fun _ => trivial) ?_
  intro x
  rcases x with _ | e
  · refine Attempt.Asks.bind ⟨trivial, fun _ => trivial⟩ ?_
    intro analysis
    have hremember : ∀ e, (Attempt.change (Catalog.remember driver e) >>= fun _ => pure e :
        Lookup Extraction).Asks Service.LooksUp :=
      fun e => Attempt.Asks.bind (fun _ => trivial) fun _ => trivial
    simp only
    split
    · refine Attempt.Asks.bind ⟨trivial, fun _ => trivial⟩ ?_
      intro _
      exact hremember _
    · exact hremember _
  · trivial

theorem asks_validInfo (driver : DriverRecord) : driver.validInfo.Asks Service.LooksUp := by
  unfold validInfo
  refine Attempt.Asks.bind driver.asks_extraction ?_
  intro x
  rcases x with ⟨info, program, _⟩ | diagnostics <;> trivial

theorem asks_prepare (driver : DriverRecord) : driver.prepare.Asks Service.LooksUp := by
  unfold prepare
  refine Attempt.Asks.bind driver.asks_extraction ?_
  intro x
  rcases x with ⟨info, program, _⟩ | diagnostics
  · refine Attempt.Asks.bind (Flow.Asks.bind ?_ fun _ => trivial) fun _ => trivial
    exact Flow.Asks.embed (UnitCache.asks_getOrCompile program driver.source) _ _
  · trivial

end DriverRecord

namespace Work

theorem asks_record {op : RecordOp} (h : op.isRead) : (record op).Asks Service.LooksUp :=
  ⟨h, fun _ => trivial⟩

theorem asks_some (e : HubError) (a : Option α) :
    (Attempt.some e a : Work α).Asks Service.LooksUp := by
  cases a <;> trivial

theorem asks_driverRecord (id : DriverId) : (driverRecord id).Asks Service.LooksUp :=
  (asks_record rfl).bind fun _ => asks_some _ _

theorem asks_deviceRecord (id : DeviceId) : (deviceRecord id).Asks Service.LooksUp :=
  (asks_record rfl).bind fun _ => asks_some _ _

theorem asks_inHub {lookup : Lookup α} (h : lookup.Asks Service.LooksUp) :
    lookup.inHub.Asks Service.LooksUp :=
  Flow.Asks.embed h _ _

theorem asks_prepare (t : Target) : t.prepare.Asks Service.LooksUp := by
  unfold Target.prepare
  refine (asks_driverRecord t.driver).bind fun driver => ?_
  split
  · exact asks_inHub driver.asks_prepare
  · refine (asks_deviceRecord _).bind fun device => ?_
    split
    · exact asks_inHub driver.asks_prepare
    · trivial

theorem asks_prepareDevice (id : DeviceId) (capability : Capability) :
    (prepareDevice id capability).Asks Service.LooksUp := by
  unfold prepareDevice
  refine (asks_deviceRecord id).bind fun device => ?_
  refine (asks_prepare _).bind fun prepared => ?_
  split <;> trivial

theorem asks_unitOf (script : ScriptRecord) : (unitOf script).Asks Service.LooksUp := by
  unfold unitOf
  refine Attempt.Asks.bind (fun _ => trivial) ?_
  intro x
  rcases x with _ | unit
  · refine Attempt.Asks.bind ⟨trivial, fun _ => trivial⟩ ?_
    intro x
    rcases x with ⟨program, warnings⟩ | diagnostics
    · refine Attempt.Asks.bind (Flow.Asks.bind ?_ fun _ => trivial) fun _ => trivial
      exact Flow.Asks.embed (UnitCache.asks_getOrCompile program script.source) _ _
    · trivial
  · trivial

/-- An operation that leaves the singletons in memory as they are and writes to no record. -/
def Looks (work : Work α) : Prop := Looking work.run

theorem looks_pure (a : α) : (pure a : Work α).Looks := ⟨trivial, trivial⟩

theorem looks_fail (e : HubError) : Looks (Attempt.fail e : Work α) := ⟨trivial, trivial⟩

theorem Looks.bind {work : Work α} {k : α → Work β} (h : work.Looks) (hk : ∀ a, (k a).Looks) :
    (work >>= k).Looks := by
  refine Looking.bind h ?_
  intro x
  rcases x with e | a
  · exact ⟨trivial, trivial⟩
  · exact hk a

theorem looks_some (e : HubError) (a : Option α) : Looks (Attempt.some e a : Work α) := by
  cases a with
  | none => exact ⟨trivial, trivial⟩
  | some a => exact ⟨trivial, trivial⟩

theorem looks_look (f : LiveState → α) : Looks (Attempt.look f : Work α) :=
  ⟨⟨fun _ => rfl, fun _ => trivial⟩, fun _ => trivial⟩

theorem looks_of_look (wrap : ε → HubError) (f : LiveState → Except ε α) :
    Looks (Attempt.of wrap (Flow.look f) : Work α) :=
  ⟨⟨fun _ => rfl, fun _ => trivial⟩, fun _ => trivial⟩

theorem looks_of_done (wrap : ε → HubError) (x : Except ε α) :
    Looks (Attempt.of wrap (.done x) : Work α) := ⟨trivial, trivial⟩

theorem looks_ask {q : Service} (h : q.Reads) : (ask q).Looks :=
  ⟨fun _ => trivial, h, fun _ => trivial⟩

theorem looks_record {op : RecordOp} (h : op.isRead) : (record op).Looks :=
  ⟨fun _ => trivial, h, fun _ => trivial⟩

theorem looks_report (line : LogLine) : Looks (Attempt.report line : Work Unit) :=
  looks_ask (q := .log line) trivial

theorem looks_driverRecord (id : DriverId) : (driverRecord id).Looks :=
  Looks.bind (looks_record rfl) fun _ => looks_some _ _

theorem looks_deviceRecord (id : DeviceId) : (deviceRecord id).Looks :=
  Looks.bind (looks_record rfl) fun _ => looks_some _ _

theorem looks_inHub {lookup : Lookup α} (h : lookup.Asks Service.LooksUp) : lookup.inHub.Looks :=
  .of_asks (h.mono fun _ => Service.LooksUp.reads) fun _ _ => rfl

theorem looks_runUnit (unit : CompiledUnit) (call : Call) (injected : Dict String Value)
    (token : TokenId) : (runUnit unit call injected token).Looks := by
  unfold runUnit
  refine Looks.bind (looks_look _) fun timeout => ?_
  refine Looks.bind (looks_ask trivial) fun deadline => ?_
  refine Looks.bind (looks_ask trivial) fun outcome => ?_
  exact Looks.bind (looks_ask trivial) fun _ => looks_of_done _ _

theorem looks_scriptUnit (program : Program) (revision : String) :
    (scriptUnit program revision).Looks := by
  refine Looking.bind ?_ fun _ => ⟨trivial, trivial⟩
  have hasks := UnitCache.asks_getOrCompile program revision
  exact .of_asks (hasks.mono fun _ => Service.LooksUp.reads) fun _ _ => rfl

theorem looks_unitOf (script : ScriptRecord) : (unitOf script).Looks := by
  unfold unitOf
  refine Looks.bind (looks_look _) ?_
  intro x
  rcases x with _ | unit
  · refine Looks.bind ⟨fun _ => trivial, trivial, fun _ => trivial⟩ ?_
    intro x
    rcases x with ⟨program, warnings⟩ | diagnostics
    · exact Looks.bind (looks_scriptUnit program script.source) fun _ => looks_pure _
    · exact looks_pure _
  · exact looks_pure _

theorem looks_invokeScript (id : String) (call : Call) (token : TokenId) :
    (invokeScript id call token).Looks := by
  unfold invokeScript
  refine Looks.bind (looks_record rfl) fun found => ?_
  refine Looks.bind (looks_some _ _) fun script => ?_
  refine Looks.bind (looks_unitOf script) ?_
  intro x
  rcases x with diagnostics | unit
  · exact looks_pure _
  · refine Looks.bind (looks_runUnit unit call [] token) ?_
    intro x
    rcases x with ⟨value, left⟩ | diagnostics
    · exact looks_pure _
    · exact looks_pure _

end Work

theorem Target.looks_prepare (t : Target) : t.prepare.Looks := by
  unfold prepare
  refine Work.Looks.bind (Work.looks_driverRecord t.driver) fun driver => ?_
  split
  · exact Work.looks_inHub driver.asks_prepare
  · refine Work.Looks.bind (Work.looks_deviceRecord _) fun device => ?_
    split
    · exact Work.looks_inHub driver.asks_prepare
    · exact Work.looks_fail _

theorem Work.looks_prepareDevice (id : DeviceId) (capability : Capability) :
    (prepareDevice id capability).Looks := by
  unfold prepareDevice
  refine Looks.bind (looks_deviceRecord id) fun device => ?_
  refine Looks.bind (Target.looks_prepare _) fun prepared => ?_
  split
  · exact looks_pure _
  · exact looks_fail _

/-! ### Calls -/

namespace Work

/-- An operation that calls drivers, whose update is neither saved nor owed when it starts. -/
def Calls (work : Work α) : Prop := Calling none work.run

theorem Looks.calls {work : Work α} (h : work.Looks) : work.Calls := h.calling

theorem Calls.bind {work : Work α} {k : α → Work β} (h : work.Calls) (hk : ∀ a, (k a).Calls) :
    (work >>= k).Calls := by
  refine Calling.bind h ?_
  intro x
  rcases x with e | a
  · exact .done
  · exact hk a

/-- A call that saves an update keeps the same update in its next step. -/
theorem calls_save (u : Update) (a : α) :
    Calls (Work.record u.saving >>= fun _ => Attempt.change u.keep >>= fun _ => pure a : Work α) :=
  .save (.keep fun _ => .done) fun _ => .done

end Work

namespace Target

theorem calls_invokeChecked (t : Target) (prepared : PreparedDriver) (call : Call) (token : TokenId)
    (check : Value → Except Diagnostic β) : (t.invokeChecked prepared call token check).Calls := by
  unfold invokeChecked
  refine Work.Calls.bind (Work.looks_of_look _ _).calls ?_
  intro x
  obtain ⟨driver, device⟩ := x
  refine Work.Calls.bind (Work.looks_runUnit _ _ _ _).calls ?_
  intro x
  rcases x with ⟨value, left⟩ | diagnostics
  · simp only
    split
    · exact ((Work.looks_report _).bind fun _ => Work.looks_pure _).calls
    · refine Work.Calls.bind (Work.looks_of_done _ _).calls ?_
      intro x
      obtain ⟨v, d⟩ := x
      exact Work.calls_save ⟨t.driver, v, d⟩ _
  · exact ((Work.looks_report _).bind fun _ => Work.looks_pure _).calls

theorem calls_invoke (t : Target) (call : Call) (token : TokenId) : (t.invoke call token).Calls :=
  Work.Calls.bind t.looks_prepare.calls fun prepared => t.calls_invokeChecked prepared call token .ok

end Target

namespace Work

theorem calls_performAction (id : DeviceId) (request : ActionRequest) (token : TokenId) :
    (performAction id request token).Calls := by
  unfold performAction act
  refine Calls.bind (Calls.bind (looks_prepareDevice id _).calls ?_) fun _ => (looks_pure _).calls
  intro x
  obtain ⟨target, prepared⟩ := x
  exact target.calls_invokeChecked prepared _ token _

theorem calls_validateDriver (id : DriverId) (token : TokenId) : (validateDriver id token).Calls := by
  unfold validateDriver
  refine Calls.bind (Target.looks_prepare _).calls fun prepared => ?_
  exact Target.calls_invokeChecked _ prepared _ token _

end Work

/-- The operations that call drivers and scripts. -/
def Operation.IsCall : Operation → Prop
  | .invoke .. | .act .. | .validateDriver .. | .invokeScript .. => True
  | _ => False

theorem Operation.IsCall.calls {op : Operation} (h : op.IsCall) : op.work.Calls := by
  cases op with
  | invoke target call token => exact Work.Calls.bind (target.calls_invoke call token) fun _ => .done
  | act device request token =>
    exact Work.Calls.bind (Work.calls_performAction device request token) fun _ => .done
  | validateDriver id token => exact Work.Calls.bind (Work.calls_validateDriver id token) fun _ => .done
  | invokeScript id call token =>
    exact Work.Calls.bind (Work.looks_invokeScript id call token).calls fun _ => .done
  | _ => exact h.elim

end DriverHub
