import DriverHub.Proofs.Flow.Matter
import DriverHub.Proofs.Hub.Gating

/-! The token of an overview. The reports of an overview run one after another under one token, and for
each of them a deadline is armed that cancels it. Nothing makes a cancelled token whole again: a report
that takes too long leaves the later ones a token that is cancelled when they begin. -/

namespace DriverHub

/-- A run of the engine that has ended, and the token that it was handed. -/
structure TokenRun where
  token : TokenId
  began : Nat
  ended : Nat
  /-- The deadlines of the token that were armed when the run began, each with the time when it was
  due. -/
  deadlines : List (DeadlineId × Nat)
  /-- Whether the token was cancelled when the run began. -/
  spent : Bool
  /-- Whether the token was cancelled when the run ended. -/
  cut : Bool
deriving DecidableEq

/-- A run that took at least the time that a call may take. -/
def TokenRun.Overran (timeout : Nat) (run : TokenRun) : Prop := run.began + timeout ≤ run.ended

/-- A clock that counts milliseconds, and a token. -/
structure Clockwork where
  now : Nat
  cancelled : Bool := false
  /-- The deadlines that may cancel the token, each with the time when it is due. -/
  armed : List (DeadlineId × Nat) := []
  runs : List TokenRun := []

namespace Clockwork

/-- A deadline is armed, to be due after a time. -/
def arm (w : Clockwork) (deadline : DeadlineId) (ms : Nat) : Clockwork :=
  { w with armed := w.armed ++ [(deadline, w.now + ms)] }

/-- The run that goes from one time to another. -/
def runTo (w u : Clockwork) (token : TokenId) : TokenRun where
  token := token
  began := w.now
  ended := u.now
  deadlines := w.armed
  spent := w.cancelled
  cut := u.cancelled

/-- Time passes, and nothing cancels the token but a deadline that is due. -/
structure Lapses (w v : Clockwork) : Prop where
  forward : w.now ≤ v.now
  armed : v.armed = w.armed
  runs : v.runs = w.runs
  cancelled : w.cancelled = true → v.cancelled = true
  due : v.cancelled = true → w.cancelled = true ∨ ∃ d ∈ w.armed, d.2 ≤ v.now

/-- A deadline is stopped, unless it is due and already on its way to cancel the token. -/
def Stops (w : Clockwork) (deadline : DeadlineId) (v : Clockwork) : Prop :=
  v = { w with armed := w.armed.filter (·.1 ≠ deadline) } ∨
    v = w ∧ ∃ d ∈ w.armed, d.1 = deadline ∧ d.2 ≤ w.now

/-- Surroundings that may answer anything. They show how a token fares that only its deadlines
cancel. -/
def Answers (token : TokenId) : Surroundings services Clockwork
  | w, .startDeadline t ms, deadline, v => v = if t = token then w.arm deadline ms else w
  | w, .stopDeadline deadline, _, v => w.Stops deadline v
  | w, .run _ _ _ t, _, v => ∃ u, w.Lapses u ∧ v = { u with runs := u.runs ++ [w.runTo u t] }
  | w, _, _, v => w.Lapses v

theorem Lapses.refl (w : Clockwork) : w.Lapses w :=
  ⟨Nat.le_refl _, rfl, rfl, id, .inl⟩

end Clockwork

/-- A run that follows others under the same token has a deadline of its own. The token is cancelled when
it begins only if an earlier run has taken its time, and always if an earlier run has ended with the
token cancelled. -/
structure TokenRun.Follows (token : TokenId) (timeout : Nat) (earlier : List TokenRun) (run : TokenRun) :
    Prop where
  token : run.token = token
  deadline : ∃ d ∈ run.deadlines, d.2 = run.began + timeout
  overran_of_spent : run.spent = true → ∃ e ∈ earlier, e.Overran timeout
  spent_of_cut : ∀ e ∈ earlier, e.cut = true → run.spent = true

/-- The runs share one token, one after another. -/
def Shares (token : TokenId) (timeout : Nat) (runs : List TokenRun) : Prop :=
  ∀ earlier run later, runs = earlier ++ run :: later → run.Follows token timeout earlier

variable {α β : Type} {token : TokenId} {timeout : Nat} {runs : List TokenRun} {l l' : LiveState}
  {w v : Clockwork}

theorem Shares.nil : Shares token timeout [] := by
  intro earlier run later h
  cases earlier <;> cases h

theorem Shares.concat {run : TokenRun} (h : Shares token timeout runs)
    (hrun : run.Follows token timeout runs) : Shares token timeout (runs ++ [run]) := by
  intro earlier run' later heq
  obtain rfl | ⟨later, last, rfl⟩ := List.eq_nil_or_concat later
  · obtain ⟨rfl, hlast⟩ := List.append_inj' heq rfl
    obtain rfl := List.singleton_inj.1 hlast
    exact hrun
  · have hassoc : runs ++ [run] = (earlier ++ run' :: later) ++ [last] := by
      rw [heq, List.concat_eq_append, List.append_assoc, List.cons_append]
    exact h earlier run' later (List.append_inj' hassoc rfl).1

/-! ### Between the runs -/

/-- How the hub and the token are between two runs. Whatever may still cancel the token is left over
from a run that took its time. -/
structure Clockwork.Steady (token : TokenId) (timeout : Nat) (l : LiveState) (w : Clockwork) : Prop where
  allowed : l.timeout = timeout
  shares : Shares token timeout w.runs
  armed : ∀ d ∈ w.armed, ∃ run ∈ w.runs, run.Overran timeout
  cancelled : w.cancelled = true → ∃ run ∈ w.runs, run.Overran timeout
  cut : ∀ run ∈ w.runs, run.cut = true → w.cancelled = true

/-- The matter of an overview that has a token to itself: others may do with the hub what they like,
save that a call may take the same time as before. -/
def Clockwork.sharing (token : TokenId) (timeout : Nat) : Flow.Matter LiveState Clockwork where
  sound l w := l.timeout = timeout ∧ Shares token timeout w.runs
  spares _ w _ v := v = w
  spares_refl _ _ := rfl
  spares_trans h h' := h'.trans h

namespace Clockwork.Steady

theorem sound (h : w.Steady token timeout l) : (sharing token timeout).sound l w :=
  ⟨h.allowed, h.shares⟩

theorem relies (h : w.Steady token timeout l)
    (hrelies : (sharing token timeout).Relies true l w l' v) : v.Steady token timeout l' := by
  obtain ⟨hsound, hspares⟩ := hrelies
  obtain rfl : v = w := hspares rfl
  exact { h with allowed := hsound.1 }

theorem lapses (h : w.Steady token timeout l) (hlapses : w.Lapses v) : v.Steady token timeout l := by
  obtain ⟨-, harmed, hruns, hcancelled, hdue⟩ := hlapses
  refine ⟨h.allowed, hruns ▸ h.shares, ?_, ?_, ?_⟩
  · rw [harmed, hruns]
    exact h.armed
  · intro hv
    rw [hruns]
    rcases hdue hv with hw | ⟨d, hd, -⟩
    · exact h.cancelled hw
    · exact h.armed d hd
  · rw [hruns]
    exact fun run hrun hcut => hcancelled (h.cut run hrun hcut)

end Clockwork.Steady

/-- A question that has to do with no run and no deadline. -/
def Service.Untimed : Service → Prop
  | .run .. | .startDeadline .. | .stopDeadline _ => False
  | _ => True

theorem Service.LooksUp.untimed {q : Service} (h : q.LooksUp) : q.Untimed := by
  cases q with
  | run | startDeadline | stopDeadline => cases h
  | _ => trivial

theorem Clockwork.lapses_of_untimed {q : Service} (hq : q.Untimed) {b : q.Answer}
    (h : Answers token w q b v) : w.Lapses v := by
  cases q with
  | run | startDeadline | stopDeadline => cases hq
  | _ => exact h

namespace Work

open Clockwork

/-- An operation that starts and ends between two runs, whatever becomes of it. -/
def Steadily (token : TokenId) (timeout : Nat) (work : Work α) : Prop :=
  ∀ l w, w.Steady token timeout l → work.run.Guarded (Answers token) (sharing token timeout) true l w
    fun _ l' v => v.Steady token timeout l'

namespace Steadily

theorem bind {first : Work α} {k : α → Work β} (h : first.Steadily token timeout)
    (hk : ∀ a, (k a).Steadily token timeout) : (first >>= k).Steadily token timeout := by
  intro l w hw
  refine Flow.Guarded.bind (h l w hw) ?_
  rintro (e | a) l' v hv
  · exact hv
  · exact hk a l' v hv

theorem pure (a : α) : Steadily token timeout (pure a : Work α) := fun _ _ hw => hw

theorem fail (e : HubError) : Steadily token timeout (Attempt.fail e : Work α) := fun _ _ hw => hw

theorem some (e : HubError) (a : Option α) :
    Steadily token timeout (Attempt.some e a : Work α) := by
  cases a with
  | none => exact fail e
  | some a => exact pure a

/-- What neither runs anything nor changes how long a call may take goes on between the runs. -/
theorem of_leaves {work : Work α} (hleaves : work.run.Leaves LiveState.timeout)
    (hasks : work.Asks Service.Untimed) : work.Steadily token timeout := by
  obtain ⟨flow⟩ := work
  intro l w hw
  induction flow generalizing l w with
  | done x => exact hw
  | access update next ih =>
    have hafter : w.Steady token timeout (update l) :=
      { hw with allowed := (hleaves.1 l).trans hw.allowed }
    refine ⟨.of_spares hafter.sound rfl, fun l' v hrelies => ?_⟩
    exact ih l (hleaves.2 l) (hasks l) l' v (hafter.relies hrelies)
  | ask q next ih =>
    intro b v hb
    have hafter := hw.lapses (lapses_of_untimed hasks.1 hb)
    refine ⟨⟨hafter.sound, nofun⟩, fun l' u hrelies => ?_⟩
    exact ih b (hleaves b) (hasks.2 b) l' u (hafter.relies hrelies)

theorem record (op : RecordOp) : (record op).Steadily token timeout :=
  of_leaves (fun _ => trivial) ⟨trivial, fun _ => trivial⟩

theorem report (line : LogLine) : Steadily token timeout (Attempt.report line : Work Unit) :=
  of_leaves (fun _ => trivial) ⟨trivial, fun _ => trivial⟩

theorem of_look {ε : Type} (wrap : ε → HubError) (f : LiveState → Except ε α) :
    Steadily token timeout (Attempt.of wrap (Flow.look f)) :=
  of_leaves ⟨fun _ => rfl, fun _ => trivial⟩ fun _ => trivial

theorem of_done {ε : Type} (wrap : ε → HubError) (x : Except ε α) :
    Steadily token timeout (Attempt.of wrap (.done x)) :=
  of_leaves trivial trivial

theorem change {f : LiveState → LiveState} (hf : ∀ l, (f l).timeout = l.timeout) :
    Steadily token timeout (Attempt.change f : Work Unit) :=
  of_leaves ⟨hf, fun _ => trivial⟩ fun _ => trivial

theorem inHub {lookup : Lookup α} (h : lookup.Asks Service.LooksUp) :
    Steadily token timeout lookup.inHub :=
  of_leaves (.embed _ (fun _ _ => rfl) fun _ _ => trivial)
    ((asks_inHub h).mono fun _ => Service.LooksUp.untimed)

end Steadily

theorem steadily_driverRecord (id : DriverId) : (driverRecord id).Steadily token timeout :=
  (Steadily.record _).bind fun _ => .some _ _

theorem steadily_deviceRecord (id : DeviceId) : (deviceRecord id).Steadily token timeout :=
  (Steadily.record _).bind fun _ => .some _ _

theorem steadily_prepare (t : Target) : t.prepare.Steadily token timeout := by
  have hprepared : ∀ driver : DriverRecord, driver.prepare.inHub.Steadily token timeout :=
    fun driver => .inHub driver.asks_prepare
  unfold Target.prepare
  refine (steadily_driverRecord _).bind fun driver => ?_
  split
  · exact hprepared driver
  · refine (steadily_deviceRecord _).bind fun device => ?_
    split
    · exact hprepared driver
    · exact .fail _

theorem steadily_prepareDevice (id : DeviceId) (capability : Capability) :
    (prepareDevice id capability).Steadily token timeout := by
  unfold prepareDevice
  refine (steadily_deviceRecord id).bind fun device => ?_
  refine (steadily_prepare _).bind fun prepared => ?_
  split
  · exact .pure _
  · exact .fail _

end Work

/-! ### Runs -/

namespace Clockwork.Steady

variable {u : Clockwork} {deadline : DeadlineId} {run : TokenRun}

theorem shares_concat (h : w.Steady token timeout l) (deadline : DeadlineId) (u : Clockwork) :
    Shares token timeout (w.runs ++ [(w.arm deadline timeout).runTo u token]) := by
  have hown : (deadline, w.now + timeout) ∈ (w.arm deadline timeout).armed :=
    List.mem_append_right _ List.mem_cons_self
  exact h.shares.concat ⟨rfl, ⟨_, hown, rfl⟩, h.cancelled, h.cut⟩

theorem overran_concat (h : ∃ e ∈ w.runs, e.Overran timeout) :
    ∃ e ∈ w.runs ++ [run], e.Overran timeout := by
  obtain ⟨e, he, hoverran⟩ := h
  exact ⟨e, List.mem_append_left _ he, hoverran⟩

/-- If a deadline is due when a run ends, it is left over, or it is that of the run, which then has taken
its time. -/
theorem overran_of_due (h : w.Steady token timeout l) {d : DeadlineId × Nat}
    (hd : d ∈ (w.arm deadline timeout).armed) (hdue : d.2 ≤ u.now) :
    ∃ e ∈ w.runs ++ [(w.arm deadline timeout).runTo u token], e.Overran timeout := by
  rcases List.mem_append.1 hd with hold | hnew
  · exact overran_concat (h.armed d hold)
  · obtain rfl := List.mem_singleton.1 hnew
    exact ⟨_, List.mem_append_right _ List.mem_cons_self, hdue⟩

/-- A run for which a deadline is armed is followed by a time between runs, once that is stopped. -/
theorem after_run (h : w.Steady token timeout l) (hlapses : (w.arm deadline timeout).Lapses u)
    (hstops : Stops { u with runs := u.runs ++ [(w.arm deadline timeout).runTo u token] } deadline v) :
    v.Steady token timeout l := by
  obtain ⟨-, harmed, hruns, hkept, hfired⟩ := hlapses
  rw [hruns] at hstops
  have hshares := h.shares_concat deadline u
  have hcancelled : u.cancelled = true →
      ∃ e ∈ w.runs ++ [(w.arm deadline timeout).runTo u token], e.Overran timeout := by
    intro hu
    rcases hfired hu with hw | ⟨d, hd, hdue⟩
    · exact overran_concat (h.cancelled hw)
    · exact h.overran_of_due hd hdue
  have hcut : ∀ e ∈ w.runs ++ [(w.arm deadline timeout).runTo u token], e.cut = true →
      u.cancelled = true := by
    intro e he hcut
    rcases List.mem_append.1 he with hold | hnew
    · exact hkept (h.cut e hold hcut)
    · obtain rfl := List.mem_singleton.1 hnew
      exact hcut
  rcases hstops with rfl | ⟨rfl, d, hd, -, hdue⟩
  · refine ⟨h.allowed, hshares, fun d hd => ?_, hcancelled, hcut⟩
    -- the deadline of the run is gone
    obtain ⟨hd, hother⟩ := List.mem_filter.1 hd
    rw [harmed] at hd
    rcases List.mem_append.1 hd with hold | hnew
    · exact overran_concat (h.armed d hold)
    · obtain rfl := List.mem_singleton.1 hnew
      simp at hother
  · rw [harmed] at hd
    exact ⟨h.allowed, hshares, fun _ _ => h.overran_of_due hd hdue, hcancelled, hcut⟩

end Clockwork.Steady

namespace Work

open Clockwork

theorem steadily_runUnit (unit : CompiledUnit) (call : Call) (injected : Dict String Value) :
    (runUnit unit call injected token).Steadily token timeout := by
  intro l w hw
  obtain rfl := hw.allowed
  refine ⟨.of_spares hw.sound rfl, fun l₁ w₁ hrelies₁ => ?_⟩
  have hw₁ := hw.relies hrelies₁
  obtain rfl : w₁ = w := hrelies₁.2 rfl
  rintro deadline _ rfl
  rw [if_pos rfl]
  refine ⟨⟨hw₁.sound, nofun⟩, ?_⟩
  rintro l₂ _ ⟨hsound₂, hspares₂⟩
  obtain rfl := hspares₂ rfl
  rintro outcome _ ⟨u, hlapses, rfl⟩
  -- the run is over, and its deadline not yet stopped
  have hshares := hw₁.shares_concat deadline u
  rw [← show u.runs = w₁.runs from hlapses.runs] at hshares
  refine ⟨⟨⟨hsound₂.1, hshares⟩, nofun⟩, ?_⟩
  rintro l₃ _ ⟨hsound₃, hspares₃⟩
  obtain rfl := hspares₃ rfl
  rintro _ v hstops
  have hv : v.Steady token l.timeout l₃ :=
    { hw₁.after_run hlapses hstops with allowed := hsound₃.1 }
  refine ⟨⟨hv.sound, nofun⟩, fun l₄ v₄ hrelies₄ => ?_⟩
  exact hv.relies hrelies₄

theorem steadily_invokeChecked (t : Target) (prepared : PreparedDriver) (call : Call)
    (check : Value → Except Diagnostic β) :
    (t.invokeChecked prepared call token check).Steadily token timeout := by
  unfold Target.invokeChecked
  refine (Steadily.of_look _ _).bind fun loaded => ?_
  refine (steadily_runUnit _ _ _).bind fun outcome => ?_
  cases outcome with
  | failed diagnostics => exact (Steadily.report _).bind fun _ => .pure _
  | completed value left =>
    simp only
    split
    · exact (Steadily.report _).bind fun _ => .pure _
    · refine (Steadily.of_done _ _).bind fun kept => ?_
      refine (Steadily.record _).bind fun _ => ?_
      exact (Steadily.change fun _ => rfl).bind fun _ => .pure _

theorem steadily_act (id : DeviceId) (request : ActionRequest) :
    (act id request token).Steadily token timeout :=
  (steadily_prepareDevice id request.capability).bind fun (t, prepared) =>
    steadily_invokeChecked t prepared request.call _

theorem steadily_collectReports (id : DeviceId) (o : DeviceOverview) (requests : List ActionRequest) :
    (collectReports id token o requests).Steadily token timeout := by
  induction requests generalizing o with
  | nil => exact .pure o
  | cons request rest ih => exact (steadily_act id request).bind fun outcome => ih _

theorem steadily_deviceOverview (id : DeviceId) :
    (deviceOverview id token).Steadily token timeout := by
  unfold deviceOverview
  refine (steadily_deviceRecord id).bind fun device => ?_
  refine (Steadily.of_look _ _).bind fun v => ?_
  refine (steadily_driverRecord device.driver).bind fun driver => ?_
  refine (Steadily.inHub driver.asks_extraction).bind fun e => ?_
  cases e with
  | invalid diagnostics => exact .pure _
  | valid info program warnings => exact steadily_collectReports id _ _

/-- The reports of an overview share a token that only their deadlines cancel, and at every step of the
overview the runs so far bear this out, whatever the engine and the records answer and whatever others do
with the hub. Every run is handed the token of the overview, and has a deadline of its own. It begins
with the token cancelled only after an earlier run has taken the time that a call may take; and once a
run has ended with the token cancelled, all later ones begin so. -/
theorem deviceOverview_shares_token (id : DeviceId) (token : TokenId) (l : LiveState) (now : Nat) :
    (deviceOverview id token).run.Guarded (Answers token) (sharing token l.timeout) true l { now }
      fun _ _ w => Shares token l.timeout w.runs := by
  have hsteady : Clockwork.Steady token l.timeout l { now } := ⟨rfl, .nil, nofun, nofun, nofun⟩
  exact (steadily_deviceOverview id l _ hsteady).mono fun _ _ _ hend => hend.shares

end Work

/-! ### A slow report -/

/-- Lets time pass, but not beyond the time when the token is cancelled. -/
def Clockwork.await (w : Clockwork) (ms : Nat) : Clockwork :=
  if w.cancelled then w
  else match w.armed.find? (·.2 ≤ w.now + ms) with
    | some d => { w with now := max w.now d.2, cancelled := true }
    | none => { w with now := w.now + ms }

theorem Clockwork.lapses_await (w : Clockwork) (ms : Nat) : w.Lapses (w.await ms) := by
  unfold await
  split
  · exact .refl w
  · split
    · next d hd =>
      have harmed : d ∈ w.armed := List.mem_of_find?_eq_some hd
      refine ⟨Nat.le_max_left _ _, rfl, rfl, fun _ => rfl, fun _ => .inr ⟨d, harmed, ?_⟩⟩
      exact Nat.le_max_right _ _
    · exact ⟨Nat.le_add_right _ _, rfl, rfl, id, .inl⟩

namespace Engine

/-- How long a plug takes to answer a call, and its answer. -/
def plugReply (call : Call) : Nat × Value :=
  if call.function = "report_power" then (100, .bool true) else (1, .int 5)

/-- A plug that takes its time. Its runs end when the token is cancelled. -/
def slowPlug (w : Clockwork) : (q : Service) → q.Answer × Clockwork
  | .startDeadline token ms => (0, if token = 0 then w.arm 0 ms else w)
  | .stopDeadline deadline => ((), { w with armed := w.armed.filter (·.1 ≠ deadline) })
  | .run _ call singletons token =>
    let u := w.await (plugReply call).1
    (.ok (if u.cancelled then .failed [.fault "timeout" "Execution was cancelled" default]
      else .completed (plugReply call).2 singletons),
      { u with runs := u.runs ++ [w.runTo u token] })
  | q => ((plugs.answer plugHub.2 q).1, w)

theorem answers_slowPlug (w : Clockwork) (q : Service) :
    Clockwork.Answers 0 w q (slowPlug w q).1 (slowPlug w q).2 := by
  cases q with
  | startDeadline token ms => rfl
  | stopDeadline deadline => exact .inl rfl
  | run unit call singletons token => exact ⟨_, w.lapses_await _, rfl⟩
  | _ => exact .refl w

/-- The overview of a plug whose calls may take 50 ms. -/
def slowOverview : Except HubError DeviceOverview × LiveState × Clockwork :=
  (Work.deviceOverview "desk" 0).run.play slowPlug { plugHub.1 with timeout := 50 } { now := 0 }

end Engine

namespace Work

open Engine

/-- The first report of the plug is stopped when its time is up. So the second, which takes a moment
only, is handed a token that is cancelled, and fails as well. -/
theorem slowPlug_spends_token :
    ∃ x l w, Flow.Ends (Clockwork.Answers 0) (deviceOverview "desk" 0).run
        { plugHub.1 with timeout := 50 } { now := 0 } x l w ∧
      w.runs = [⟨0, 0, 50, [(0, 50)], false, true⟩, ⟨0, 50, 50, [(0, 100)], true, true⟩] ∧
      x.toOption.map (fun o => (o.power, o.powerDraw, o.diagnostics.length)) =
        some (none, none, 2) := by
  refine ⟨slowOverview.1, slowOverview.2.1, slowOverview.2.2, ?_, ?_, ?_⟩
  · exact Flow.ends_play answers_slowPlug _ _ _
  · decide +kernel
  · decide +kernel

end Work

end DriverHub
