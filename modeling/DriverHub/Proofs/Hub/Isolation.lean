import DriverHub.Proofs.Flow.Moments
import DriverHub.Proofs.Hub.Presence

/-! Calls that overlap do not disturb each other. A run works on the singletons that the memory held at
one moment, and what the memory holds for a driver or device was left behind by the last call of it that
has committed, whatever calls of other devices did meanwhile. -/

namespace DriverHub

open CallStep Flow

/-- Calls alone, in any order of turns. -/
def Operation.calling (host : Host) :
    Setting services LiveState Records fun _ : Operation => Except HubError Unit where
  answers := host.Answers
  flow op := op.work.run
  admits := Operation.IsCall
  permits _ _ := True

instance (host : Host) (p : HubSession) (t : HubTurn) :
    Decidable ((Operation.calling host).permits p t) :=
  inferInstanceAs (Decidable True)

/-- The name by which a script knows the singleton of its driver or device. -/
def ConfigTarget.singleton : ConfigTarget → String
  | .driver _ => Template.driver.singleton
  | .device _ => Template.device.singleton

/-- The driver or device is one of those that a call of the target replaces the singletons of. -/
def Target.Has (t : Target) : ConfigTarget → Prop
  | .driver id => t.driver = id
  | .device id => t.device = some id

/-- The operation is a call of this target. -/
def Operation.Aims : Operation → Target → Prop
  | .invoke target _ _, t => t = target
  | .act device _ _, t => t.device = some device
  | .validateDriver id _, t => t = { driver := id }
  | _, _ => False

/-- The operation is a call of a script that is not a driver's. -/
def Operation.IsScript : Operation → Prop
  | .invokeScript .. => True
  | _ => False

/-! ### What a call does -/

/-- An act that hands nothing to the engine to run and leaves the singletons in memory as they are. -/
def HubAct.Inert : HubAct → Prop
  | .accessed update => ∀ s, (update s).singletons = s.singletons
  | .asked q _ => q.Idle

namespace HubDeed

/-- The singletons of a target are looked up in memory, and these are there. -/
def Loads (t : Target) (v : Value) (w : Option Value) (d : HubDeed) : Prop :=
  d.2 = .accessed id ∧ d.1.singletons.load t = .ok (v, w)

/-- A unit is run and given these singletons. -/
def Runs (given : Dict String Value) (d : HubDeed) : Prop :=
  ∃ unit call token b, d.2 = .asked (.run unit call given token) b

/-- A unit is run to its end and has left these singletons behind. -/
def LeavesBehind (left : Dict String Value) (d : HubDeed) : Prop :=
  ∃ unit call given token value, d.2 = .asked (.run unit call given token) (.ok (.completed value left))

/-- The singletons of a target are replaced, that of its device too if it has one. -/
def Commits (t : Target) (d : HubDeed) : Prop :=
  ∃ v w, w.map (·.1) = t.device ∧ d.2 = .accessed (Update.keep ⟨t.driver, v, w⟩)

/-- The singleton of a driver or device is replaced. -/
def CommitsTo (c : ConfigTarget) (d : HubDeed) : Prop := ∃ t : Target, t.Has c ∧ Commits t d

end HubDeed

open HubAct HubDeed

namespace Operation

variable (op : Operation) (before : List HubDeed)

/-- What a run of a call may be given, by the deeds before it: nothing if its script is not a driver's, or
else the singletons that were loaded for its target. -/
inductive Injects : Dict String Value → Prop
  | nothing (script : op.IsScript) : Injects []
  | loaded {t v w} (aims : op.Aims t) (loaded : ∃ e ∈ before, Loads t v w e) :
    Injects (Target.injected v w)

/-- What a deed of a call is, by those before it. What replaces the singletons of the target was left
behind by a run. -/
inductive Part : HubDeed → Prop
  | inert {d} (inert : Inert d.2) : Part d
  | runs {d given} (injects : op.Injects before given) (runs : Runs given d) : Part d
  | commits {s t v w left} (aims : op.Aims t) (device : w.map (·.1) = t.device)
      (ran : ∃ e ∈ before, LeavesBehind left e)
      (taken : ∀ c x, Update.value? ⟨t.driver, v, w⟩ c = some x → Dict.find? c.singleton left = some x) :
    Part (s, .accessed (Update.keep ⟨t.driver, v, w⟩))

end Operation

section

variable {v : Value} {w : Option (DeviceId × Value)} {t : Target} {c : ConfigTarget}

theorem Target.has_iff (hw : w.map (·.1) = t.device) :
    t.Has c ↔ Update.value? ⟨t.driver, v, w⟩ c ≠ none := by
  cases c with
  | driver id => simp [Has, Update.value?]
  | device id =>
    rw [Has, ← hw]
    cases w <;> simp [Update.value?]

theorem keeps?_of_commitsTo {d : HubDeed} (h : CommitsTo c d) : keeps? c d.2 ≠ none := by
  obtain ⟨t, hc, v, w, hw, hact⟩ := h
  rw [hact, Update.keeps?_keep]
  exact (Target.has_iff hw).1 hc

end

namespace Operation.Part

variable {op : Operation} {before : List HubDeed} {d : HubDeed} {c : ConfigTarget}

theorem of_runs {given : Dict String Value} (h : op.Part before d) (hd : Runs given d) :
    op.Injects before given := by
  obtain ⟨unit, call, token, b, hact⟩ := hd
  cases h with
  | inert inert =>
    rw [hact] at inert
    cases inert
  | runs injects runs =>
    obtain ⟨_, _, _, _, hact'⟩ := runs
    cases hact.symm.trans hact'
    exact injects
  | commits => cases hact

/-- Each deed replaces the singletons that it keeps and no others. -/
theorem value (h : op.Part before d) (c : ConfigTarget) :
    (d.2.after d.1).singletons.value? c = (keeps? c d.2).or (d.1.singletons.value? c) := by
  obtain ⟨s, act⟩ := d
  cases h with
  | inert inert =>
    cases act with
    | accessed update =>
      have hleaves : ∀ s, (update s).singletons = s.singletons := inert
      rw [keeps?_of_quiet hleaves, Act.after_accessed, hleaves]
      rfl
    | asked => rfl
  | runs _ runs =>
    obtain ⟨_, _, _, _, rfl⟩ := runs
    rfl
  | commits =>
    rw [Update.keeps?_keep]
    exact Update.value?_keep _ s c

/-- What a call keeps in memory for a driver or device of its target, its run has left behind. -/
theorem of_keeps? {x : Value} (h : op.Part before d) (hd : keeps? c d.2 = some x) :
    ∃ t left, op.Aims t ∧ t.Has c ∧ Commits t d ∧ (∃ e ∈ before, LeavesBehind left e) ∧
      Dict.find? c.singleton left = some x := by
  obtain ⟨s, act⟩ := d
  cases h with
  | inert inert =>
    cases act with
    | accessed update =>
      rw [keeps?_of_quiet inert] at hd
      cases hd
    | asked => cases hd
  | runs _ runs =>
    obtain ⟨_, _, _, _, rfl⟩ := runs
    cases hd
  | @commits _ t v w left aims device ran taken =>
    rw [Update.keeps?_keep] at hd
    have hhas : t.Has c := by
      rw [Target.has_iff (v := v) device, hd]
      exact Option.some_ne_none x
    exact ⟨t, left, aims, hhas, ⟨v, w, device, rfl⟩, ran, taken c x hd⟩

end Operation.Part

namespace Work

variable {α β : Type} {op : Operation} {past : List HubDeed}

theorem recalls_inert {work : Work α} (hlooks : work.Looks) (hidle : work.Asks Service.Idle) :
    work.Recalls op.Part past fun _ _ => True := by
  have hinert : work.Does fun _ ds => ∀ d ∈ ds, Inert d.2 :=
    Flow.does_forall hlooks.leaves hidle (fun _ hupdate => hupdate) fun _ _ hq => hq
  refine hinert.mono fun x ds hds => ⟨.of_forall_mem fun d hd left => ?_, fun _ _ => trivial⟩
  exact .inert (hds d hd)

theorem recalls_lookup {work : Work α} (hlooks : work.Looks) (hasks : work.Asks Service.LooksUp) :
    work.Recalls op.Part past fun _ _ => True :=
  recalls_inert hlooks (hasks.mono fun _ => Service.LooksUp.idle)

theorem recalls_ask (q : Service) (hq : ∀ s b, op.Part past (s, .asked q b)) :
    (ask q).Recalls op.Part past fun b past' => ∃ s, past' = past ++ [(s, .asked q b)] := by
  intro s b
  constructor
  · apply Each.singleton
    rw [List.append_nil]
    exact hq s b
  · intro b' hb
    cases hb
    exact ⟨s, rfl⟩

theorem recalls_runUnit {unit : CompiledUnit} {call : Call} {given : Dict String Value} {token : TokenId}
    (hinjects : ∀ before, past <+: before → op.Injects before given) :
    (runUnit unit call given token).Recalls op.Part past fun outcome past' =>
      ∀ value left, outcome = .completed value left → ∃ e ∈ past', LeavesBehind left e := by
  unfold runUnit
  refine (recalls_inert (looks_look _) fun _ => trivial).bind fun timeout past₁ h₁ _ => ?_
  refine (recalls_ask (.startDeadline token timeout) fun _ _ => .inert rfl).bind ?_
  rintro deadline past₂ h₂ -
  refine (recalls_ask (.run unit call given token) fun _ _ => ?_).bind ?_
  · exact .runs (hinjects _ (h₁.trans h₂)) ⟨_, _, _, _, rfl⟩
  rintro outcome past₃ - ⟨s, rfl⟩
  refine (recalls_ask (.stopDeadline deadline) fun _ _ => .inert rfl).bind fun _ past₄ h₄ _ => ?_
  refine .of_done _ ?_
  rintro _ rfl value left rfl
  exact ⟨_, h₄.subset (List.mem_append_right _ List.mem_cons_self), _, _, _, _, _, rfl⟩

theorem recalls_save (u : Update)
    (hkeep : ∀ before, past <+: before → ∀ s, op.Part before (s, .accessed u.keep)) (a : α) :
    (record u.saving >>= fun _ => Attempt.change u.keep >>= fun _ => pure a : Work α).Recalls op.Part
      past fun _ _ => True := by
  have hsave : (record u.saving).Recalls op.Part past fun _ _ => True :=
    fun s b => ⟨.singleton (.inert rfl), fun _ _ => trivial⟩
  refine hsave.bind fun _ past₁ h₁ _ => ?_
  have hchange : (Attempt.change u.keep : Work Unit).Recalls op.Part past₁ fun _ _ => True :=
    fun s => ⟨.singleton (hkeep _ (h₁.trans (List.prefix_append _ _)) s), fun _ _ => trivial⟩
  exact hchange.bind fun _ _ _ _ => .pure trivial

end Work

namespace Target

variable {β : Type} {op : Operation} {past : List HubDeed}

theorem recalls_load (t : Target) :
    (Attempt.of .singleton (Flow.look (·.singletons.load t)) : Work (Value × Option Value)).Recalls
      op.Part past fun x past' => ∃ e ∈ past', Loads t x.1 x.2 e := by
  intro s
  refine ⟨.singleton (.inert fun _ => rfl), fun x hx => ?_⟩
  obtain ⟨s', hsame, hload⟩ := (t.learns_load s).2 x hx
  obtain ⟨⟨rfl, -⟩, -⟩ := List.cons.inj hsame
  exact ⟨_, List.mem_append_right _ List.mem_cons_self, rfl, hload⟩

theorem find?_of_leftBy {t : Target} {program : String} {left : Dict String Value} {v x : Value}
    {w : Option (DeviceId × Value)} {c : ConfigTarget} (h : t.leftBy program left = .ok (v, w))
    (hx : Update.value? ⟨t.driver, v, w⟩ c = some x) : Dict.find? c.singleton left = some x := by
  obtain ⟨hv, -, hw⟩ := leftBy_eq_ok h
  cases c with
  | driver id =>
    obtain ⟨-, rfl⟩ : t.driver = id ∧ v = x := by simpa [Update.value?] using hx
    exact hv
  | device id =>
    obtain ⟨⟨id', w'⟩, rfl, hsame⟩ := Option.bind_eq_some_iff.1 hx
    obtain ⟨-, rfl⟩ : id' = id ∧ w' = x := by simpa using hsame
    exact hw id' w' rfl

theorem recalls_invokeChecked {t : Target} (aims : op.Aims t) (prepared : PreparedDriver) (call : Call)
    (token : TokenId) (check : Value → Except Diagnostic β) :
    (t.invokeChecked prepared call token check).Recalls op.Part past fun _ _ => True := by
  unfold invokeChecked
  apply t.recalls_load.bind
  intro x past₁ _ hloaded
  obtain ⟨v, w⟩ := x
  obtain ⟨e, he, hloads⟩ := hloaded
  have hrun : (Work.runUnit prepared.unit call (injected v w) token).Recalls op.Part past₁ _ :=
    Work.recalls_runUnit fun before hbefore => .loaded aims ⟨e, hbefore.subset he, hloads⟩
  apply hrun.bind
  intro outcome past₂ _ hran
  cases outcome with
  | failed diagnostics =>
    exact Work.recalls_inert ((Work.looks_report _).bind fun _ => Work.looks_pure _)
      ⟨rfl, fun _ => trivial⟩
  | completed value left =>
    simp only
    split
    · exact Work.recalls_inert ((Work.looks_report _).bind fun _ => Work.looks_pure _)
        ⟨rfl, fun _ => trivial⟩
    · have htake : (Attempt.of .engine (.done (t.leftBy prepared.unit.program left)) :
          Work (Value × Option (DeviceId × Value))).Recalls op.Part past₂
            fun x _ => t.leftBy prepared.unit.program left = .ok x := .of_done _ fun _ h => h
      apply htake.bind
      intro x past₃ h₃ hleft
      obtain ⟨v, w⟩ := x
      obtain ⟨e, he, hleaves⟩ := hran value left rfl
      apply Work.recalls_save ⟨t.driver, v, w⟩
      intro before hbefore s
      exact .commits aims (leftBy_eq_ok hleft).2.1 ⟨e, hbefore.subset (h₃.subset he), hleaves⟩
        fun c x hx => find?_of_leftBy hleft hx

theorem recalls_invoke {t : Target} (aims : op.Aims t) (call : Call) (token : TokenId) :
    (t.invoke call token).Recalls op.Part past fun _ _ => True :=
  (Work.recalls_lookup t.looks_prepare (Work.asks_prepare t)).bind fun prepared _ _ _ =>
    recalls_invokeChecked aims prepared call token .ok

end Target

namespace Work

variable {op : Operation} {past : List HubDeed}

theorem recalls_prepareDevice (id : DeviceId) (capability : Capability) :
    (prepareDevice id capability).Recalls op.Part past fun x _ => x.1.device = some id := by
  unfold prepareDevice
  refine (recalls_lookup (looks_deviceRecord id) (asks_deviceRecord id)).bind fun device _ _ _ => ?_
  refine (recalls_lookup (Target.looks_prepare _) (asks_prepare _)).bind fun prepared _ _ _ => ?_
  split
  · exact .pure rfl
  · exact .fail _

theorem recalls_performAction {id : DeviceId} (haims : ∀ t : Target, t.device = some id → op.Aims t)
    (request : ActionRequest) (token : TokenId) :
    (performAction id request token).Recalls op.Part past fun _ _ => True := by
  unfold performAction act
  refine Attempt.Recalls.bind (F := fun _ _ => True) ?_ fun _ _ _ _ => .pure trivial
  apply (recalls_prepareDevice id _).bind
  intro x past₁ _ hdevice
  obtain ⟨t, prepared⟩ := x
  exact Target.recalls_invokeChecked (haims t hdevice) prepared _ token _

theorem recalls_validateDriver {id : DriverId} (haims : op.Aims { driver := id }) (token : TokenId) :
    (validateDriver id token).Recalls op.Part past fun _ _ => True := by
  unfold validateDriver
  refine (recalls_lookup (Target.looks_prepare _) (asks_prepare _)).bind fun prepared _ _ _ => ?_
  exact Target.recalls_invokeChecked haims prepared _ token _

theorem recalls_invokeScript (hscript : op.IsScript) (id : String) (call : Call) (token : TokenId) :
    (invokeScript id call token).Recalls op.Part past fun _ _ => True := by
  unfold invokeScript
  refine (recalls_lookup (looks_record rfl) (asks_record rfl)).bind fun found _ _ _ => ?_
  refine (recalls_lookup (looks_some _ _) (asks_some _ _)).bind fun script _ _ _ => ?_
  apply (recalls_lookup (looks_unitOf script) (asks_unitOf script)).bind
  intro x past₁ _ _
  rcases x with diagnostics | unit
  · exact .pure trivial
  · apply Attempt.Recalls.bind (recalls_runUnit fun _ _ => .nothing hscript)
    intro outcome past₂ _ _
    cases outcome <;> exact .pure trivial

end Work

namespace Operation

theorem recalls_drop {α : Type} {op : Operation} {work : Work α}
    (h : work.Recalls op.Part [] fun _ _ => True) : work.drop.Recalls op.Part [] fun _ _ => True :=
  h.bind fun _ _ _ _ => .pure trivial

/-- Each deed of a call has its part in it. -/
theorem IsCall.parts {op : Operation} (h : op.IsCall) : op.work.Does fun _ ds => Each op.Part ds := by
  have hparts : op.work.Recalls op.Part [] fun _ _ => True := by
    cases op with
    | invoke target call token =>
      have haims : (Operation.invoke target call token).Aims target := rfl
      exact recalls_drop (Target.recalls_invoke haims call token)
    | act device request token =>
      have haims : ∀ t : Target, t.device = some device → (Operation.act device request token).Aims t :=
        fun _ h => h
      exact recalls_drop (Work.recalls_performAction haims request token)
    | validateDriver id token =>
      have haims : (Operation.validateDriver id token).Aims { driver := id } := rfl
      exact recalls_drop (Work.recalls_validateDriver haims token)
    | invokeScript id call token =>
      have hscript : (Operation.invokeScript id call token).IsScript := trivial
      exact recalls_drop (Work.recalls_invokeScript hscript id call token)
    | _ => exact h.elim
  exact Attempt.Does.mono hparts fun _ _ hds => hds.1

end Operation

/-- Whatever a call asks can be answered. -/
instance (q : services.Question) : Nonempty (services.Answer q) := by
  cases q with
  | record op => exact ⟨.error (.decode "")⟩
  | analyze program => exact ⟨.error (.host program "")⟩
  | compile program => exact ⟨.error (.host program.id "")⟩
  | run unit => exact ⟨.error (.host unit.program "")⟩
  | newToken => exact ⟨0⟩
  | startDeadline => exact ⟨0⟩
  | stopDeadline => exact ⟨()⟩
  | log => exact ⟨()⟩

namespace HubSession

/-! ### Where a singleton is from -/

/-- Where the memory has the singleton of a driver or device from, before the turn with this number: it
is the one there was at first, or the one that was left behind by the run of the call that has committed
in some turn before. No other call of the driver or device has committed since. -/
inductive Origin (p : HubSession) (l : LiveState) (c : ConfigTarget) (n : Nat) : Option Nat → Prop
  | first (never : ∀ k < n, ¬ At p.turns k (CommitsTo c))
      (value : (p.stateAt n).singletons.value? c = l.singletons.value? c) : Origin p l c n none
  | call {i op x t left v run commit} (caller : p.callers[i]? = some ⟨op, x⟩) (aims : op.Aims t)
      (has : t.Has c) (order : run < commit ∧ commit < n) (ran : Did p.turns i run (LeavesBehind left))
      (committed : Did p.turns i commit (Commits t))
      (last : ∀ k, commit < k → k < n → ¬ At p.turns k (CommitsTo c))
      (taken : Dict.find? c.singleton left = some v)
      (value : (p.stateAt n).singletons.value? c = some v) : Origin p l c n (some commit)

/-- What a run of this target is given in a turn: the singletons that its call has looked up in one turn
before, all of them in memory then. For each commit of the driver together with the device, either both
singletons are as recent as this commit or neither is. -/
inductive Snapshot (p : HubSession) (l : LiveState) (t : Target) (i n : Nat) : Dict String Value → Prop
  | driver {m v} (alone : t.device = none) (order : m < n) (loaded : Did p.turns i m (Loads t v none))
      (driver : (p.stateAt m).singletons.value? (.driver t.driver) = some v) :
    Snapshot p l t i n (Target.injected v none)
  | device {m id v w} (device : t.device = some id) (order : m < n)
      (loaded : Did p.turns i m (Loads t v (some w)))
      (driver : (p.stateAt m).singletons.value? (.driver t.driver) = some v)
      (own : (p.stateAt m).singletons.value? (.device id) = some w)
      (whole : ∀ k o o', At p.turns k (Commits t) → p.Origin l (.driver t.driver) m o →
        p.Origin l (.device id) m o' → ((∃ j ∈ o, k ≤ j) ↔ ∃ j ∈ o', k ≤ j)) :
    Snapshot p l t i n (Target.injected v (some w))

variable {host : Host} {l : LiveState} {r : Records} {p : HubSession} {c : ConfigTarget} {i k n : Nat}

theorem Origin.le_iff {o : Option Nat} (h : p.Origin l c n o) (hk : At p.turns k (CommitsTo c)) :
    (∃ j ∈ o, k ≤ j) ↔ k < n := by
  cases h with
  | first never =>
    apply iff_of_false
    · rintro ⟨j, hj, -⟩
      cases hj
    · exact fun hlt => never k hlt hk
  | @call _ _ _ _ _ _ _ commit _ _ _ order _ _ last =>
    constructor
    · rintro ⟨j, hj, hle⟩
      obtain rfl := Option.some.inj hj
      exact Nat.lt_of_le_of_lt hle order.2
    · intro hlt
      refine ⟨commit, rfl, Nat.le_of_not_lt fun hlate => ?_⟩
      exact last k hlate hlt hk

theorem Origin.whole {t : Target} {id : DeviceId} {o o' : Option Nat} (hid : t.device = some id)
    (hk : At p.turns k (Commits t)) (h : p.Origin l (.driver t.driver) n o)
    (h' : p.Origin l (.device id) n o') : (∃ j ∈ o, k ≤ j) ↔ ∃ j ∈ o', k ≤ j := by
  have hdriver : At p.turns k (CommitsTo (.driver t.driver)) := hk.mono fun hd => ⟨t, rfl, hd⟩
  have hdevice : At p.turns k (CommitsTo (.device id)) := hk.mono fun hd => ⟨t, hid, hd⟩
  rw [h.le_iff hdriver, h'.le_iff hdevice]

theorem snapshot_of_loads {m : Nat} {t : Target} {v : Value} {w : Option Value} (hm : m < n)
    (hloads : Did p.turns i m (Loads t v w)) : p.Snapshot l t i n (Target.injected v w) := by
  obtain ⟨u, hu, -, -, hload⟩ := id hloads
  have hstate : (p.stateAt m).singletons = u.state.singletons :=
    congrArg LiveState.singletons (Session.stateAt_of_turn hu)
  obtain ⟨hdriver, ⟨hnone, rfl⟩ | ⟨id, x, hid, rfl, hdevice⟩⟩ := Singletons.of_load hload
  · exact .driver hnone hm hloads (hstate ▸ hdriver)
  · refine .device hid hm hloads (hstate ▸ hdriver) (hstate ▸ hdevice) ?_
    exact fun k o o' hk ho ho' => Origin.whole hid hk ho ho'

section

variable (h : (Operation.calling host).Leads l r p)

include h

theorem exists_part {t : HubTurn} (ht : p.turns[n]? = some t) :
    ∃ op x, p.callers[t.caller]? = some ⟨op, x⟩ ∧
      op.Part (deeds (p.turns.take n) t.caller) t.deed := by
  obtain ⟨⟨op, x⟩, hc, -, hpart⟩ := h.each_at Operation.Part (fun _ hop => Operation.IsCall.parts hop) ht
  exact ⟨op, x, hc, hpart⟩

theorem exists_origin (n : Nat) (c : ConfigTarget) : ∃ o, p.Origin l c n o := by
  have hturns : ∀ t ∈ p.turns, t.after.singletons.value? c =
      (keeps? c t.deed.2).or (t.state.singletons.value? c) := by
    intro t ht
    obtain ⟨n, hn⟩ := List.mem_iff_getElem?.1 ht
    obtain ⟨op, x, -, hpart⟩ := exists_part h hn
    exact hpart.value c
  rcases h.exists_last (·.singletons.value? c) (fun d => keeps? c d.2) hturns n with
    ⟨hnever, hfirst⟩ | ⟨m, hm, v, ⟨t, ht, hv⟩, hvalue, hlast⟩
  · exact ⟨none, .first (fun k hk hat => hnever k hk (hat.mono keeps?_of_commitsTo)) hfirst⟩
  · obtain ⟨op, x, hc, hpart⟩ := exists_part h ht
    obtain ⟨target, left, haims, hhas, hcommits, ⟨e, he, hleaves⟩, htaken⟩ := hpart.of_keeps? hv
    obtain ⟨run, hrun, hran⟩ := exists_did_before he hleaves
    refine ⟨some m, .call hc haims hhas ⟨hrun, hm⟩ hran ⟨t, ht, rfl, hcommits⟩ ?_ htaken hvalue⟩
    exact fun k hmk hk hat => hlast k hmk hk (hat.mono keeps?_of_commitsTo)

end

/-- Calls of any devices and drivers overlap in any order of turns. Each run is given the singletons that
were in memory together at one moment, and so none from before a call has committed with another from
after. And at any moment the singleton of a driver or device is the one that there was at first, or the
one that was left behind by the run of the last call of this driver or device that has committed. -/
theorem calls_isolated (h : (Operation.calling host).Leads l r p) :
    (∀ i n given, Did p.turns i n (Runs given) → ∃ op x, p.callers[i]? = some ⟨op, x⟩ ∧
        (op.IsScript ∧ given = [] ∨ ∃ t, op.Aims t ∧ p.Snapshot l t i n given)) ∧
      ∀ n c, ∃ o, p.Origin l c n o := by
  constructor
  · intro i n given hd
    obtain ⟨t, ht, rfl, hruns⟩ := hd
    obtain ⟨op, x, hc, hpart⟩ := exists_part h ht
    refine ⟨op, x, hc, ?_⟩
    cases hpart.of_runs hruns with
    | nothing script => exact .inl ⟨script, rfl⟩
    | @loaded target v w aims loaded =>
      obtain ⟨e, he, hloads⟩ := loaded
      obtain ⟨m, hm, hdid⟩ := exists_did_before he hloads
      exact .inr ⟨target, aims, snapshot_of_loads hm hdid⟩
  · exact exists_origin h

end HubSession

namespace Engine

/-- A hub with lamps on the desk and in the hall, and its records. -/
def lamps : LiveState × Records :=
  lamp.after [.createDriver lampDriver, .createDevice deskLamp, .createDevice hallLamp] ({}, {})

/-- Three calls that overlap, two of the lamp on the desk and one of that in the hall. The last of them
looks up its singletons after the first has committed, and is given them after the one in the hall has
committed as well. -/
def dimming : HubSession :=
  let setting := Operation.calling lamp.host
  let calls : List Operation :=
    [.invoke ⟨lampDriver.id, some "desk"⟩ (dim 1 ⟨7⟩) 0,
      .invoke ⟨lampDriver.id, some "hall"⟩ (dim 2 ⟨8⟩) 1,
      .invoke ⟨lampDriver.id, some "desk"⟩ (dim 3 ⟨9⟩) 2]
  (Flow.Session.opened setting calls lamps.1 lamps.2).turnsOf setting lamp.answer
    (List.replicate 11 0 ++ List.replicate 9 1 ++ List.replicate 2 0 ++ List.replicate 5 2 ++
      List.replicate 2 1 ++ List.replicate 6 2)

theorem leads_dimming : (Operation.calling lamp.host).Leads lamps.1 lamps.2 dimming := by
  refine (Flow.Setting.Leads.opened _ ?_).turnsOf lamp.answers_answer _
  intro op hop
  simp only [List.mem_cons, List.not_mem_nil, or_false] at hop
  rcases hop with rfl | rfl | rfl <;> trivial

set_option maxRecDepth 4000 in
theorem ran_dimming : Did dimming.turns 2 31 (Runs (Target.injected (.object [("count", .int 1)])
    (some (.object [("level", .float ⟨7⟩)])))) :=
  ⟨_, rfl, rfl, _, _, _, _, rfl⟩

set_option maxRecDepth 4000 in
theorem committed_dimming : At dimming.turns 34 (Commits ⟨lampDriver.id, some "desk"⟩) :=
  ⟨_, rfl, _, some (_, _), rfl, rfl⟩

end Engine

namespace HubSession

open Engine

set_option maxRecDepth 4000 in
/-- The last call of the lamp on the desk is given a snapshot, though the singleton of the driver has been
replaced once more before it runs. In the end the singleton of this lamp is from a call of it. -/
theorem calls_isolated_lamps :
    let desk : Target := ⟨lampDriver.id, some "desk"⟩
    dimming.Snapshot lamps.1 desk 2 31 (Target.injected (.object [("count", .int 1)])
        (some (.object [("level", .float ⟨7⟩)]))) ∧
      ∃ commit, dimming.Origin lamps.1 (.device "desk") dimming.turns.length (some commit) := by
  intro desk
  obtain ⟨hruns, horigin⟩ := calls_isolated leads_dimming
  constructor
  · obtain ⟨op, x, hc, hrun⟩ := hruns 2 31 _ ran_dimming
    have hcalls : dimming.callers[2]?.map (·.call) = some (.invoke desk (dim 3 ⟨9⟩) 2) := rfl
    rw [hc] at hcalls
    obtain rfl := Option.some.inj hcalls
    rcases hrun with ⟨hscript, -⟩ | ⟨t, rfl, hsnapshot⟩
    · exact hscript.elim
    · exact hsnapshot
  · obtain ⟨o, ho⟩ := horigin dimming.turns.length (.device "desk")
    cases o with
    | some commit => exact ⟨commit, ho⟩
    | none =>
      obtain ⟨never, -⟩ := ho
      exact absurd (committed_dimming.mono fun hd => ⟨desk, rfl, hd⟩) (never 34 committed_dimming.lt)

end HubSession

end DriverHub
