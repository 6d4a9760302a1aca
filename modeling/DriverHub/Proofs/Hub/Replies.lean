import DriverHub.Hub.Hub
import DriverHub.Proofs.Dispatch.Entries
import DriverHub.Proofs.Hub.Invocation

/-! How the hub answers its dispatcher. It looks at the records, prepares drivers and calls them; a call
may change singletons, but neither which drivers there are nor their sources and devices. -/

namespace DriverHub

variable {α W : Type} {host : Host} {E : Findings} {l l' : LiveState} {r₀ r r' : Records}

/-- How a host answers the hub. What the broker, the clock and the jobs answer is left open. -/
def Host.HubAnswers (host : Host) (r : Records) : (q : HostService) → q.Answer → Records → Prop
  | .service q, x, r' => host.Answers r q x r'
  | _, _, r' => r' = r

/-- How the hub answers its dispatcher, whatever state this is in. -/
def Host.Replies (host : Host) : Surroundings dispatchServices (LiveState × Records) :=
  fun w q x w' => ∃ hub hub' : Hub, hub.live = w.1 ∧ hub'.live = w'.1 ∧
    Flow.Ends host.HubAnswers (Hosted.answerDispatch q) hub w.2 x hub' w'.2

theorem Host.replies_of_ensures {q : DispatchService} {Q : q.Answer → LiveState → Records → Prop}
    (h : ∀ hub : Hub, hub.live = l → (Hosted.answerDispatch q).Ensures host.HubAnswers hub r
      fun x hub r => Q x hub.live r) :
    ∀ x l' r', host.Replies (l, r) q x (l', r') → Q x l' r' := by
  rintro x _ r' ⟨hub, hub', hhub, rfl, hends⟩
  exact (h hub hhub).ends hends

namespace Hosted

theorem ensures_work {w : Work α} {hub : Hub} {Q : Except HubError α → LiveState → Records → Prop}
    (h : w.Ensures host.Answers hub.live r Q) :
    (work w).Ensures host.HubAnswers hub r fun x hub' r' => Q x hub'.live r' :=
  (Flow.ensures_embed_of Hub.live (fun live hub => { hub with live }) (fun _ _ => rfl)
    (fun _ _ _ => rfl) (fun _ => rfl) (fun _ _ _ _ => Iff.rfl) w.run hub r _).2 h

end Hosted

namespace Hosted

theorem leaves_ask (q : HostService) : (ask q).Leaves Hub.dispatch := fun _ => trivial

theorem leaves_work (w : Work α) : (work w).Leaves Hub.dispatch :=
  .embed w.run (fun _ _ => rfl) fun _ => leaves_ask _

theorem leaves_workAlone (w : TokenId → Work α) : (workAlone w).Leaves Hub.dispatch :=
  .bind (leaves_ask _) fun token => leaves_work (w token)

theorem leaves_callBack (r : Registration) (call : Call) : (callBack r call).Leaves Hub.dispatch := by
  have hcallIn : ∀ context program, (callIn context program call).Leaves Hub.dispatch :=
    fun context program => .bind (leaves_workAlone _) fun _ => trivial
  have hcallInside : ∀ job, (callInside job call).Leaves Hub.dispatch :=
    fun job => .bind (leaves_ask _) fun _ => trivial
  unfold callBack
  split
  · exact hcallIn _ _
  · refine .bind ⟨fun _ => rfl, fun _ => trivial⟩ fun alive => ?_
    split
    · exact hcallInside _
    · trivial
  · refine .bind ⟨fun _ => rfl, fun _ => trivial⟩ fun job => ?_
    cases job with
    | some job => exact hcallInside job
    | none => exact hcallIn _ _

theorem leaves_answerDispatch (q : DispatchService) : (answerDispatch q).Leaves Hub.dispatch := by
  cases q with
  | deliver r call =>
    refine .bind ⟨fun _ => rfl, fun _ => trivial⟩ fun settings => ?_
    refine .embed _ (fun _ _ => rfl) fun q => ?_
    cases q with
    | call r call => exact leaves_callBack r call
    | pause | log => exact leaves_ask _
  | prepare driver => exact .bind (leaves_work _) fun _ => trivial
  | invoke target call => exact leaves_workAlone _
  | _ => exact leaves_ask _

/-- What an operation of the dispatcher comes to in the hub, it comes to with the replies of the hub. -/
theorem ends_dispatching {flow : Dispatching α} {hub hub' : Hub} {a : α}
    (h : Flow.Ends host.HubAnswers (dispatching flow) hub r a hub' r') :
    Flow.Ends host.Replies flow hub.dispatch (hub.live, r) a hub'.dispatch (hub'.live, r') := by
  unfold dispatching at h
  induction flow generalizing hub r with
  | done a =>
    cases h
    exact .done
  | access update next ih =>
    cases h with
    | access rest => exact .access (ih _ rest)
  | ask q next ih =>
    obtain ⟨b, hub₁, r₁, hanswer, hrest⟩ := h.of_bind
    have hsame : hub₁.dispatch = hub.dispatch := (leaves_answerDispatch q).ends hanswer
    have hreply : host.Replies (hub.live, r) q b (hub₁.live, r₁) := ⟨hub, hub₁, rfl, rfl, hanswer⟩
    exact .ask hreply (hsame ▸ ih b hrest)

end Hosted

theorem Host.replies_aside {q : DispatchService} (hq : q.isAside = true) :
    ∀ x l' r', host.Replies (l, r) q x (l', r') → l' = l ∧ r' = r := by
  refine Host.replies_of_ensures ?_
  rintro hub rfl
  cases q with
  | subscribe | unsubscribe | now | armTimer | disarmTimer | log =>
    rintro _ _ rfl
    exact ⟨rfl, rfl⟩
  | _ => cases hq

theorem Host.quiet_replies (host : Host) : Quiet host.Replies := by
  rintro ⟨l, r⟩ q x ⟨l', r'⟩ hq hx
  obtain ⟨rfl, rfl⟩ := Host.replies_aside hq x l' r' hx
  rfl

/-! ### Notes -/

/-- A call of a script, and what came of it. -/
structure ScriptCall where
  target : Target
  call : Call
  answer : Except HubError (Outcome Value)

/-- What there is to note about a question: a call, if it is one. -/
def DispatchService.noted : (q : DispatchService) → q.Answer → List ScriptCall
  | invoke target call, answer => [⟨target, call, answer⟩]
  | _, _ => []

/-- Surroundings that note the calls of scripts. -/
def Surroundings.noting (R : Surroundings dispatchServices W) :
    Surroundings dispatchServices (W × List ScriptCall) :=
  fun w q x w' => R w.1 q x w'.1 ∧ w'.2 = w.2 ++ q.noted x

theorem Surroundings.exists_noting {R : Surroundings dispatchServices W} {flow : Dispatching α}
    {s s' : DispatchState} {w w' : W} {a : α} (h : Flow.Ends R flow s w a s' w')
    (calls : List ScriptCall) :
    ∃ calls', Flow.Ends R.noting flow s (w, calls) a s' (w', calls') := by
  induction h generalizing calls with
  | done => exact ⟨calls, .done⟩
  | access _ ih =>
    obtain ⟨calls', h⟩ := ih calls
    exact ⟨calls', .access h⟩
  | @ask q _ _ w b v _ _ _ answered _ ih =>
    obtain ⟨calls', h⟩ := ih (calls ++ q.noted b)
    exact ⟨calls', .ask (v := (v, calls ++ q.noted b)) ⟨answered, rfl⟩ h⟩

theorem Quiet.noting {R : Surroundings dispatchServices W} (h : Quiet R) : Quiet R.noting := by
  rintro ⟨w, calls⟩ q x ⟨w', calls'⟩ hq ⟨hw, hcalls⟩
  obtain rfl : w' = w := h _ _ _ _ hq hw
  have hnone : q.noted x = [] := by
    cases q with
    | invoke => cases hq
    | _ => rfl
  simp only at hcalls
  rw [hcalls, hnone, List.append_nil]

/-! ### What stays -/

/-- The devices of a driver. -/
def Records.devicesOf (id : DriverId) (r : Records) : List DeviceId :=
  (Dict.values r.devices).filterMap fun device => if device.driver = id then some device.id else none

theorem Records.devicesOf_putSingletons (driver id : DriverId) (json : Json)
    (device : Option (DeviceId × Json)) :
    (r.putSingletons driver json device).devicesOf id = r.devicesOf id := by
  cases device with
  | none => rfl
  | some device =>
    unfold devicesOf
    rw [devices_putSingletons_some]
    unfold Dict.modify Dict.values
    rw [List.map_map, List.filterMap_map, List.filterMap_map]
    refine List.filterMap_congr fun e _ => ?_
    simp only [Function.comp_apply]
    split <;> rfl

/-- The hub after a time in which drivers were only looked up and called: the drivers with their
sources and devices are those of the records `r`. -/
structure Alike (E : Findings) (r : Records) (l' : LiveState) (r' : Records) : Prop where
  catalog : E.In l'.catalog
  keyed : r'.Keyed
  source? : ∀ id, r'.source? id = r.source? id
  devicesOf : ∀ id, r'.devicesOf id = r.devicesOf id

namespace Alike

theorem refl (hl : E.In l.catalog) (hk : r.Keyed) : Alike E r l r :=
  ⟨hl, hk, fun _ => rfl, fun _ => rfl⟩

theorem still (h : Alike E r₀ l r) (hstill : Still E l r l' r') : Alike E r₀ l' r' := by
  obtain ⟨-, rfl, hl⟩ := hstill
  exact { h with catalog := hl }

theorem save (h : Alike E r₀ l r) (hl : E.In l'.catalog) (t : Target) (v : Value)
    (d : Option (DeviceId × Value)) : Alike E r₀ l' (t.save v d r) where
  catalog := hl
  keyed := h.keyed.apply (.putSingletons _ _ _)
  source? id := (Records.source?_putSingletons _ _ _ id).trans (h.source? id)
  devicesOf id := (Records.devicesOf_putSingletons _ id _ _).trans (h.devicesOf id)

end Alike

namespace Host

theorem replies_record {op : RecordOp} (hop : op.isRead) :
    ∀ x l' r', host.Replies (l, r) (.record op) x (l', r') →
      (l' = l ∧ r' = r) ∧ ∀ a, x = Except.ok a → a = op.result r := by
  refine replies_of_ensures ?_
  rintro hub rfl x r' (⟨rfl, rfl⟩ | ⟨e, -, rfl, rfl⟩)
  · refine ⟨⟨rfl, Records.apply_of_isRead hop⟩, ?_⟩
    rintro _ ⟨⟩
    rfl
  · exact ⟨⟨rfl, rfl⟩, nofun⟩

theorem replies_prepare (hE : E.Of host) (hl : E.In l.catalog) (driver : DriverRecord) :
    ∀ x l' r', host.Replies (l, r) (.prepare driver) x (l', r') → Still E l r l' r' ∧
      (∀ program, x = Except.ok program → ∃ info warnings,
        E.source driver.id driver.source (.valid info program warnings)) ∧
      ∀ id diagnostics, x = Except.error (HubError.driverInvalid id diagnostics) →
        E.source driver.id driver.source (.invalid diagnostics) := by
  refine replies_of_ensures ?_
  rintro hub rfl
  have hprepared := DriverRecord.ensures_prepare (r := r) hE hl driver
  refine Flow.Ensures.bind (Hosted.ensures_work hprepared) ?_
  rintro (e | prepared) hub' r' ⟨hstill, hok, herror⟩
  · refine ⟨hstill, nofun, ?_⟩
    rintro id diagnostics ⟨⟩
    exact herror id diagnostics rfl
  · refine ⟨hstill, ?_, nofun⟩
    rintro _ ⟨⟩
    obtain ⟨warnings, hsource⟩ := (hok prepared rfl).source
    exact ⟨prepared.info, warnings, hsource⟩

theorem replies_invoke (hE : E.Of host) (h : Alike E r₀ l r) (t : Target) (call : Call) :
    ∀ x l' r', host.Replies (l, r) (.invoke t call) x (l', r') → Alike E r₀ l' r' := by
  refine replies_of_ensures ?_
  rintro hub rfl token _ rfl
  refine Hosted.ensures_work ?_
  refine (Target.ensures_invocation hE h.catalog t call token fun _ => .ok).mono ?_
  rintro x l' r' (⟨hstill, -⟩ | ⟨_, _, _, _, _, v, d, -, -, -, -, -, -, hl', -, rfl⟩)
  · exact h.still hstill
  · exact h.save hl' t v d

end Host

/-! ### Engines -/

namespace Engine

/-- The answer to a question of the hub, and the records after it. The broker refuses nothing. -/
def answerHub (engine : Engine) (r : Records) : (q : HostService) → q.Answer × Records
  | .service q => engine.answer r q
  | .subscribe _ => (.ok (), r)
  | .unsubscribe _ => (.ok (), r)
  | .now => (0, r)
  | .armTimer .. => ((), r)
  | .disarmTimer _ => ((), r)
  | .callback .. => (.ok (.failed []), r)
  | .pause _ => ((), r)

theorem hubAnswers_answerHub (engine : Engine) (r : Records) (q : HostService) :
    engine.host.HubAnswers r q (engine.answerHub r q).1 (engine.answerHub r q).2 := by
  cases q with
  | service q => exact engine.answers_answer r q
  | _ => rfl

/-- The reply to a question of the dispatcher, with what there is to note about it. -/
def reply (engine : Engine) (w : (LiveState × Records) × List ScriptCall) (q : DispatchService) :
    q.Answer × (LiveState × Records) × List ScriptCall :=
  let out := (Hosted.answerDispatch q).play engine.answerHub { live := w.1.1 } w.1.2
  (out.1, (out.2.1.live, out.2.2), w.2 ++ q.noted out.1)

theorem noting_reply (engine : Engine) (w : (LiveState × Records) × List ScriptCall)
    (q : DispatchService) :
    engine.host.Replies.noting w q (engine.reply w q).1 (engine.reply w q).2 :=
  ⟨⟨{ live := w.1.1 }, _, rfl, rfl,
    Flow.ends_play engine.hubAnswers_answerHub (Hosted.answerDispatch q) { live := w.1.1 } w.1.2⟩, rfl⟩

end Engine

end DriverHub
