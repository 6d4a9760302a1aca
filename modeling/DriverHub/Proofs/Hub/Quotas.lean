import DriverHub.Proofs.Hub.Changing

/-! Drivers and devices come and go and annotations are registered anew, all at the same time. Where
the calls that have to do with a device go one at a time, each of its annotations is registered or
queued at most once when all calls have ended, and a device that was deleted has none. Where they do
not, neither need be so. -/

namespace DriverHub

/-- The calls that annotations depend on. -/
inductive HubCall where
  | createDriver (driver : DriverRecord)
  | applyCode (id : DriverId) (source : String)
  | deleteDriver (id : DriverId)
  | createDevice (device : DeviceRecord)
  | deleteDevice (id : DeviceId)
  | reloadDriver (id : DriverId)
  | reloadDevice (id : DeviceId)
  | retryPending

namespace HubCall

@[reducible]
def Result : HubCall → Type
  | createDriver _ => Except HubError Extraction
  | applyCode .. => Except HubError Extraction
  | deleteDriver _ => Except HubError Unit
  | createDevice _ => Except HubError Unit
  | deleteDevice _ => Except HubError Unit
  | reloadDriver _ => Except DispatchError Nat
  | reloadDevice _ => Except DispatchError Nat
  | retryPending => Nat

def flow : (call : HubCall) → Hosted call.Result
  | createDriver driver => Hub.createDriver driver
  | applyCode id source => Hub.applyCode id source
  | deleteDriver id => Hub.deleteDriver id
  | createDevice device => Hub.createDevice device
  | deleteDevice id => Hub.deleteDevice id
  | reloadDriver id => .dispatching (DispatchAttempt.reloadDriver id).run
  | reloadDevice id => .dispatching (DispatchAttempt.reloadDevice id).run
  | retryPending => .dispatching Dispatching.retryPending

/-- Whether a call has to do with a device, which may belong to one of the drivers. For a retry that
depends on what is queued when it starts. -/
def engages (device : DeviceId) (drivers : List DriverId) : HubCall → Hub → Bool
  | createDriver driver, _ => decide (driver.id ∈ drivers)
  | applyCode id _, _ => decide (id ∈ drivers)
  | deleteDriver id, _ => decide (id ∈ drivers)
  | createDevice record, _ => decide (record.id = device)
  | deleteDevice id, _ => decide (id = device)
  | reloadDriver id, _ => decide (id ∈ drivers)
  | reloadDevice id, _ => decide (id = device)
  | retryPending, hub => hub.dispatch.pending.any (·.annotates none (some device))

end HubCall

abbrev ChangingHub := Flow.Session hostServices Hub Records HubCall.Result

/-- Calls that take turns freely. -/
def HubCall.freely (host : Host) : Flow.Setting hostServices Hub Records HubCall.Result where
  answers := host.HubAnswers
  flow := HubCall.flow
  admits _ := True
  permits _ _ := True

namespace Watch

/-- The calls that have to do with the device go one at a time, and it is created with one of its
drivers. -/
def setting (wt : Watch) : Flow.Setting hostServices Hub Records HubCall.Result where
  answers := wt.host.HubAnswers
  flow := HubCall.flow
  admits
    | .createDevice record => record.id = wt.device → record.driver ∈ wt.drivers
    | _ => True
  permits := Flow.OneAtATime (HubCall.engages wt.device wt.drivers)

/-- The annotations of the device are within its quota. -/
def Rest (wt : Watch) (hub : Hub) (r : Records) : Prop := hub.dispatch.Within wt.device (wt.quota r)

variable {wt : Watch} {hub hub' : Hub} {r r' : Records}

theorem Rest.spares (h : wt.Rest hub r) (hsound : wt.Sound hub r)
    (hspares : wt.matter.spares hub r hub' r') : wt.Rest hub' r' := by
  unfold Rest
  rw [← quota_of_unmoved hsound hspares.2.symm]
  exact DispatchState.Within.spares h hspares.1

/-- A call that goes alone among those that have to do with the device keeps to the quota. -/
theorem guards_call {call : HubCall} (hadmits : wt.setting.admits call) (hsound : wt.Sound hub r)
    (h : call.engages wt.device wt.drivers hub = true → wt.Rest hub r) :
    wt.Guards (call.engages wt.device wt.drivers hub) call.flow hub r fun _ hub' r' =>
      wt.Settled (call.engages wt.device wt.drivers hub) r' hub' r' := by
  have hsettled : wt.Settled (call.engages wt.device wt.drivers hub) r hub r :=
    ⟨hsound, fun hholds => ⟨.refl r, h hholds⟩⟩
  cases call with
  | createDriver driver => exact guards_createDriver decide_eq_true_iff hsettled
  | applyCode id source => exact guards_applyCode decide_eq_true_iff hsettled
  | deleteDriver id => exact guards_deleteDriver decide_eq_true_iff hsettled
  | createDevice record => exact guards_createDevice decide_eq_true_iff hadmits hsettled
  | deleteDevice id => exact guards_deleteDevice decide_eq_true_iff hsettled
  | reloadDriver id =>
    have hbut := hsettled.mono fun s hs => within_but (some id) none hs
    exact (guards_reloadDriver decide_eq_true hbut).mono fun _ _ _ h' => h'.settled
  | reloadDevice id =>
    have hbut := hsettled.mono fun s hs => within_but none (some id) hs
    exact (guards_reloadDevice decide_eq_true hbut).mono fun _ _ _ h' => h'.settled
  | retryPending => exact (guards_retryPending id hsettled).mono fun _ _ _ h' => h'.settled

/-- Where the calls that have to do with a device go one at a time, there are no more registrations
and queued requests for it, when all calls have ended, than annotations in the source of its driver;
and for a device that is not recorded there are none. -/
theorem annotations_within_quota {p : ChangingHub} (hsound : wt.Sound hub r) (hrest : wt.Rest hub r)
    (h : wt.setting.Leads hub r p) (hended : p.AtRest) :
    (∀ driver, (RegisterRequest.callbacks driver wt.device p.state.dispatch.requests).Subperm
      (wt.quota p.surroundings driver)) ∧
    (p.surroundings.owner? wt.device = none →
      ∀ request ∈ p.state.dispatch.requests, request.annotates none (some wt.device) = false) := by
  have hquota : wt.Rest p.state p.surroundings := by
    refine h.at_rest (m := wt.matter) (fun _ _ ht => ht) ?_ ?_ hsound hrest hended
    · exact fun _ _ _ _ hsound hspares h => Rest.spares h hsound hspares
    · intro call hub r hadmits hsound hfirst
      refine Flow.Guarded.mono (guards_call hadmits hsound hfirst) ?_
      intro _ hub' r' h' hholds
      exact (h'.held hholds).2
  refine ⟨hquota, fun hnone request hrequest => ?_⟩
  by_contra hannotates
  rw [Bool.not_eq_false] at hannotates
  obtain ⟨driver, hdriver⟩ := RegisterRequest.exists_annotates hannotates
  have hempty : RegisterRequest.callbacks driver wt.device p.state.dispatch.requests = [] := by
    have hdriver' := hquota driver
    rw [quota_of_no_owner (by rw [hnone]; nofun)] at hdriver'
    exact List.subperm_nil.1 hdriver'
  have hmem : request.function.name ∈
      RegisterRequest.callbacks driver wt.device p.state.dispatch.requests :=
    List.mem_map.2 ⟨request, List.mem_filter.2 ⟨hrequest, hdriver⟩, rfl⟩
  rw [hempty] at hmem
  cases hmem

end Watch

/-! ### Bells -/

instance (wt : Watch) (p : ChangingHub) (t : Flow.Turn hostServices Hub) :
    Decidable (wt.setting.permits p t) :=
  inferInstanceAs (Decidable (Flow.OneAtATime _ _ _))

instance (host : Host) (p : ChangingHub) (t : Flow.Turn hostServices Hub) :
    Decidable ((HubCall.freely host).permits p t) :=
  inferInstanceAs (Decidable True)

namespace Watch

open Engine DispatchAttempt

/-- The bell in the hall. -/
def hallBell : Watch where
  host := bells.host
  analyze := bells.analyze
  reliable := Analyzer.extractions_of bells.deterministic_host
  device := "hall"
  drivers := [bellDriver.id]

/-- The hub with the two bells, which follows changes and has nothing registered yet. -/
def ringing : Hub where
  live := bellHub.1
  dispatch := { broker := true }
  following := true

theorem sound_ringing : hallBell.Sound ringing bellHub.2 := by
  obtain ⟨hl, hk, -⟩ := kept_after (Analyzer.extractions_of bells.deterministic_host) bellOperations
  refine ⟨rfl, nofun, ⟨hl.source, nofun⟩, hk, fun driver howner => ?_⟩
  have hbell : bellHub.2.owner? "hall" = some bellDriver.id := by decide +kernel
  exact List.mem_singleton.2 (Option.some.inj (howner.symm.trans hbell))

theorem rest_ringing (r : Records) : hallBell.Rest ringing r := fun _ => List.nil_subperm

/-- The bell in the hall is reloaded while the one in the attic is reloaded and deleted, and then,
with all bells, once more. -/
def apart : ChangingHub :=
  (Flow.Session.opened hallBell.setting
    [.reloadDevice "hall", .reloadDevice "attic", .deleteDevice "attic", .reloadDriver bellDriver.id]
    ringing bellHub.2).turnsOf hallBell.setting bells.answerHub
    (List.replicate 9 0 ++ List.replicate 12 1 ++ List.replicate 4 2 ++ List.replicate 40 0 ++
      List.replicate 40 1 ++ List.replicate 40 3 ++ List.replicate 40 2)

theorem leads_apart : hallBell.setting.Leads ringing bellHub.2 apart :=
  (Flow.Setting.Leads.opened _ (by simp [setting])).turnsOf bells.hubAnswers_answerHub _

theorem annotations_within_quota_bells :
    apart.AtRest ∧ hallBell.quota apart.surroundings bellDriver.id = ["ring"] ∧
      RegisterRequest.callbacks bellDriver.id "hall" apart.state.dispatch.requests = ["ring"] ∧
      (RegisterRequest.callbacks bellDriver.id "hall" apart.state.dispatch.requests).Subperm
        (hallBell.quota apart.surroundings bellDriver.id) := by
  have hrest : apart.AtRest := by decide +kernel
  obtain ⟨hwithin, -⟩ := annotations_within_quota sound_ringing (rest_ringing _) leads_apart hrest
  exact ⟨hrest, by decide +kernel, by decide +kernel, hwithin bellDriver.id⟩

/-- The bell in the hall is reloaded twice at once: both reloads drop what there is before either
registers the annotation. -/
def twice : ChangingHub :=
  (Flow.Session.opened (HubCall.freely bells.host) [.reloadDevice "hall", .reloadDevice "hall"]
    ringing bellHub.2).turnsOf (HubCall.freely bells.host) bells.answerHub
    (List.replicate 3 0 ++ List.replicate 40 1 ++ List.replicate 40 0)

/-- The bell in the hall is deleted while its annotation is about to be registered. -/
def deleted : ChangingHub :=
  (Flow.Session.opened (HubCall.freely bells.host) [.reloadDevice "hall", .deleteDevice "hall"]
    ringing bellHub.2).turnsOf (HubCall.freely bells.host) bells.answerHub
    (List.replicate 21 0 ++ List.replicate 40 1 ++ List.replicate 40 0)

/-- So an annotation may be registered twice, and one may be left of a device that is gone, where
calls take turns freely. -/
theorem annotations_beyond_quota :
    ((HubCall.freely bells.host).Leads ringing bellHub.2 twice ∧ twice.AtRest ∧
      hallBell.quota twice.surroundings bellDriver.id = ["ring"] ∧
      RegisterRequest.callbacks bellDriver.id "hall" twice.state.dispatch.requests = ["ring", "ring"]) ∧
    ((HubCall.freely bells.host).Leads ringing bellHub.2 deleted ∧ deleted.AtRest ∧
      deleted.surroundings.owner? "hall" = none ∧
      RegisterRequest.callbacks bellDriver.id "hall" deleted.state.dispatch.requests = ["ring"]) := by
  have hopened : ∀ calls, (HubCall.freely bells.host).Leads ringing bellHub.2
      (.opened (HubCall.freely bells.host) calls ringing bellHub.2) :=
    fun calls => .opened calls fun _ _ => trivial
  refine ⟨⟨(hopened _).turnsOf bells.hubAnswers_answerHub _, ?_, ?_, ?_⟩,
    ⟨(hopened _).turnsOf bells.hubAnswers_answerHub _, ?_, ?_, ?_⟩⟩
  all_goals decide +kernel

end Watch

end DriverHub
