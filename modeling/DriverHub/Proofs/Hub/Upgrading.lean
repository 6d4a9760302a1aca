import DriverHub.Proofs.Hub.Operation
import DriverHub.Proofs.Hub.Replies

/-! New valid code for a driver that is valid already, in a hub that does not follow changes. The
singletons of the driver and of its devices, however many these are, migrate from the values in
memory, and nothing else changes. -/

namespace DriverHub

variable {host : Host} {l l' : LiveState} {r r' : Records} {id : DriverId} {source : String}
  {info : DriverInfo} {α : Type}

/-- Whenever a source is analyzed, it turns out to be as `P` says. -/
def Host.Reads (host : Host) (id : DriverId) (source : String) (P : Extraction → Prop) : Prop :=
  ∀ x, host.analyzes id.programId source x → ∃ analysis, x = .ok analysis ∧ P analysis.extraction

/-- A driver and its devices have migrated to what their new code declares, in memory and in their
records, which are otherwise as they were. All else is as it was. -/
structure Migrated (id : DriverId) (source : String) (info : DriverInfo) (s s' : Singletons)
    (r r' : Records) : Prop where
  driver : ∃ old v, Dict.find? id r.drivers = some old ∧ Dict.find? id s.drivers = some v ∧
    Dict.find? id s'.drivers = some (info.driverSchema.migrate v) ∧
    Dict.find? id r'.drivers = some { old with
      source, singleton := some (info.driverSchema.migrate v).toJson }
  devices : ∀ k device, Dict.find? k r.devices = some device → device.driver = id →
    ∃ v, Dict.find? k s.devices = some v ∧
      Dict.find? k s'.devices = some (info.deviceSchema.migrate v) ∧
      Dict.find? k r'.devices = some { device with
        singleton := some (info.deviceSchema.migrate v).toJson }
  otherDrivers : ∀ key ≠ id, Dict.find? key s'.drivers = Dict.find? key s.drivers ∧
    Dict.find? key r'.drivers = Dict.find? key r.drivers
  otherDevices : ∀ k, r.owner? k ≠ some id → Dict.find? k s'.devices = Dict.find? k s.devices ∧
    Dict.find? k r'.devices = Dict.find? k r.devices
  scripts : r'.scripts = r.scripts

namespace Host

variable {P : Extraction → Prop}

theorem Reads.of_found (h : host.Reads id source P) {e : Extraction}
    (found : host.findings.source id source e) : P e := by
  obtain ⟨analysis, hanalyzes, rfl⟩ := found
  obtain ⟨_, hx, hP⟩ := h _ hanalyzes
  cases hx
  exact hP

theorem Reads.answered (h : host.Reads id source P) (e : EngineError) :
    ¬ host.analyzes id.programId source (.error e) := by
  intro hfailed
  obtain ⟨_, hx, -⟩ := h _ hfailed
  cases hx

theorem exists_hubAnswers (host : Host) (r : Records) (q : HostService) :
    ∃ x r', host.HubAnswers r q x r' := by
  cases q with
  | service q => exact host.exists_answers r q
  | subscribe | unsubscribe => exact ⟨.ok (), r, rfl⟩
  | now => exact ⟨(0 : Int), r, rfl⟩
  | armTimer | disarmTimer | pause => exact ⟨(), r, rfl⟩
  | callback => exact ⟨.ok (.failed []), r, rfl⟩

end Host

namespace Work

/-- New code that is always found valid, for a driver whose code is, migrates its singletons. -/
theorem ensures_migrated (hf : host.Faultless) (hl : host.findings.In l.catalog) (hk : r.Keyed)
    (ha : Agree l.singletons r) {old : DriverRecord}
    (recorded : Dict.find? id r.drivers = some old) (current : host.Reads id old.source (·.isValid))
    (next : host.Reads id source (·.info? = some info)) :
    (applyCode id source).Ensures host.Answers l r fun x l' r' =>
      (∃ e, x = .ok e ∧ e.info? = some info) ∧
        Migrated id source info l.singletons l'.singletons r r' := by
  refine (ensures_applyCode host.findings_of hl hk ha id source).mono ?_
  intro x l' r' h
  cases h with
  | refused reason =>
    cases reason with
    | unknown absent =>
      rw [recorded] at absent
      cases absent
    | engine recorded' failed =>
      obtain rfl := Option.some.inj (recorded.symm.trans recorded')
      rcases failed with failed | failed
      · exact absurd failed (current.answered _)
      · exact absurd failed (next.answered _)
    | record failed => exact absurd failed (hf _ _)
  | invalid _ found => cases next.of_found found
  | stopped _ _ _ _ _ _ failed => exact absurd failed (hf _ _)
  | @valid _ before info' _ _ v w _ _ recorded' known found _ value carried valueAfter recordAfter
      devices scripts =>
    obtain rfl := Option.some.inj (recorded.symm.trans recorded')
    obtain rfl : info' = info := Option.some.inj (next.of_found found)
    have hvalid : before.isValid = true := current.of_found known
    -- as the driver had a schema, what is in memory counts and not what is saved
    have hmigrate : ∀ (schema : Schema) v saved,
        schema.carryOver v saved (!before.isValid) = schema.migrate v := by
      intro schema v saved
      rw [hvalid]
      cases saved <;> rfl
    rw [hmigrate] at carried
    subst carried
    refine ⟨⟨_, rfl, rfl⟩, ⟨old, v, recorded, value, ?_, ?_⟩, ?_, ?_, ?_, scripts⟩
    · rw [valueAfter, Dict.find?_insert, if_pos rfl]
    · rw [recordAfter, Dict.find?_insert, if_pos rfl]
    · intro k device hdevice howner
      obtain ⟨u, hu, -⟩ := ha.exists_device hdevice
      refine ⟨u, hu, ?_⟩
      rw [← hmigrate]
      exact devices.own k device u hdevice howner hu
    · intro key hne
      rw [valueAfter, recordAfter, Dict.find?_insert, Dict.find?_insert, if_neg hne.symm,
        if_neg hne.symm]
      exact ⟨rfl, rfl⟩
    · intro k hne
      refine devices.others k fun device hdevice howner => hne ?_
      rw [Records.owner?_of_find? hdevice, howner]

end Work

namespace Hosted

theorem leaves_following_work (w : Work α) : (work w).Leaves Hub.following :=
  .embed w.run (fun _ _ => rfl) fun _ _ => trivial

theorem ensures_unfollowed {w : Work α} {hub : Hub} (hfollowing : hub.following = false)
    {Q : Except HubError α → LiveState → Records → Prop} (h : w.Ensures host.Answers hub.live r Q) :
    ((work w).afterwards fun _ => driverChanged id).Ensures host.HubAnswers hub r
      fun x hub' r' => Q x hub'.live r' ∧ hub'.dispatch = hub.dispatch := by
  have hwork : (work w).Ensures host.HubAnswers hub r fun x hub' r' => Q x hub'.live r' ∧
      hub'.dispatch = hub.dispatch ∧ hub'.following = false := by
    rw [Flow.ensures_iff]
    intro x hub' r' ends
    refine ⟨(ensures_work h).ends ends, ?_, ?_⟩
    · exact (leaves_work w).ends ends
    · exact ((leaves_following_work w).ends ends).trans hfollowing
  unfold afterwards
  refine Flow.Ensures.bind hwork ?_
  rintro (e | a) hub' r' ⟨hQ, hdispatch, hstill⟩
  · exact ⟨hQ, hdispatch⟩
  · unfold driverChanged
    refine (Flow.ensures_bind _ _ _ _ _).2 (Flow.Ensures.bind (P := fun following hub₁ r₁ =>
      following = false ∧ hub₁ = hub' ∧ r₁ = r') ⟨hstill, rfl, rfl⟩ ?_)
    rintro _ _ _ ⟨rfl, rfl, rfl⟩
    exact ⟨hQ, hdispatch⟩

end Hosted

namespace Hub

/-- Where operations on records succeed, a hub that does not follow changes always comes to an end of
giving valid new code to a valid driver, and at each end exactly the singletons of this driver and of
its devices have migrated. -/
theorem applyCode_migrates (hf : host.Faultless) {hub : Hub} (hfollowing : hub.following = false)
    (hl : host.findings.In hub.live.catalog) (hk : r.Keyed) (ha : Agree hub.live.singletons r)
    {old : DriverRecord} (recorded : Dict.find? id r.drivers = some old)
    (current : host.Reads id old.source (·.isValid))
    (next : host.Reads id source (·.info? = some info)) :
    (∃ x hub' r', Flow.Ends host.HubAnswers (applyCode id source) hub r x hub' r') ∧
    ∀ x hub' r', Flow.Ends host.HubAnswers (applyCode id source) hub r x hub' r' →
      (∃ e, x = .ok e ∧ e.info? = some info) ∧
      Migrated id source info hub.live.singletons hub'.live.singletons r r' ∧
      hub'.dispatch = hub.dispatch := by
  refine ⟨Flow.exists_ends host.exists_hubAnswers _ hub r, ?_⟩
  intro x hub' r' ends
  obtain ⟨⟨hvalid, hmigrated⟩, hdispatch⟩ := (Hosted.ensures_unfollowed hfollowing
    (Work.ensures_migrated hf hl hk ha recorded current next)).ends ends
  exact ⟨hvalid, hmigrated, hdispatch⟩

end Hub

namespace Engine

/-- Another driver of switches. -/
def spareDriver : DriverRecord := { switchDriver with id := ⟨"acme", "spare"⟩ }

/-- The switches in the attic and the hall, and one of the other driver in the shed. -/
def spareHub : LiveState × Records :=
  switches.after (switchOperations ++ [.createDriver spareDriver,
    .createDevice { switchIn "shed" with driver := spareDriver.id }]) ({}, {})

theorem reads_dimmer : switches.host.Reads switchDriver.id "dimmer" (·.isValid) := by
  rintro x rfl
  exact ⟨_, rfl, rfl⟩

theorem reads_switch : switches.host.Reads switchDriver.id "switch" (·.info? = some switchInfo) := by
  rintro x rfl
  exact ⟨_, rfl, rfl⟩

end Engine

open Engine in
/-- Both switches of the driver lose their level, and the one in the hall keeps its label. The switch
in the shed keeps its level too. -/
theorem Hub.applyCode_migrates_switches :
    ∃ x hub' r', Flow.Ends switches.host.HubAnswers (applyCode switchDriver.id "switch")
      { live := spareHub.1 } spareHub.2 x hub' r' ∧
      Migrated switchDriver.id "switch" switchInfo spareHub.1.singletons hub'.live.singletons
        spareHub.2 r' ∧
      Dict.find? "attic" hub'.live.singletons.devices = some (.object [("label", .absent)]) ∧
      Dict.find? "hall" hub'.live.singletons.devices =
        some (.object [("label", .present (.str "hall"))]) ∧
      Dict.find? "shed" hub'.live.singletons.devices =
        some (.object [("label", .absent), ("level", .float .zero)]) := by
  obtain ⟨hl, hk, ha⟩ := kept_after switches.host.findings_of (switchOperations ++
    [.createDriver spareDriver, .createDevice { switchIn "shed" with driver := spareDriver.id }])
  have hfollowing : Hub.following { live := spareHub.1 } = false := rfl
  obtain ⟨⟨x, hub', r', ends⟩, hends⟩ := applyCode_migrates switches.host_faultless hfollowing hl hk ha
    rfl reads_dimmer reads_switch
  obtain ⟨-, hmigrated, -⟩ := hends x hub' r' ends
  refine ⟨x, hub', r', ends, hmigrated, ?_, ?_, ?_⟩
  · obtain ⟨v, hv, hafter, -⟩ := hmigrated.devices "attic" _ rfl rfl
    obtain rfl : Value.object [("label", .absent), ("level", .float .zero)] = v := Option.some.inj hv
    exact hafter
  · obtain ⟨v, hv, hafter, -⟩ := hmigrated.devices "hall" _ rfl rfl
    obtain rfl : Value.object [("label", .present (.str "hall")), ("level", .float ⟨7⟩)] = v :=
      Option.some.inj hv
    exact hafter
  · exact (hmigrated.otherDevices "shed" (by decide)).1

end DriverHub
