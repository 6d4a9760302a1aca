import DriverHub.Proofs.Hub.Operation

/-! New code that fails halfway. Nothing is undone then: what was saved stays saved, under the source
that is still recorded. -/

namespace DriverHub

variable {host : Host} {E : Findings} {l l' : LiveState} {r r' : Records}

/-- The records of some devices of a driver have come under new code, the first ones in the order of
the records, and nothing else has. -/
structure CutShort (E : Findings) (id : DriverId) (source : String) (s : Singletons)
    (moved : List DeviceRecord) (r r' : Records) : Prop where
  first : moved <+: (Dict.values r.devices).filter (·.driver = id)
  drivers : r'.drivers = r.drivers
  scripts : r'.scripts = r.scripts
  saved : ∀ device ∈ moved, ∃ old before info program warnings v,
    Dict.find? id r.drivers = some old ∧ E.source id old.source before ∧
    E.source id source (.valid info program warnings) ∧ Dict.find? device.id s.devices = some v ∧
    Dict.find? device.id r'.devices = some { device with
      singleton := some (info.deviceSchema.carryOver v device.singleton !before.isValid).toJson }
  others : ∀ k, (∀ device ∈ moved, device.id ≠ k) → Dict.find? k r'.devices = Dict.find? k r.devices

namespace Work

/-- Giving a driver new code that fails changes nothing in memory. The records are as they were too,
unless it was a write to them that failed: then the first devices of the driver may be saved under
the new schema, while the old source is recorded still. -/
theorem applyCode_failed (hE : E.Of host) (hl : E.In l.catalog) (hk : r.Keyed)
    (ha : Agree l.singletons r) {id : DriverId} {source : String} {e : HubError}
    (ends : Flow.Ends host.Answers (applyCode id source).run l r (.error e) l' r') :
    l'.singletons = l.singletons ∧ ∃ moved, CutShort E id source l.singletons moved r r' ∧
      (moved = [] → r' = r) ∧
      (moved ≠ [] → ∃ op fault, op.isRead = false ∧ host.faults op fault ∧ e = .record fault) := by
  have hend := (Flow.ensures_iff _ _ _ _).1 (ensures_applyCode hE hl hk ha id source) _ _ _ ends
  cases hend with
  | refused _ _ kept =>
    exact ⟨kept, [], ⟨List.nil_prefix, rfl, rfl, nofun, fun _ _ => rfl⟩, fun _ => rfl, (absurd rfl ·)⟩
  | @stopped old before info program warnings moved op fault _ recorded known found _ first write
      failed kept =>
    have hown : ∀ device ∈ moved, device ∈ Dict.values r.devices ∧ device.driver = id := by
      intro device hmem
      simpa using List.mem_filter.1 (first.subset hmem)
    refine ⟨kept, moved, ⟨first, rfl, rfl, ?_, ?_⟩, ?_, fun _ => ⟨op, fault, write, failed, rfl⟩⟩
    · intro device hmem
      obtain ⟨hdevice, howner⟩ := hown device hmem
      obtain ⟨v, hv, -⟩ := ha.exists_device (hk.mem_devices.1 hdevice)
      refine ⟨old, before, info, program, warnings, v, recorded, known, found, hv, ?_⟩
      rw [← carried_of_find? hv]
      exact find?_saveAnew_of_mem hk (fun d hd => (hown d hd).1) hmem howner
    · intro k hne
      exact find?_saveAnew_of_ne fun device hmem _ => hne device hmem
    · rintro rfl
      rfl

end Work

namespace Engine

/-- The host that an engine makes where some operations on records fail. -/
def failing (engine : Engine) (fails : RecordOp → Option RecordError) : Host :=
  { engine.host with faults := fun op e => fails op = some e }

def answerFailing (engine : Engine) (fails : RecordOp → Option RecordError) (r : Records) :
    (q : Service) → q.Answer × Records
  | .record op =>
    match fails op with
    | some e => (.error e, r)
    | none => (.ok (op.result r), op.apply r)
  | q => engine.answer r q

theorem answers_answerFailing (engine : Engine) (fails : RecordOp → Option RecordError) (r : Records)
    (q : Service) : (engine.failing fails).Answers r q (engine.answerFailing fails r q).1
      (engine.answerFailing fails r q).2 := by
  cases q with
  | record op =>
    unfold answerFailing
    simp only
    split
    · next e he => exact .inr ⟨e, he, rfl, rfl⟩
    · exact .inl ⟨rfl, rfl⟩
  | analyze | compile | run => exact ⟨rfl, rfl⟩
  | newToken | startDeadline | stopDeadline | log => rfl

/-- A disk on which the record of the switch in the hall cannot be written. -/
def hallFails : RecordOp → Option RecordError
  | .putDevice record => if record.id = "hall" then some (.io "records.json" .notFound) else none
  | _ => none

/-- The end of new code for the switches on such a disk. -/
def cutShort : Except HubError Extraction × LiveState × Records :=
  (Work.applyCode switchDriver.id "switch").run.play (switches.answerFailing hallFails) switchHub.1
    switchHub.2

theorem ends_cutShort : Flow.Ends (switches.failing hallFails).Answers
    (Work.applyCode switchDriver.id "switch").run switchHub.1 switchHub.2 cutShort.1 cutShort.2.1
    cutShort.2.2 :=
  Flow.ends_play (switches.answers_answerFailing hallFails) _ _ _

/-- The switch in the attic has lost its level in the records. -/
theorem records_cutShort : cutShort.2.2 ≠ switchHub.2 := by
  intro h
  let attic (r : Records) := (Dict.find? "attic" r.devices).bind (·.singleton)
  have hbefore : attic switchHub.2 = some (.obj [("label", .null), ("level", .float ⟨.zero, rfl⟩)]) := rfl
  have hafter : attic cutShort.2.2 = some (.obj [("label", .null)]) := rfl
  rw [h, hbefore] at hafter
  cases hafter

end Engine

namespace Work

open Engine

theorem applyCode_failed_switches :
    switchHub.2.Keyed ∧ Agree switchHub.1.singletons switchHub.2 ∧
    cutShort.1 = .error (.record (.io "records.json" .notFound)) ∧
    cutShort.2.1.singletons = switchHub.1.singletons ∧
    ∃ moved, moved ≠ [] ∧
      CutShort .anything switchDriver.id "switch" switchHub.1.singletons moved switchHub.2 cutShort.2.2 := by
  obtain ⟨-, hk, ha⟩ := kept_after (Findings.anything_of switches.host) switchOperations
  obtain ⟨hkept, moved, hcut, hempty, -⟩ := applyCode_failed (Findings.anything_of _)
    (Findings.anything_in _) hk ha ends_cutShort
  exact ⟨hk, ha, rfl, hkept, moved, fun h => records_cutShort (hempty h), hcut⟩

/-- So new code that fails may leave something behind. -/
theorem applyCode_failed_not_undone :
    ¬ ∀ (host : Host) (l l' : LiveState) (r r' : Records) (id : DriverId) (source : String) (e : HubError),
      r.Keyed → Agree l.singletons r →
      Flow.Ends host.Answers (applyCode id source).run l r (.error e) l' r' →
      l'.singletons = l.singletons ∧ r' = r := by
  intro h
  obtain ⟨-, hk, ha⟩ := kept_after (Findings.anything_of switches.host) switchOperations
  exact records_cutShort (h _ _ _ _ _ _ _ _ hk ha ends_cutShort).2

end Work

end DriverHub
