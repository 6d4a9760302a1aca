import DriverHub.Proofs.Hub.Courses

/-! Acts by which drivers and devices come and go, in the records and in memory: what each of them
puts somewhere, looks for or takes away, as far as this can be told from the act alone. -/

namespace DriverHub

open CallStep

abbrev HubDeed := LiveState × HubAct

namespace Singletons

def set (c : ConfigTarget) (v : Value) (s : Singletons) : Singletons :=
  match c with
  | .driver id => s.setDriver id v
  | .device id => s.setDevice id v

def remove (c : ConfigTarget) (s : Singletons) : Singletons :=
  match c with
  | .driver id => s.removeDriver id
  | .device id => s.removeDevice id

theorem value?_set (s : Singletons) (c : ConfigTarget) (v : Value) (c' : ConfigTarget) :
    (s.set c v).value? c' = if c' = c then some v else s.value? c' := by
  cases c with
  | driver id => exact s.value?_setDriver id v c'
  | device id => exact s.value?_setDevice id v c'

theorem value?_remove (s : Singletons) (c c' : ConfigTarget) :
    (s.remove c).value? c' = if c' = c then none else s.value? c' := by
  cases c with
  | driver id =>
    cases c' with
    | driver key =>
      simp only [remove, value?, find?_removeDriver, ConfigTarget.driver.injEq]
      exact if_congr eq_comm rfl rfl
    | device key => simp [remove, value?, removeDriver]
  | device id =>
    cases c' with
    | driver key => simp [remove, value?, removeDevice]
    | device key =>
      simp only [remove, value?, find?_removeDevice, ConfigTarget.device.injEq]
      exact if_congr eq_comm rfl rfl

end Singletons

/-! ### Acts -/

/-- Whether an access takes a singleton out: it is not there any more, if it was. -/
def CallStep.takesOut (c : ConfigTarget) : HubAct → Bool
  | .accessed update => ((update { singletons := Singletons.set c .null {} }).singletons.value? c).isNone
  | .asked .. => false

namespace HubAct

/-- The driver or device that has been put into the records. -/
def recorded? : HubAct → Option ConfigTarget
  | .asked (.record (.putDriver record)) (.ok _) => some (.driver record.id)
  | .asked (.record (.putDevice record)) (.ok _) => some (.device record.id)
  | _ => none

/-- The device that has been put into the records, with its driver. -/
def owned? : HubAct → Option (DeviceId × DriverId)
  | .asked (.record (.putDevice record)) (.ok _) => some (record.id, record.driver)
  | _ => none

/-- The driver or device that has been deleted from the records. -/
def deleted? : HubAct → Option ConfigTarget
  | .asked (.record (.deleteDriver id)) (.ok true) => some (.driver id)
  | .asked (.record (.deleteDevice id)) (.ok true) => some (.device id)
  | _ => none

/-- The driver or device that was looked up and is not recorded. -/
def missed? : HubAct → Option ConfigTarget
  | .asked (.record (.driver id)) (.ok none) => some (.driver id)
  | .asked (.record (.device id)) (.ok none) => some (.device id)
  | _ => none

/-- The driver that was looked up and is recorded. -/
def found? : HubAct → Option DriverId
  | .asked (.record (.driver id)) (.ok (some _)) => some id
  | _ => none

end HubAct

namespace HubDeed

open HubAct

def Puts (c : ConfigTarget) (d : HubDeed) : Prop := recorded? d.2 = some c

def Deletes (c : ConfigTarget) (d : HubDeed) : Prop := deleted? d.2 = some c

instance (c : ConfigTarget) (d : HubDeed) : Decidable (Puts c d) :=
  inferInstanceAs (Decidable (recorded? d.2 = some c))

instance (c : ConfigTarget) (d : HubDeed) : Decidable (Deletes c d) :=
  inferInstanceAs (Decidable (deleted? d.2 = some c))

def Misses (c : ConfigTarget) (d : HubDeed) : Prop := missed? d.2 = some c

def FindsDriver (e : DriverId) (d : HubDeed) : Prop := found? d.2 = some e

/-- A device is recorded as one of this driver. -/
def Gives (k : DeviceId) (e : DriverId) (d : HubDeed) : Prop := owned? d.2 = some (k, e)

/-- What is recorded of a driver or device is another now. -/
def Alters (c : ConfigTarget) (d : HubDeed) : Prop := Puts c d ∨ Deletes c d

/-- All devices were looked up, and none is of this driver. -/
def Spares (e : DriverId) (d : HubDeed) : Prop :=
  ∃ devices, d.2 = .asked (.record .devices) (.ok devices) ∧ ∀ device ∈ devices, device.driver ≠ e

def Sets (c : ConfigTarget) (d : HubDeed) : Prop := keeps? c d.2 ≠ none

def TakesOut (c : ConfigTarget) (d : HubDeed) : Prop := takesOut c d.2 = true

/-- The singleton is looked up in memory and there. -/
def Sees (c : ConfigTarget) (d : HubDeed) : Prop :=
  d.2 = .accessed id ∧ d.1.singletons.value? c ≠ none

end HubDeed

namespace HubAct

open HubDeed

/-- An act that neither records nor deletes, and leaves the singletons as they are. -/
structure Silent (act : HubAct) : Prop where
  recorded? : recorded? act = none
  deleted? : deleted? act = none
  singletons : ∀ s, (act.after s).singletons = s.singletons

/-- Each singleton is in memory afterwards if the act sets it, or if it was there and the act does not
take it out. -/
def Places (act : HubAct) : Prop :=
  ∀ c s, (act.after s).singletons.value? c ≠ none ↔
    keeps? c act ≠ none ∨ s.singletons.value? c ≠ none ∧ takesOut c act = false

variable {act : HubAct} {c : ConfigTarget}

theorem silent_look {update : LiveState → LiveState}
    (h : ∀ s, (update s).singletons = s.singletons) : Silent (.accessed update) := ⟨rfl, rfl, h⟩

theorem silent_reads {q : Service} (h : q.Reads) (b : q.Answer) : Silent (.asked q b) := by
  refine ⟨?_, ?_, fun _ => rfl⟩
  all_goals
    cases q with
    | record op => cases op <;> first | rfl | cases h
    | _ => rfl

theorem silent_reading {op : RecordOp} (h : op.isRead) (b : Except RecordError op.Result) :
    Silent (.asked (.record op) b) := silent_reads (q := .record op) h b

theorem silent_fault (op : RecordOp) (e : RecordError) : Silent (.asked (.record op) (.error e)) := by
  refine ⟨?_, ?_, fun _ => rfl⟩ <;> cases op <;> rfl

theorem silent_saving (driver : DriverId) (json : Json) (device : Option (DeviceId × Json))
    (b : Except RecordError Unit) : Silent (.asked (.record (.putSingletons driver json device)) b) :=
  ⟨rfl, rfl, fun _ => rfl⟩

namespace Silent

theorem keeps? (h : Silent act) (c : ConfigTarget) : keeps? c act = none := by
  cases act with
  | accessed update => exact keeps?_of_quiet h.singletons c
  | asked => rfl

theorem takesOut (h : Silent act) (c : ConfigTarget) : takesOut c act = false := by
  cases act with
  | accessed update =>
    have hleaves : ∀ s, (update s).singletons = s.singletons := h.singletons
    simp [CallStep.takesOut, hleaves, Singletons.value?_set]
  | asked => rfl

theorem places (h : Silent act) : Places act := by
  intro c s
  rw [h.singletons, h.keeps?, h.takesOut]
  simp

end Silent

theorem Places.takesOut (h : Places act) (hkeeps : keeps? c act ≠ none) : takesOut c act = false := by
  cases act with
  | accessed update =>
    have hthere := (h c { singletons := Singletons.set c .null {} }).2 (.inl hkeeps)
    exact Option.isNone_eq_false_iff.2 (Option.isSome_iff_ne_none.2 hthere)
  | asked => rfl

theorem of_recorded? (h : recorded? act = some c) : deleted? act = none ∧ ∃ q b, act = .asked q b := by
  unfold recorded? at h
  split at h
  · exact ⟨rfl, _, _, rfl⟩
  · exact ⟨rfl, _, _, rfl⟩
  · cases h

theorem of_deleted? (h : deleted? act = some c) : recorded? act = none ∧ ∃ q b, act = .asked q b := by
  unfold deleted? at h
  split at h
  · exact ⟨rfl, _, _, rfl⟩
  · exact ⟨rfl, _, _, rfl⟩
  · cases h

theorem places_asked (q : Service) (b : q.Answer) : Places (.asked q b) := by
  intro c s
  simp [keeps?, CallStep.takesOut]

/-- An access that adds singletons, or replaces them. -/
structure Adds (act : HubAct) (v : ConfigTarget → Option Value) : Prop where
  keeps? : ∀ c, keeps? c act = v c
  takesOut : ∀ c, takesOut c act = false
  places : Places act

theorem adds_of_value? {update : LiveState → LiveState} {v : ConfigTarget → Option Value}
    (h : ∀ c s, (update s).singletons.value? c = (v c).or (s.singletons.value? c)) :
    Adds (.accessed update) v := by
  have hkeeps (c : ConfigTarget) : CallStep.keeps? c (.accessed update) = v c := by
    refine (h c {}).trans ?_
    cases c <;> exact Option.or_none
  have htakes (c : ConfigTarget) : CallStep.takesOut c (.accessed update) = false := by
    simp [CallStep.takesOut, h, Singletons.value?_set]
  refine ⟨hkeeps, htakes, fun c s => ?_⟩
  rw [hkeeps, htakes, Flow.Act.after_accessed, h]
  cases v c <;> simp

theorem adds_keep (u : Update) : Adds (.accessed u.keep) u.value? :=
  adds_of_value? fun c s => u.value?_keep s c

/-- The singleton of a driver or device is set. -/
@[reducible]
def setting (c : ConfigTarget) (v : Value) : HubAct :=
  .accessed fun s => { s with singletons := s.singletons.set c v }

/-- The singleton of a driver or device is taken out. -/
@[reducible]
def removing (c : ConfigTarget) : HubAct :=
  .accessed fun s => { s with singletons := s.singletons.remove c }

theorem adds_setting (c : ConfigTarget) (v : Value) :
    Adds (setting c v) fun c' => if c' = c then some v else none := by
  refine adds_of_value? fun c' s => ?_
  rw [Singletons.value?_set]
  split <;> rfl

theorem keeps?_removing (c c' : ConfigTarget) : keeps? c' (removing c) = none := by
  refine (Singletons.value?_remove {} c c').trans ?_
  cases c' <;> simp [Singletons.value?]

theorem takesOut_removing (c c' : ConfigTarget) :
    takesOut c' (removing c) = decide (c' = c) := by
  by_cases h : c' = c <;> simp [takesOut, Singletons.value?_remove, Singletons.value?_set, h]

theorem places_removing (c : ConfigTarget) : Places (removing c) := by
  intro c' s
  rw [keeps?_removing, takesOut_removing, Flow.Act.after_accessed, Singletons.value?_remove]
  by_cases h : c' = c <;> simp [h]

end HubAct

namespace HubDeed

open HubAct

variable {d : HubDeed} {c : ConfigTarget} {k : DeviceId} {e : DriverId}

theorem not_puts_of_silent (h : Silent d.2) : ¬ Puts c d := fun hd =>
  absurd (h.recorded?.symm.trans hd) nofun

theorem not_deletes_of_silent (h : Silent d.2) : ¬ Deletes c d := fun hd =>
  absurd (h.deleted?.symm.trans hd) nofun

theorem not_deletes_of_puts (h : Puts c d) : ¬ Deletes c d := fun hd =>
  absurd ((of_recorded? h).1.symm.trans hd) nofun

theorem not_takesOut_of_silent (h : Silent d.2) : ¬ TakesOut c d := fun hd =>
  absurd ((h.takesOut c).symm.trans hd) nofun

theorem puts_of_gives (h : Gives k e d) : Puts (.device k) d := by
  obtain ⟨s, act⟩ := d
  have howned : owned? act = some (k, e) := h
  unfold owned? at howned
  split at howned
  · cases howned
    rfl
  · cases howned

theorem not_gives_of_silent (h : Silent d.2) : ¬ Gives k e d := fun hd =>
  not_puts_of_silent h (puts_of_gives hd)

theorem silent_of_misses (h : Misses c d) : Silent d.2 := by
  obtain ⟨s, act⟩ := d
  have hmissed : missed? act = some c := h
  unfold missed? at hmissed
  split at hmissed
  · exact silent_reading rfl _
  · exact silent_reading rfl _
  · cases hmissed

theorem silent_of_findsDriver (h : FindsDriver e d) : Silent d.2 := by
  obtain ⟨s, act⟩ := d
  have hfound : found? act = some e := h
  unfold found? at hfound
  split at hfound
  · exact silent_reading rfl _
  · cases hfound

theorem silent_of_spares (h : Spares e d) : Silent d.2 := by
  obtain ⟨devices, hact, -⟩ := h
  rw [hact]
  exact silent_reading rfl _

theorem silent_of_sees (h : Sees c d) : Silent d.2 := by
  rw [h.1]
  exact silent_look fun _ => rfl

end HubDeed

/-! ### The records after an act -/

open HubDeed HubAct

namespace Records

/-- A driver or device is recorded. -/
def Holds (r : Records) (c : ConfigTarget) : Prop := r.saved? c ≠ none

variable {r : Records} {c : ConfigTarget}

theorem holds_driver {id : DriverId} : r.Holds (.driver id) ↔ Dict.find? id r.drivers ≠ none :=
  not_congr Option.map_eq_none_iff

theorem holds_device {id : DeviceId} : r.Holds (.device id) ↔ Dict.find? id r.devices ≠ none :=
  not_congr Option.map_eq_none_iff

theorem holds_putDriver (record : DriverRecord) :
    (r.putDriver record).Holds c ↔ .driver record.id = c ∨ r.Holds c := by
  cases c with
  | driver id =>
    rw [holds_driver, holds_driver, find?_putDriver]
    by_cases h : record.id = id <;> simp [h]
  | device id => simp [holds_device, putDriver]

theorem holds_putDevice (record : DeviceRecord) :
    (r.putDevice record).Holds c ↔ .device record.id = c ∨ r.Holds c := by
  cases c with
  | driver id => simp [holds_driver, putDevice]
  | device id =>
    rw [holds_device, holds_device, find?_putDevice]
    by_cases h : record.id = id <;> simp [h]

theorem holds_deleteDriver (id : DriverId) :
    (r.deleteDriver id).Holds c ↔ r.Holds c ∧ .driver id ≠ c := by
  cases c with
  | driver key =>
    rw [holds_driver, holds_driver, find?_deleteDriver]
    by_cases h : id = key <;> simp [h]
  | device id => simp [holds_device, deleteDriver]

theorem holds_deleteDevice (id : DeviceId) :
    (r.deleteDevice id).Holds c ↔ r.Holds c ∧ .device id ≠ c := by
  cases c with
  | driver key => simp [holds_driver, deleteDevice]
  | device key =>
    rw [holds_device, holds_device, find?_deleteDevice]
    by_cases h : id = key <;> simp [h]

theorem holds_putSingletons (driver : DriverId) (json : Json) (device : Option (DeviceId × Json)) :
    (r.putSingletons driver json device).Holds c ↔ r.Holds c := by
  cases c with
  | driver id =>
    rw [holds_driver, holds_driver, find?_drivers_putSingletons]
    split <;> simp
  | device id =>
    cases device with
    | none => rfl
    | some device =>
      rw [holds_device, holds_device, find?_devices_putSingletons]
      split <;> simp

end Records

/-- What an act does to the drivers and devices that are recorded: nothing, or it puts one there, or it
deletes one. -/
inductive Writes (w : Records) : Records → HubAct → Prop
  | spares {w' act} (recorded : recorded? act = none) (deleted : deleted? act = none)
      (holds : ∀ c, w'.Holds c ↔ w.Holds c) (owner : ∀ k, w'.owner? k = w.owner? k) : Writes w w' act
  | putDriver (record : DriverRecord) :
    Writes w (w.putDriver record) (.asked (.record (.putDriver record)) (.ok ()))
  | putDevice (record : DeviceRecord) :
    Writes w (w.putDevice record) (.asked (.record (.putDevice record)) (.ok ()))
  | deletes {key w' act} (deleted : deleted? act = some key)
      (holds : ∀ c, w'.Holds c ↔ w.Holds c ∧ key ≠ c)
      (owner : ∀ k, w'.owner? k = if key = .device k then none else w.owner? k) : Writes w w' act

section

variable {host : Host} {s : LiveState} {act : HubAct} {w w' : Records} {c : ConfigTarget}

theorem Writes.of_silent (h : Silent act) (holds : ∀ c, w'.Holds c ↔ w.Holds c)
    (owner : ∀ k, w'.owner? k = w.owner? k) : Writes w w' act :=
  .spares h.recorded? h.deleted? holds owner

/-- What was deleted is what there was. -/
theorem writes_of_delete (key : ConfigTarget) (act : Bool → HubAct) {there : Bool}
    (hthere : there = true ↔ w.Holds key) (holds : ∀ c, w'.Holds c ↔ w.Holds c ∧ key ≠ c)
    (owner : ∀ k, w'.owner? k = if key = .device k then none else w.owner? k)
    (hdeleted : deleted? (act true) = some key)
    (hmissing : recorded? (act false) = none ∧ deleted? (act false) = none) :
    Writes w w' (act there) := by
  cases there with
  | true => exact .deletes hdeleted holds owner
  | false =>
    have hgone : ¬ w.Holds key := fun hkey => absurd (hthere.2 hkey) nofun
    refine .spares hmissing.1 hmissing.2 (fun c => ?_) fun k => ?_
    · have hne : w.Holds c → key ≠ c := by
        rintro hc rfl
        exact hgone hc
      rw [holds c, and_iff_left_of_imp hne]
    · rw [owner k]
      split
      · next hk =>
        subst hk
        rw [Records.holds_device, not_not] at hgone
        exact (Option.map_eq_none_iff.2 hgone).symm
      · rfl

theorem writes_of_answered (h : act.Answered host.Answers w w') : Writes w w' act := by
  cases act with
  | accessed update =>
    obtain rfl : w' = w := h
    exact .spares rfl rfl (fun _ => Iff.rfl) fun _ => rfl
  | asked q b =>
    by_cases hreads : q.Reads
    · obtain rfl := hreads.eq_of_answers h
      exact .of_silent (silent_reads hreads b) (fun _ => Iff.rfl) fun _ => rfl
    cases q with
    | record op =>
      rcases h with ⟨rfl, rfl⟩ | ⟨e, -, rfl, rfl⟩
      · cases op with
        | putDriver record => exact .putDriver record
        | putDevice record => exact .putDevice record
        | deleteDriver id =>
          have hthere : Dict.contains id w.drivers = true ↔ w.Holds (.driver id) := by
            rw [Records.holds_driver, Dict.contains_eq, Option.isSome_iff_ne_none]
          exact writes_of_delete (.driver id)
            (fun there => .asked (.record (.deleteDriver id)) (.ok there)) hthere
            (fun _ => Records.holds_deleteDriver id) (fun _ => rfl) rfl ⟨rfl, rfl⟩
        | deleteDevice id =>
          have hthere : Dict.contains id w.devices = true ↔ w.Holds (.device id) := by
            rw [Records.holds_device, Dict.contains_eq, Option.isSome_iff_ne_none]
          refine writes_of_delete (.device id)
            (fun there => .asked (.record (.deleteDevice id)) (.ok there)) hthere
            (fun _ => Records.holds_deleteDevice id) (fun k => ?_) rfl ⟨rfl, rfl⟩
          exact (Records.owner?_deleteDevice id k).trans (if_congr (by simp) rfl rfl)
        | putSingletons driver json device =>
          exact .of_silent (silent_saving ..) (fun _ => Records.holds_putSingletons driver json device)
            fun k => Records.owner?_putSingletons driver json device k
        | putScript record =>
          exact .spares rfl rfl (fun c => by cases c <;> rfl) fun _ => rfl
        | _ => exact absurd rfl hreads
      · exact .of_silent (silent_fault op e) (fun _ => Iff.rfl) fun _ => rfl
    | _ => exact absurd trivial hreads

/-- After an act, what it has put into the records is there, and what was there before, unless the act
has deleted it. -/
theorem holds_iff (h : act.Answered host.Answers w w') (c : ConfigTarget) :
    w'.Holds c ↔ Puts c (s, act) ∨ w.Holds c ∧ ¬ Deletes c (s, act) := by
  cases writes_of_answered h with
  | spares recorded deleted holds => simp [Puts, Deletes, recorded, deleted, holds]
  | putDriver record => simp [Puts, Deletes, recorded?, deleted?, Records.holds_putDriver]
  | putDevice record => simp [Puts, Deletes, recorded?, deleted?, Records.holds_putDevice]
  | deletes deleted holds => simp [Puts, Deletes, (of_deleted? deleted).1, deleted, holds]

/-- After an act, a device is of the driver that the act has given it to, or of the same as before, if
the act has neither put it into the records nor deleted it. -/
theorem owner?_iff (h : act.Answered host.Answers w w') (k : DeviceId) (e : DriverId) :
    w'.owner? k = some e ↔ Gives k e (s, act) ∨ w.owner? k = some e ∧ ¬ Alters (.device k) (s, act) := by
  cases writes_of_answered h with
  | spares recorded deleted _ owner =>
    have hputs : ¬ Puts (.device k) (s, act) := fun h => absurd (recorded.symm.trans h) nofun
    have hgives : ¬ Gives k e (s, act) := fun h => hputs (puts_of_gives h)
    simp [hgives, Alters, hputs, Deletes, deleted, owner]
  | putDriver record =>
    have hsame : (w.putDriver record).owner? k = w.owner? k := rfl
    simp [Gives, Alters, Puts, Deletes, owned?, recorded?, deleted?, hsame]
  | putDevice record =>
    rw [Records.owner?_putDevice]
    by_cases hk : record.id = k <;>
      simp [Gives, Alters, Puts, Deletes, owned?, recorded?, deleted?, hk]
  | @deletes key _ _ deleted _ owner =>
    have hputs : ¬ Puts (.device k) (s, act) := fun h =>
      absurd ((of_deleted? deleted).1.symm.trans h) nofun
    have hgives : ¬ Gives k e (s, act) := fun h => hputs (puts_of_gives h)
    by_cases hk : key = .device k <;>
      simp [hgives, Alters, hputs, Deletes, deleted, owner, hk]

theorem eq_result_of_answered {op : RecordOp} {b : op.Result}
    (h : act.Answered host.Answers w w') (hact : act = .asked (.record op) (.ok b)) :
    b = op.result w := by
  subst hact
  rcases h with ⟨hanswer, -⟩ | ⟨e, -, hanswer, -⟩
  · exact Except.ok.inj hanswer
  · cases hanswer

theorem not_holds_of_misses (h : act.Answered host.Answers w w') (hd : Misses c (s, act)) :
    ¬ w.Holds c := by
  have hmissed : missed? act = some c := hd
  unfold missed? at hmissed
  split at hmissed
  · obtain rfl := Option.some.inj hmissed
    exact fun hholds => Records.holds_driver.1 hholds (eq_result_of_answered h rfl).symm
  · obtain rfl := Option.some.inj hmissed
    exact fun hholds => Records.holds_device.1 hholds (eq_result_of_answered h rfl).symm
  · cases hmissed

theorem holds_of_findsDriver {e : DriverId} (h : act.Answered host.Answers w w')
    (hd : FindsDriver e (s, act)) : w.Holds (.driver e) := by
  have hfound : found? act = some e := hd
  unfold found? at hfound
  split at hfound
  · next id record =>
    obtain rfl := Option.some.inj hfound
    have hfind : some record = Dict.find? id w.drivers := eq_result_of_answered h rfl
    rw [Records.holds_driver, ← hfind]
    nofun
  · cases hfound

theorem owner?_ne_of_spares {k : DeviceId} {e : DriverId} (h : act.Answered host.Answers w w')
    (hd : Spares e (s, act)) : w.owner? k ≠ some e := by
  obtain ⟨devices, hact, hspared⟩ := hd
  obtain rfl : devices = Dict.values w.devices := eq_result_of_answered h hact
  intro howner
  obtain ⟨device, hfind, hdriver⟩ := Option.map_eq_some_iff.1 howner
  exact hspared device (Dict.mem_values.2 ⟨k, Dict.mem_of_find? hfind⟩) hdriver

end

end DriverHub
