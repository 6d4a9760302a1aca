import DriverHub.Proofs.Flow.History
import DriverHub.Proofs.Hub.Acts

/-! What creations, deletions and calls do, each told by its deeds: most of them only look, and the
few others come one right after the other, first in the records and then in memory. -/

namespace DriverHub

open CallStep

/-! ### Silent deeds, and the others among them -/

open HubAct HubDeed

/-- All deeds are silent, or some of them that come one after the other are as `P` says of them and of
those before them. Where all are silent, the result is as `idle` says. -/
inductive Once {α : Type} (idle : α → Prop) (P : List HubDeed → List HubDeed → Prop) (x : α) :
    List HubDeed → Prop
  | silent {ds} (silent : ∀ d ∈ ds, Silent d.2) (result : idle x) : Once idle P x ds
  | loud {before loud after} (silent_before : ∀ d ∈ before, Silent d.2)
      (silent_after : ∀ d ∈ after, Silent d.2) (core : P before loud) :
    Once idle P x (before ++ (loud ++ after))

theorem exists_of_append_eq_left {A : Type} {before rest l r : List A} {a : A}
    (h : before ++ rest = l ++ a :: r) (ha : a ∉ before) :
    ∃ left, l = before ++ left ∧ rest = left ++ a :: r := by
  rcases List.append_eq_append_iff.1 h with ⟨left, hl, hrest⟩ | ⟨more, rfl, hmore⟩
  · exact ⟨left, hl, hrest⟩
  · cases more with
    | nil => exact ⟨[], by simp, hmore.symm⟩
    | cons b more =>
      obtain ⟨rfl, -⟩ := List.cons.inj hmore
      simp at ha

theorem exists_of_append_eq_right {A : Type} {first after l r : List A} {a : A}
    (h : first ++ after = l ++ a :: r) (ha : a ∉ after) :
    ∃ right, first = l ++ a :: right ∧ r = right ++ after := by
  rcases List.append_eq_append_iff.1 h with ⟨more, rfl, rfl⟩ | ⟨more, rfl, hmore⟩
  · simp at ha
  · cases more with
    | nil =>
      subst hmore
      simp at ha
    | cons b right =>
      obtain ⟨rfl, rfl⟩ := List.cons.inj hmore
      exact ⟨right, rfl, rfl⟩

namespace Once

variable {α β : Type} {idle : α → Prop} {idle' : β → Prop}
  {P P' : List HubDeed → List HubDeed → Prop} {x : α} {y : β} {ds more l r : List HubDeed} {d : HubDeed}

theorem after (h : Once idle P x more) (hds : ∀ d ∈ ds, Silent d.2) (hidle : idle x → idle' y)
    (hP : ∀ before loud, P before loud → P' (ds ++ before) loud) : Once idle' P' y (ds ++ more) := by
  cases h with
  | silent silent hx =>
    refine .silent (fun d hd => ?_) (hidle hx)
    exact (List.mem_append.1 hd).elim (hds d) (silent d)
  | loud silent_before silent_after core =>
    rw [← List.append_assoc]
    refine .loud (fun d hd => ?_) silent_after (hP _ _ core)
    exact (List.mem_append.1 hd).elim (hds d) (silent_before d)

theorem weaken (h : Once idle P x more) (hidle : idle x → idle' y)
    (hP : ∀ before loud, P before loud → P' before loud) : Once idle' P' y more :=
  have hafter : Once idle' P' y ([] ++ more) := h.after nofun hidle hP
  hafter

theorem before (h : Once idle P x ds) (hmore : ∀ d ∈ more, Silent d.2) (hidle : idle x → idle' y) :
    Once idle' P y (ds ++ more) := by
  cases h with
  | silent silent hx =>
    refine .silent (fun d hd => ?_) (hidle hx)
    exact (List.mem_append.1 hd).elim (silent d) (hmore d)
  | loud silent_before silent_after core =>
    rw [List.append_assoc, List.append_assoc]
    refine .loud silent_before (fun d hd => ?_) core
    exact (List.mem_append.1 hd).elim (silent_after d) (hmore d)

theorem split (h : Once idle P x ds) (hds : ds = l ++ d :: r) (hd : ¬ Silent d.2) :
    ∃ before left right after, P before (left ++ d :: right) ∧ l = before ++ left ∧
      r = right ++ after := by
  cases h with
  | silent silent =>
    subst hds
    exact absurd (silent d (by simp)) hd
  | @loud before loud after silent_before silent_after hP =>
    obtain ⟨left, hl, hrest⟩ := exists_of_append_eq_left hds fun h => hd (silent_before d h)
    obtain ⟨right, rfl, hr⟩ := exists_of_append_eq_right hrest fun h => hd (silent_after d h)
    exact ⟨before, left, right, after, hP, hl, hr⟩

end Once

theorem Looking.does {α : Type} {flow : Flow services LiveState α} (h : Looking flow) :
    flow.Does fun _ ds => ∀ d ∈ ds, Silent d.2 :=
  Flow.does_forall h.leaves h.reads (fun _ hupdate => silent_look hupdate)
    fun _ b hreads => silent_reads hreads b

namespace Work

variable {α β : Type} {idle : Except HubError β → Prop} {P : List HubDeed → List HubDeed → Prop}

/-- All that an operation does is silent, and a value that it ends with comes from such deeds. -/
def Learns (work : Work α) (F : α → List HubDeed → Prop) : Prop :=
  work.Does fun x ds => (∀ d ∈ ds, Silent d.2) ∧ ∀ a, x = .ok a → F a ds

theorem Looks.learns {work : Work α} (h : work.Looks) : work.Learns fun _ _ => True :=
  Attempt.Does.mono (Looking.does h) fun _ _ hds => ⟨hds, fun _ _ => trivial⟩

theorem Learns.first {first : Work α} {k : α → Work β} {F : α → List HubDeed → Prop}
    (h : first.Learns F) (herror : ∀ e, idle (.error e))
    (hk : ∀ a ds, F a ds → ∃ P', (k a).Does (Once idle P') ∧
      ∀ before loud, P' before loud → P (ds ++ before) loud) :
    (first >>= k).Does (Once idle P) := by
  refine Attempt.Does.bind h ?_ fun e ds hds => .silent hds.1 (herror e)
  rintro a ds ⟨hsilent, hF⟩
  obtain ⟨P', hdoes, hP⟩ := hk a ds (hF a rfl)
  exact hdoes.mono fun _ _ hmore => hmore.after hsilent id hP

theorem Looks.first {first : Work α} {k : α → Work β} {P : List HubDeed → Prop} (h : first.Looks)
    (herror : ∀ e, idle (.error e)) (hk : ∀ a, (k a).Does (Once idle fun _ => P)) :
    (first >>= k).Does (Once idle fun _ => P) :=
  h.learns.first herror fun a _ _ => ⟨_, hk a, fun _ _ hP => hP⟩

theorem Looks.does {work : Work β} (h : work.Looks) (hidle : ∀ x, idle x) :
    work.Does (Once idle P) :=
  Attempt.Does.mono (Looking.does h) fun x _ hds => .silent hds (hidle x)

theorem Looks.last {work : Work β} (h : work.Looks) {loud : List HubDeed} (hloud : P [] loud) :
    work.Does fun x ds => Once idle P x (loud ++ ds) := by
  refine Attempt.Does.mono (Looking.does h) fun x ds hds => ?_
  have hall : Once idle P x ([] ++ (loud ++ ds)) := .loud nofun hds hloud
  exact hall

theorem does_fail (e : HubError) (herror : idle (.error e)) :
    (Attempt.fail e : Work β).Does (Once idle P) := .silent nofun herror

theorem learns_record {op : RecordOp} (h : op.isRead) :
    (record op).Learns fun b ds => ∃ s, ds = [(s, .asked (.record op) (.ok b))] := by
  intro s b
  refine ⟨List.forall_mem_singleton.2 (silent_reading h b), ?_⟩
  cases b with
  | error e => nofun
  | ok b =>
    rintro _ ⟨⟩
    exact ⟨s, rfl⟩

theorem learns_found (id : DriverId) :
    (driverRecord id).Learns fun _ ds => ∃ d ∈ ds, FindsDriver id d := by
  refine Attempt.Does.bind (learns_record rfl) ?_ fun _ _ hds => ⟨hds.1, nofun⟩
  rintro found ds ⟨hsilent, hfound⟩
  obtain ⟨s, rfl⟩ := hfound found rfl
  rcases found with _ | record
  · exact ⟨hsilent, nofun⟩
  · exact ⟨hsilent, fun _ _ => ⟨_, List.mem_cons_self, rfl⟩⟩

end Work

/-! ### Creations -/

/-- A driver or device is recorded, if it is a device as one of this driver, and set in memory in the
next step. -/
inductive Enters (c : ConfigTarget) (owner : Option DriverId) : List HubDeed → Prop
  | intro {s s' act v} (recorded : recorded? act = some c)
      (owned : ∀ k e, owned? act = some (k, e) → owner = some e) :
    Enters c owner [(s, act), (s', setting c v)]

/-- A driver or device is recorded and set in memory. Before, it was looked up and missing, and its
driver was looked up and found, if it has one. -/
inductive Created (c : ConfigTarget) (before loud : List HubDeed) : Prop
  | intro {owner} (enters : Enters c owner loud) (missed : ∃ d ∈ before, Misses c d)
      (found : ∀ e, owner = some e → ∃ d ∈ before, FindsDriver e d)

/-- The result is an error. -/
def Failed {α : Type} (x : Except HubError α) : Prop := ∃ e, x = .error e

namespace Work

variable {β : Type}

theorem does_enter {op : RecordOp} {c : ConfigTarget} {owner : Option DriverId} {v : Value}
    {rest : Work β} (hrecorded : ∀ b, recorded? (.asked (.record op) (.ok b)) = some c)
    (howned : ∀ b k e, owned? (.asked (.record op) (.ok b)) = some (k, e) → owner = some e)
    (hrest : rest.Looks) :
    (record op >>= fun _ => Attempt.change (fun s => { s with singletons := s.singletons.set c v }) >>=
      fun _ => rest).Does (Once Failed fun _ => Enters c owner) := by
  intro s b
  rcases b with e | b
  · exact .silent (List.forall_mem_singleton.2 (silent_fault op e)) ⟨_, rfl⟩
  · intro s'
    have hlast : rest.Does fun x ds => Once Failed (fun _ => Enters c owner) x
        ([(s, .asked (.record op) (.ok b)), (s', setting c v)] ++ ds) :=
      hrest.last ⟨hrecorded b, howned b⟩
    exact hlast

theorem does_createDriver (driver : DriverRecord) :
    (createDriver driver).Does (Once Failed (Created (.driver driver.id))) := by
  unfold createDriver
  refine (learns_record rfl).first (fun e => ⟨e, rfl⟩) ?_
  rintro (_ | found) _ ⟨s, rfl⟩
  · refine ⟨fun _ => Enters (.driver driver.id) none, ?_, fun before loud henters => ?_⟩
    · refine (looks_inHub driver.asks_extraction).first (fun e => ⟨e, rfl⟩) fun e => ?_
      exact does_enter (c := .driver driver.id) (fun _ => rfl) (fun _ _ _ h => nomatch h)
        ((looks_report _).bind fun _ => looks_pure _)
    · exact ⟨henters, ⟨_, List.mem_append_left _ List.mem_cons_self, rfl⟩, nofun⟩
  · exact ⟨fun _ _ => False, does_fail _ ⟨_, rfl⟩, nofun⟩

theorem does_createDevice (device : DeviceRecord) :
    (createDevice device).Does (Once Failed (Created (.device device.id))) := by
  unfold createDevice
  refine (learns_record rfl).first (fun e => ⟨e, rfl⟩) ?_
  rintro (_ | found) missed ⟨s, rfl⟩
  · refine ⟨fun before loud => Enters (.device device.id) (some device.driver) loud ∧
      ∃ d ∈ before, FindsDriver device.driver d, ?_, ?_⟩
    · refine (learns_found _).first (fun e => ⟨e, rfl⟩) fun driver ds hfound => ?_
      refine ⟨fun _ => Enters (.device device.id) (some device.driver), ?_,
        fun before loud henters => ?_⟩
      · refine (looks_inHub driver.asks_validInfo).first (fun e => ⟨e, rfl⟩) fun info => ?_
        refine does_enter (c := .device device.id) (fun _ => rfl) ?_ (looks_report _)
        rintro _ k e ⟨⟩
        rfl
      · obtain ⟨d, hd, hfinds⟩ := hfound
        exact ⟨henters, d, List.mem_append_left _ hd, hfinds⟩
    · rintro before loud ⟨henters, d, hd, hfinds⟩
      refine ⟨henters, ⟨_, List.mem_append_left _ List.mem_cons_self, rfl⟩, ?_⟩
      rintro _ ⟨⟩
      exact ⟨d, List.mem_append_right _ hd, hfinds⟩
  · exact ⟨fun _ _ => False, does_fail _ ⟨_, rfl⟩, nofun⟩

end Work

/-! ### Deletions -/

/-- A driver or device is deleted from the records, and taken out of memory in the next step. -/
inductive Exits (c : ConfigTarget) : List HubDeed → Prop
  | intro {s s' act} (deleted : deleted? act = some c) : Exits c [(s, act), (s', removing c)]

/-- A driver or device is deleted and taken out. If it is a driver, no device was of it before. -/
structure Deleted (c : ConfigTarget) (before loud : List HubDeed) : Prop where
  exits : Exits c loud
  spared : ∀ e, c = .driver e → ∃ d ∈ before, Spares e d

namespace Work

variable {β : Type}

/-- What is deleted is taken out of memory in the next step. -/
theorem does_exit {op : RecordOp} {c : ConfigTarget} {k : op.Result → Work β}
    (hk : ∀ b, (Silent (.asked (.record op) (.ok b)) ∧ ∃ e, k b = Attempt.fail e) ∨
      (deleted? (.asked (.record op) (.ok b)) = some c ∧ ∃ rest : Work β, rest.Looks ∧
        k b = Attempt.change (fun s => { s with singletons := s.singletons.remove c }) >>=
          fun _ => rest)) :
    (record op >>= k).Does (Once Failed fun _ => Exits c) := by
  intro s b
  rcases b with e | b
  · exact .silent (List.forall_mem_singleton.2 (silent_fault op e)) ⟨_, rfl⟩
  rcases hk b with ⟨hsilent, e, hfail⟩ | ⟨hdeleted, rest, hrest, hgoes⟩
  · have hfails : (k b).Does fun x ds =>
        Once Failed (fun _ => Exits c) x ((s, .asked (.record op) (.ok b)) :: ds) := by
      rw [hfail]
      exact .silent (List.forall_mem_singleton.2 hsilent) ⟨_, rfl⟩
    exact hfails
  · have hlast : (k b).Does fun x ds =>
        Once Failed (fun _ => Exits c) x ((s, .asked (.record op) (.ok b)) :: ds) := by
      rw [hgoes]
      intro s'
      have hlast : rest.Does fun x ds => Once Failed (fun _ => Exits c) x
          ([(s, .asked (.record op) (.ok b)), (s', removing c)] ++ ds) := hrest.last ⟨hdeleted⟩
      exact hlast
    exact hlast

theorem looks_change {f : LiveState → LiveState} (h : ∀ s, (f s).singletons = s.singletons) :
    Looks (Attempt.change f : Work Unit) :=
  ⟨⟨h, fun _ => trivial⟩, fun _ => trivial⟩

theorem does_deleteDriver (id : DriverId) :
    (deleteDriver id).Does (Once Failed (Deleted (.driver id))) := by
  unfold deleteDriver
  refine (learns_record rfl).first (fun e => ⟨e, rfl⟩) ?_
  rintro devices _ ⟨s, rfl⟩
  simp only
  split
  · exact ⟨fun _ _ => False, does_fail _ ⟨_, rfl⟩, nofun⟩
  · next hspared =>
    refine ⟨fun _ => Exits (.driver id), does_exit ?_, fun before loud hexits => ⟨hexits, ?_⟩⟩
    · rintro (_ | _)
      · exact .inl ⟨⟨rfl, rfl, fun _ => rfl⟩, _, rfl⟩
      · refine .inr ⟨rfl, _, ?_, rfl⟩
        refine Looks.bind ?_ fun _ => looks_report _
        exact looks_change fun _ => rfl
    · rintro _ ⟨⟩
      have hnone : ∀ device ∈ devices, device.driver ≠ id := by simpa using hspared
      exact ⟨_, List.mem_append_left _ List.mem_cons_self, devices, rfl, hnone⟩

theorem does_deleteDevice (id : DeviceId) :
    (deleteDevice id).Does (Once Failed (Deleted (.device id))) := by
  unfold deleteDevice
  refine Attempt.Does.mono (does_exit (c := .device id) ?_) fun _ _ h =>
    h.weaken (fun hx => hx) fun _ _ hexits => ⟨hexits, nofun⟩
  rintro (_ | _)
  · exact .inl ⟨⟨rfl, rfl, fun _ => rfl⟩, _, rfl⟩
  · exact .inr ⟨rfl, _, looks_report _, rfl⟩

end Work

/-! ### Calls -/

/-- What a run left behind is kept. The singletons that it replaces were in memory before. -/
inductive Called (before : List HubDeed) : List HubDeed → Prop
  | intro {s} {u : Update} (seen : ∀ c, u.value? c ≠ none → ∃ d ∈ before, Sees c d) :
    Called before [(s, .accessed u.keep)]

theorem Called.mono {before loud : List HubDeed} (h : Called before loud) (ds : List HubDeed) :
    Called (ds ++ before) loud := by
  cases h with
  | intro seen =>
    refine .intro fun c hc => ?_
    obtain ⟨d, hd, hsees⟩ := seen c hc
    exact ⟨d, List.mem_append_right _ hd, hsees⟩

/-- What is loaded for a target is in memory. -/
theorem Singletons.of_load {s : Singletons} {t : Target} {v : Value} {w : Option Value}
    (h : s.load t = .ok (v, w)) :
    s.value? (.driver t.driver) = some v ∧ (t.device = none ∧ w = none ∨
      ∃ id x, t.device = some id ∧ w = some x ∧ s.value? (.device id) = some x) := by
  unfold load at h
  split at h
  · cases h
  · next v' hdriver =>
    split at h
    · next hnone =>
      cases h
      exact ⟨driver_eq_ok.1 hdriver, .inl ⟨hnone, rfl⟩⟩
    · next id hid =>
      split at h
      · cases h
      · next x hdevice =>
        cases h
        exact ⟨driver_eq_ok.1 hdriver, .inr ⟨id, x, hid, rfl, device_eq_ok.1 hdevice⟩⟩

/-- The singletons that a call replaces are those that it has loaded. -/
theorem Singletons.value?_of_load {s : Singletons} {t : Target} {x : Value × Option Value}
    (h : s.load t = .ok x) {v : Value} {d : Option (DeviceId × Value)} (hd : d.map (·.1) = t.device)
    {c : ConfigTarget} (hc : Update.value? ⟨t.driver, v, d⟩ c ≠ none) : s.value? c ≠ none := by
  obtain ⟨hdriver, hdevice⟩ := of_load h
  cases c with
  | driver id =>
    obtain rfl : t.driver = id := by simpa [Update.value?] using hc
    rw [hdriver]
    exact Option.some_ne_none _
  | device id =>
    cases d with
    | none => exact absurd rfl hc
    | some d =>
      obtain rfl : d.1 = id := by simpa [Update.value?] using hc
      rcases hdevice with ⟨hnone, -⟩ | ⟨id, w, hid, -, hw⟩
      · cases hd.trans hnone
      · obtain rfl := Option.some.inj (hd.trans hid)
        rw [hw]
        exact Option.some_ne_none w

namespace Work

variable {α β : Type}

theorem does_save (u : Update) (a : α) {P : List HubDeed → Prop} (hP : ∀ s, P [(s, .accessed u.keep)]) :
    (record u.saving >>= fun _ => Attempt.change u.keep >>= fun _ => pure a : Work α).Does
      (Once (fun _ => True) fun _ => P) := by
  intro s b
  have hsilent : ∀ d ∈ [((s, .asked (.record u.saving) b) : HubDeed)], Silent d.2 :=
    List.forall_mem_singleton.2 (silent_saving ..)
  rcases b with e | b
  · exact .silent hsilent trivial
  · intro s'
    have hall : Once (fun _ => True) (fun _ => P) (.ok a : Except HubError α)
        ([(s, .asked (.record u.saving) (.ok b))] ++ ([(s', .accessed u.keep)] ++ [])) :=
      .loud hsilent (by simp) (hP s')
    exact hall

theorem does_bind_looks {first : Work α} {k : α → Work β} {idle : Except HubError α → Prop}
    {idle' : Except HubError β → Prop} {P : List HubDeed → List HubDeed → Prop}
    (h : first.Does (Once idle P)) (hk : ∀ a, (k a).Looks)
    (hok : ∀ a y, idle (.ok a) → idle' y) (herror : ∀ e, idle (.error e) → idle' (.error e)) :
    (first >>= k).Does (Once idle' P) := by
  refine Attempt.Does.bind h (fun a ds hds => ?_) fun e ds hds => ?_
  · exact Attempt.Does.mono (Looking.does (hk a)) fun y more hmore => hds.before hmore (hok a y)
  · exact hds.weaken (herror e) fun _ _ hP => hP

end Work

namespace Target

variable {β : Type}

theorem learns_load (t : Target) :
    Work.Learns (Attempt.of .singleton (Flow.look (·.singletons.load t))) fun x ds =>
      ∃ s : LiveState, ds = [(s, .accessed id)] ∧ s.singletons.load t = .ok x := by
  intro s
  refine ⟨List.forall_mem_singleton.2 (silent_look fun _ => rfl), fun x hx => ⟨s, rfl, ?_⟩⟩
  have hx : (s.singletons.load t).mapError HubError.singleton = .ok x := hx
  cases hs : s.singletons.load t with
  | error e =>
    rw [hs] at hx
    cases hx
  | ok y =>
    rw [hs] at hx
    cases hx
    rfl

theorem does_invokeChecked (t : Target) (prepared : PreparedDriver) (call : Call) (token : TokenId)
    (check : Value → Except Diagnostic β) :
    (t.invokeChecked prepared call token check).Does (Once (fun _ => True) Called) := by
  unfold invokeChecked
  refine t.learns_load.first (fun _ => trivial) ?_
  rintro ⟨driver, device⟩ _ ⟨s, rfl, hs⟩
  let kept (loud : List HubDeed) : Prop := ∃ s v d, d.map (·.1) = t.device ∧
    loud = [(s, .accessed (Update.keep ⟨t.driver, v, d⟩))]
  refine ⟨fun _ => kept, ?_, ?_⟩
  · refine (Work.looks_runUnit _ _ _ _).first (fun _ => trivial) ?_
    rintro (⟨value, left⟩ | diagnostics)
    · simp only
      split
      · exact ((Work.looks_report _).bind fun _ => Work.looks_pure _).does fun _ => trivial
      · next result _ =>
        cases htaken : t.leftBy prepared.unit.program left with
        | error e => exact Work.does_fail _ trivial
        | ok taken =>
          obtain ⟨v, d⟩ := taken
          obtain ⟨-, hd, -⟩ := leftBy_eq_ok htaken
          exact Work.does_save ⟨t.driver, v, d⟩ _ fun s => ⟨s, v, d, hd, rfl⟩
    · exact ((Work.looks_report _).bind fun _ => Work.looks_pure _).does fun _ => trivial
  · rintro before _ ⟨s', v, d, hd, rfl⟩
    refine .intro fun c hc => ?_
    exact ⟨_, List.mem_append_left _ List.mem_cons_self, rfl, Singletons.value?_of_load hs hd hc⟩

theorem does_invoke (t : Target) (call : Call) (token : TokenId) :
    (t.invoke call token).Does (Once (fun _ => True) Called) :=
  t.looks_prepare.learns.first (fun _ => trivial) fun prepared ds _ =>
    ⟨Called, t.does_invokeChecked prepared call token .ok, fun _ _ h => h.mono ds⟩

end Target

namespace Work

theorem does_performAction (id : DeviceId) (request : ActionRequest) (token : TokenId) :
    (performAction id request token).Does (Once (fun _ => True) Called) := by
  have hact : (act id request token).Does (Once (fun _ => True) Called) := by
    refine (looks_prepareDevice id _).learns.first (fun _ => trivial) ?_
    rintro ⟨target, prepared⟩ ds -
    exact ⟨Called, target.does_invokeChecked prepared _ token _, fun _ _ h => h.mono ds⟩
  exact does_bind_looks hact (fun _ => looks_pure _) (fun _ _ _ => trivial) fun _ _ => trivial

theorem does_validateDriver (id : DriverId) (token : TokenId) :
    (validateDriver id token).Does (Once (fun _ => True) Called) :=
  (Target.looks_prepare _).learns.first (fun _ => trivial) fun prepared ds _ =>
    ⟨Called, Target.does_invokeChecked _ prepared _ token _, fun _ _ h => h.mono ds⟩

end Work

/-! ### Operations -/

namespace Operation

def creates? : Operation → Option ConfigTarget
  | createDriver driver => some (.driver driver.id)
  | createDevice device => some (.device device.id)
  | _ => none

def deletes? : Operation → Option ConfigTarget
  | deleteDriver id => some (.driver id)
  | deleteDevice id => some (.device id)
  | _ => none

/-- The operations by which drivers and devices come and go, and calls. -/
def Manages (op : Operation) : Prop := op.creates? ≠ none ∨ op.deletes? ≠ none ∨ op.IsCall

/-- What the deeds of an operation are that are not silent, by those before them. -/
inductive Loud (op : Operation) (before loud : List HubDeed) : Prop
  | created {c} (creates : op.creates? = some c) (created : Created c before loud)
  | deleted {c} (deletes : op.deletes? = some c) (deleted : Deleted c before loud)
  | called (call : op.IsCall) (called : Called before loud)

/-- The deeds of an operation, as far as they are told here. A creation that does nothing has failed.
-/
def Told (op : Operation) : Except HubError Unit → List HubDeed → Prop :=
  Once (fun x => op.creates? ≠ none → Failed x) op.Loud

theorem does_drop {α : Type} {op : Operation} {work : Work α}
    (h : work.Does (Once (fun x => op.creates? ≠ none → Failed x) op.Loud)) : work.drop.Does op.Told :=
  Work.does_bind_looks h (fun _ => Work.looks_pure _)
    (fun _ _ hfailed hcreates => absurd (hfailed hcreates) nofun) fun e _ _ => ⟨e, rfl⟩

theorem IsCall.creates? {op : Operation} (h : op.IsCall) : op.creates? = none := by
  cases op <;> first | rfl | exact h.elim

theorem does_call {α : Type} (op : Operation) (hop : op.IsCall) {work : Work α}
    (h : work.Does (Once (fun _ => True) Called)) : work.drop.Does op.Told := by
  refine does_drop (h.mono fun _ _ h => ?_)
  exact h.weaken (fun _ hcreates => absurd hop.creates? hcreates) fun _ _ hcalled =>
    .called hop hcalled

theorem does_work {op : Operation} (h : op.Manages) : op.work.Does op.Told := by
  cases op with
  | createDriver driver =>
    refine does_drop ((Work.does_createDriver driver).mono fun _ _ h => ?_)
    exact h.weaken (fun hfailed _ => hfailed) fun _ _ hcreated => .created rfl hcreated
  | createDevice device =>
    refine (Work.does_createDevice device).mono fun _ _ h => ?_
    exact h.weaken (fun hfailed _ => hfailed) fun _ _ hcreated => .created rfl hcreated
  | deleteDriver id =>
    refine (Work.does_deleteDriver id).mono fun _ _ h => ?_
    exact h.weaken (fun hfailed _ => hfailed) fun _ _ hdeleted => .deleted rfl hdeleted
  | deleteDevice id =>
    refine (Work.does_deleteDevice id).mono fun _ _ h => ?_
    exact h.weaken (fun hfailed _ => hfailed) fun _ _ hdeleted => .deleted rfl hdeleted
  | invoke target call token =>
    exact does_call (.invoke target call token) trivial (target.does_invoke call token)
  | act device request token =>
    exact does_call (.act device request token) trivial (Work.does_performAction device request token)
  | validateDriver id token =>
    exact does_call (.validateDriver id token) trivial (Work.does_validateDriver id token)
  | invokeScript id call token =>
    exact does_call (.invokeScript id call token) trivial
      ((Work.looks_invokeScript id call token).does fun _ => trivial)
  | _ => rcases h with h | h | h <;> first | exact absurd rfl h | exact h.elim

/-- What a deed of an operation is, by those before it and those after it. -/
inductive Role (op : Operation) (l : List HubDeed) : HubDeed → List HubDeed → Prop
  | silent {d r} (silent : Silent d.2) : Role op l d r
  | puts {c s act r} (creates : op.creates? = some c) (recorded : recorded? act = some c)
      (missed : ∃ d ∈ l, Misses c d)
      (found : ∀ k e, owned? act = some (k, e) → ∃ d ∈ l, FindsDriver e d)
      (next : ∃ d ∈ r, Sets c d) : Role op l (s, act) r
  | sets {c s v r} (creates : op.creates? = some c) (recorded : ∃ d ∈ l, Puts c d) :
    Role op l (s, setting c v) r
  | deletes {c s act r} (deletes : op.deletes? = some c) (deleted : deleted? act = some c)
      (spared : ∀ e, c = .driver e → ∃ d ∈ l, Spares e d) (next : ∃ d ∈ r, TakesOut c d) :
    Role op l (s, act) r
  | takesOut {c s r} (deletes : op.deletes? = some c) (deleted : ∃ d ∈ l, Deletes c d) :
    Role op l (s, removing c) r
  | keeps {s r} {u : Update} (call : op.IsCall)
      (seen : ∀ c, u.value? c ≠ none → ∃ d ∈ l, Sees c d) : Role op l (s, .accessed u.keep) r

theorem sets_setting (c : ConfigTarget) (v : Value) (s : LiveState) : Sets c (s, setting c v) := by
  have hkeeps : keeps? c (setting c v) = some v := ((adds_setting c v).keeps? c).trans (if_pos rfl)
  rw [Sets, hkeeps]
  nofun

theorem takesOut_self (c : ConfigTarget) (s : LiveState) : TakesOut c (s, removing c) :=
  (takesOut_removing c c).trans (decide_eq_true rfl)

theorem first_or_second {A : Type} {a b d : A} {left right : List A}
    (h : left ++ d :: right = [a, b]) :
    left = [] ∧ d = a ∧ right = [b] ∨ left = [a] ∧ d = b ∧ right = [] := by
  rcases List.append_eq_cons_iff.1 h with ⟨rfl, hfirst⟩ | ⟨left, rfl, hrest⟩
  · obtain ⟨rfl, rfl⟩ := List.cons.inj hfirst
    exact .inl ⟨rfl, rfl, rfl⟩
  · rcases List.append_eq_cons_iff.1 hrest.symm with ⟨rfl, hsecond⟩ | ⟨left, rfl, hrest⟩
    · obtain ⟨rfl, rfl⟩ := List.cons.inj hsecond
      exact .inr ⟨rfl, rfl, rfl⟩
    · simp at hrest

theorem Told.role {op : Operation} {x : Except HubError Unit} {ds l r : List HubDeed} {d : HubDeed}
    (h : op.Told x ds) (hds : ds = l ++ d :: r) : op.Role l d r := by
  by_cases hd : Silent d.2
  · exact .silent hd
  obtain ⟨before, left, right, after, hloud, rfl, rfl⟩ := h.split hds hd
  have hbefore {P : HubDeed → Prop} : (∃ d ∈ before, P d) → ∃ d ∈ before ++ left, P d :=
    fun ⟨d, hd, hP⟩ => ⟨d, List.mem_append_left _ hd, hP⟩
  generalize hmiddle : left ++ d :: right = middle at hloud
  cases hloud with
  | created creates created =>
    obtain ⟨⟨recorded, owned⟩, missed, found⟩ := created
    rcases first_or_second hmiddle with ⟨rfl, rfl, rfl⟩ | ⟨rfl, rfl, rfl⟩
    · refine .puts creates recorded (hbefore missed) (fun k e h => hbefore (found e (owned k e h))) ?_
      exact ⟨_, List.mem_append_left _ List.mem_cons_self, sets_setting _ _ _⟩
    · exact .sets creates ⟨_, List.mem_append_right _ List.mem_cons_self, recorded⟩
  | deleted deletes deleted =>
    obtain ⟨⟨hdeleted⟩, spared⟩ := deleted
    rcases first_or_second hmiddle with ⟨rfl, rfl, rfl⟩ | ⟨rfl, rfl, rfl⟩
    · refine .deletes deletes hdeleted (fun e hc => hbefore (spared e hc)) ?_
      exact ⟨_, List.mem_append_left _ List.mem_cons_self, takesOut_self _ _⟩
    · exact .takesOut deletes ⟨_, List.mem_append_right _ List.mem_cons_self, hdeleted⟩
  | called call called =>
    obtain ⟨seen⟩ := called
    obtain ⟨rfl, hd⟩ | ⟨left, rfl, hd⟩ := List.append_eq_cons_iff.1 hmiddle
    · obtain ⟨rfl, rfl⟩ := List.cons.inj hd
      exact .keeps call fun c hc => hbefore (seen c hc)
    · simp at hd

namespace Role

variable {op : Operation} {l r : List HubDeed} {d : HubDeed} {c : ConfigTarget}

/-- What is put into the records was missing, is set in memory afterwards, and if it is a device its
driver was found. -/
theorem of_puts (h : op.Role l d r) (hd : Puts c d) :
    op.creates? = some c ∧ (∃ e ∈ l, Misses c e) ∧ (∃ e ∈ r, Sets c e) ∧
      ∀ k e, Gives k e d → ∃ f ∈ l, FindsDriver e f := by
  cases h with
  | silent silent => exact absurd hd (not_puts_of_silent silent)
  | puts creates recorded missed found next =>
    obtain rfl := Option.some.inj (recorded.symm.trans hd)
    exact ⟨creates, missed, next, found⟩
  | deletes _ deleted => exact absurd ((of_deleted? deleted).1.symm.trans hd) nofun
  | sets | takesOut | keeps => cases hd

/-- What is deleted from the records is taken out of memory afterwards, and if it is a driver no device
was of it. -/
theorem of_deletes (h : op.Role l d r) (hd : Deletes c d) :
    op.deletes? = some c ∧ (∃ e ∈ r, TakesOut c e) ∧
      ∀ e, c = .driver e → ∃ f ∈ l, Spares e f := by
  cases h with
  | silent silent => exact absurd hd (not_deletes_of_silent silent)
  | deletes deletes deleted spared next =>
    obtain rfl := Option.some.inj (deleted.symm.trans hd)
    exact ⟨deletes, next, spared⟩
  | puts _ recorded => exact absurd ((of_recorded? recorded).1.symm.trans hd) nofun
  | sets | takesOut | keeps => cases hd

/-- What is set in memory was put into the records before, or a call has found it in memory. -/
theorem of_sets (h : op.Role l d r) (hd : Sets c d) :
    (op.creates? = some c ∧ ∃ e ∈ l, Puts c e) ∨ op.IsCall ∧ ∃ e ∈ l, Sees c e := by
  cases h with
  | silent silent => exact absurd (silent.keeps? c) hd
  | puts _ recorded =>
    obtain ⟨-, q, b, rfl⟩ := of_recorded? recorded
    exact absurd rfl hd
  | deletes _ deleted =>
    obtain ⟨-, q, b, rfl⟩ := of_deleted? deleted
    exact absurd rfl hd
  | @sets c' s v r creates recorded =>
    rw [Sets, (adds_setting c' v).keeps?] at hd
    obtain rfl : c = c' := by
      by_contra hne
      exact hd (if_neg hne)
    exact .inl ⟨creates, recorded⟩
  | @takesOut c' => exact absurd (keeps?_removing c' c) hd
  | @keeps s r u call seen =>
    rw [Sets, (adds_keep u).keeps?] at hd
    exact .inr ⟨call, seen c hd⟩

theorem of_takesOut (h : op.Role l d r) (hd : TakesOut c d) :
    op.deletes? = some c ∧ ∃ e ∈ l, Deletes c e := by
  cases h with
  | silent silent => exact absurd hd (not_takesOut_of_silent silent)
  | puts _ recorded =>
    obtain ⟨-, q, b, rfl⟩ := of_recorded? recorded
    cases hd
  | deletes _ deleted =>
    obtain ⟨-, q, b, rfl⟩ := of_deleted? deleted
    cases hd
  | @sets c' s v => exact absurd (((adds_setting c' v).takesOut c).symm.trans hd) nofun
  | @takesOut c' s r deletes deleted =>
    obtain rfl : c = c' := of_decide_eq_true ((takesOut_removing c' c).symm.trans hd)
    exact ⟨deletes, deleted⟩
  | @keeps s r u => exact absurd (((adds_keep u).takesOut c).symm.trans hd) nofun

theorem places (h : op.Role l d r) : Places d.2 := by
  cases h with
  | silent silent => exact silent.places
  | puts _ recorded =>
    obtain ⟨-, q, b, rfl⟩ := of_recorded? recorded
    exact places_asked q b
  | deletes _ deleted =>
    obtain ⟨-, q, b, rfl⟩ := of_deleted? deleted
    exact places_asked q b
  | @sets c s v => exact (adds_setting c v).places
  | @takesOut c => exact places_removing c
  | @keeps s r u => exact (adds_keep u).places

end Role

theorem Told.creates {op : Operation} {ds : List HubDeed} {c : ConfigTarget}
    (h : op.Told (.ok ()) ds) (hc : op.creates? = some c) : ∃ d ∈ ds, Puts c d := by
  cases h with
  | silent _ result =>
    obtain ⟨e, he⟩ := result (by rw [hc]; nofun)
    cases he
  | loud _ _ core =>
    cases core with
    | created creates created =>
      obtain rfl := Option.some.inj (creates.symm.trans hc)
      obtain ⟨⟨recorded, -⟩, -, -⟩ := created
      exact ⟨_, List.mem_append_right _ (List.mem_append_left _ List.mem_cons_self), recorded⟩
    | deleted deletes => cases op <;> simp [creates?, deletes?] at hc deletes
    | called call => exact absurd (call.creates?.symm.trans hc) nofun

end Operation

end DriverHub
