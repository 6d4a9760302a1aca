import DriverHub.Proofs.Dispatch.Ledger
import DriverHub.Proofs.Flow.History

/-! What the end of a job does, and what a request does that is accepted, each told by its history:
who waits for the job is looked up once, taken out one after another and delivered to, and then the job
is forgotten; and who was accepted has been in the table. -/

namespace DriverHub

abbrev DispatchDeed := DispatchState × DispatchAct

namespace DispatchDeed

/-- The state after a deed. -/
def after (d : DispatchDeed) : DispatchState := d.2.after d.1

/-- A look at the state. -/
def looks (s : DispatchState) : DispatchDeed := (s, .accessed id)

/-- A job is forgotten. -/
def forgets (job : JobId) (s : DispatchState) : DispatchDeed :=
  (s, .accessed fun s => { s with jobs := Dict.erase job s.jobs })

/-- The deed has to do with neither the table nor the jobs, and delivers to nobody for the last time. -/
inductive Aside : DispatchDeed → Prop
  | accessed {s update} (table : (update s).table = s.table) (jobs : (update s).jobs = s.jobs) :
    Aside (s, .accessed update)
  | asked {s q b} (quiet : q.lastFor = none) : Aside (s, .asked q b)

/-- After the deed the registration is not in the table, whether it was there before or not. -/
inductive Removes (id : RegistrationId) : DispatchDeed → Prop
  | accessed {s update} (table : (update s).table = (s.table.remove id).2)
      (jobs : (update s).jobs = s.jobs) : Removes id (s, .accessed update)

/-- The deed as a turn of the caller at a place. -/
def turn (caller : Nat) (d : DispatchDeed) : DispatchTurn := ⟨caller, d.1, d.2⟩

variable {id k : RegistrationId} {d : DispatchDeed}

theorem takes_asked (caller : Nat) (s : DispatchState) (q : DispatchService) (b : q.Answer)
    (id : RegistrationId) : DispatchTurn.takes id (turn caller (s, .asked q b)) = false :=
  DispatchTurn.takes_of_table_eq rfl id

namespace Aside

theorem jobs (h : Aside d) : d.after.jobs = d.1.jobs := by
  cases h with
  | accessed _ jobs => exact jobs
  | asked => rfl

theorem takes (h : Aside d) (caller : Nat) (id : RegistrationId) :
    DispatchTurn.takes id (d.turn caller) = false := by
  cases h with
  | @accessed s update table =>
    exact @DispatchTurn.takes_of_table_eq caller s (.accessed update) table id
  | asked => exact takes_asked ..

theorem delivers (h : Aside d) (caller : Nat) (id : RegistrationId) :
    DispatchTurn.delivers id (d.turn caller) = false := by
  cases h with
  | accessed => rfl
  | asked quiet => simp [DispatchTurn.delivers, turn, quiet]

end Aside

namespace Removes

theorem jobs (h : Removes id d) : d.after.jobs = d.1.jobs := by
  cases h with
  | accessed _ jobs => exact jobs

theorem get?_after (h : Removes id d) (k : RegistrationId) :
    d.after.table.get? k = if id = k then none else d.1.table.get? k := by
  cases h with
  | accessed table =>
    rw [after, Flow.Act.after_accessed, table, RegistrationTable.get?_remove]

theorem takes (h : Removes id d) (caller : Nat) (k : RegistrationId) :
    DispatchTurn.takes k (d.turn caller) = (decide (id = k) && (d.1.table.get? k).isSome) := by
  have hafter : (d.turn caller).after.table.get? k = _ := h.get?_after k
  rw [DispatchTurn.takes, hafter]
  by_cases hk : id = k
  · simp [hk, turn]
  · cases hget : d.1.table.get? k <;> simp [hk, hget, turn]

theorem delivers (h : Removes id d) (caller : Nat) (k : RegistrationId) :
    DispatchTurn.delivers k (d.turn caller) = false := by
  cases h with
  | accessed => rfl

end Removes

end DispatchDeed

open DispatchDeed

/-- One after another is taken out, and delivered to if it was there. -/
inductive Served : List RegistrationId → List DispatchDeed → Prop
  | nobody : Served [] []
  | missing {id ids d ds} (removes : Removes id d) (absent : d.1.table.get? id = none)
      (rest : Served ids ds) : Served (id :: ids) (d :: ds)
  | served {id ids r call b d aside s ds} (removes : Removes id d) (found : d.1.table.get? id = some r)
      (quiet : ∀ d ∈ aside, Aside d) (rest : Served ids ds) :
    Served (id :: ids) (d :: aside ++ (s, .asked (.deliver r call) b) :: ds)

namespace Served

open DispatchTurn (takes delivers)

variable {ids : List RegistrationId} {ds : List DispatchDeed}

theorem jobs (h : Served ids ds) : ∀ d ∈ ds, d.after.jobs = d.1.jobs := by
  induction h with
  | nobody => simp
  | missing removes _ _ ih =>
    intro d hd
    rcases List.mem_cons.1 hd with rfl | hd
    · exact removes.jobs
    · exact ih d hd
  | served removes _ quiet _ ih =>
    intro d hd
    rcases List.mem_append.1 hd with hd | hd
    · rcases List.mem_cons.1 hd with rfl | hd
      · exact removes.jobs
      · exact (quiet d hd).jobs
    · rcases List.mem_cons.1 hd with rfl | hd
      · rfl
      · exact ih d hd

theorem gone (h : Served ids ds) : ∀ id ∈ ids, ∃ d ∈ ds, d.after.table.get? id = none := by
  induction h with
  | nobody => simp
  | missing removes _ _ ih =>
    intro id hid
    rcases List.mem_cons.1 hid with rfl | hid
    · exact ⟨_, List.mem_cons_self, by rw [removes.get?_after, if_pos rfl]⟩
    · obtain ⟨d, hd, hgone⟩ := ih id hid
      exact ⟨d, List.mem_cons_of_mem _ hd, hgone⟩
  | served removes _ _ _ ih =>
    intro id hid
    rcases List.mem_cons.1 hid with rfl | hid
    · exact ⟨_, List.mem_cons_self, by rw [removes.get?_after, if_pos rfl]⟩
    · obtain ⟨d, hd, hgone⟩ := ih id hid
      exact ⟨d, by simp [hd], hgone⟩

theorem mem_of_takes (h : Served ids ds) {caller : Nat} {k : RegistrationId} :
    ∀ d ∈ ds, takes k (d.turn caller) = true → k ∈ ids := by
  have hremoves {id : RegistrationId} {ids : List RegistrationId} {d : DispatchDeed}
      (removes : Removes id d) (htakes : takes k (d.turn caller) = true) : k ∈ id :: ids := by
    rw [removes.takes, Bool.and_eq_true, decide_eq_true_eq] at htakes
    exact htakes.1 ▸ List.mem_cons_self
  induction h with
  | nobody => simp
  | missing removes _ _ ih =>
    intro d hd htakes
    rcases List.mem_cons.1 hd with rfl | hd
    · exact hremoves removes htakes
    · exact List.mem_cons_of_mem _ (ih d hd htakes)
  | served removes _ quiet _ ih =>
    intro d hd htakes
    rcases List.mem_append.1 hd with hd | hd
    · rcases List.mem_cons.1 hd with rfl | hd
      · exact hremoves removes htakes
      · rw [(quiet d hd).takes] at htakes
        cases htakes
    · rcases List.mem_cons.1 hd with rfl | hd
      · rw [takes_asked] at htakes
        cases htakes
      · exact List.mem_cons_of_mem _ (ih d hd htakes)

/-- As often as a registration is taken out, it is delivered to, if all of them fire once. -/
theorem balance (h : Served ids ds) (caller : Nat)
    (honce : ∀ d ∈ ds, ∀ id ∈ ids, ∀ r, d.1.table.get? id = some r →
      r.id = id ∧ r.request.trigger.isOneShot = true) (k : RegistrationId) :
    ds.countP (fun d => takes k (d.turn caller)) = ds.countP fun d => delivers k (d.turn caller) := by
  induction h with
  | nobody => rfl
  | missing removes absent _ ih =>
    have hrest := ih fun d hd id hid => honce d (List.mem_cons_of_mem _ hd) id (List.mem_cons_of_mem _ hid)
    rw [List.countP_cons, List.countP_cons, hrest, removes.takes, removes.delivers]
    grind
  | @served id ids r call b d aside s ds removes found quiet _ ih =>
    have hrest := ih fun d hd id hid => honce d (by simp [hd]) id (List.mem_cons_of_mem _ hid)
    obtain ⟨hid, hshot⟩ := honce d (by simp) id List.mem_cons_self r found
    have htaken : aside.countP (fun d => takes k (d.turn caller)) = 0 :=
      List.countP_eq_zero.2 fun d hd => by simp [(quiet d hd).takes]
    have hdelivered : aside.countP (fun d => delivers k (d.turn caller)) = 0 :=
      List.countP_eq_zero.2 fun d hd => by simp [(quiet d hd).delivers]
    have hdelivers : delivers k (turn caller (s, .asked (.deliver r call) b)) = decide (id = k) := by
      simp [delivers, turn, DispatchService.lastFor, hshot, hid]
    simp only [List.countP_append, List.countP_cons, htaken, hdelivered, takes_asked, hdelivers,
      hrest, removes.takes, removes.delivers]
    by_cases hk : id = k
    · simp [← hk, found, Nat.add_comm]
    · simp [hk]

end Served

namespace Dispatching

open Flow (Does)

/-- A registration is taken out, if it is there, and then its timer. -/
inductive Detached (id : RegistrationId) :
    Option (Registration × List String) → List DispatchDeed → Prop
  | missing {d} (removes : Removes id d) (absent : d.1.table.get? id = none) : Detached id none [d]
  | found {d r orphaned aside} (removes : Removes id d) (found : d.1.table.get? id = some r)
      (quiet : ∀ d ∈ aside, Aside d) : Detached id (some (r, orphaned)) (d :: aside)

theorem does_detach (id : RegistrationId) : (detach id).Does (Detached id) := by
  refine (Flow.does_exchange _).bind ?_
  rintro _ _ ⟨s, rfl, rfl⟩
  have hremoves : Removes id (s, .accessed fun s => { s with table := (s.table.remove id).2 }) :=
    .accessed rfl rfl
  cases hr : s.table.get? id with
  | none =>
    simp only [RegistrationTable.remove_of_none hr]
    exact .missing hremoves hr
  | some r =>
    simp only [RegistrationTable.remove_fst hr]
    refine (Flow.does_exchange _).bind ?_
    rintro _ _ ⟨s', rfl, rfl⟩
    let untimes : DispatchDeed :=
      (s', .accessed fun s => { s with timers := s.timers.filter (· ≠ id) })
    have huntimes : Aside untimes := .accessed rfl rfl
    dsimp only
    cases decide (id ∈ s'.timers) with
    | false => exact .found hremoves hr (List.forall_mem_singleton.2 huntimes)
    | true =>
      intro s'' b
      have hdisarms : Aside (s'', .asked (.disarmTimer id) b) := .asked rfl
      have haside : ∀ d ∈ [untimes, (s'', .asked (.disarmTimer id) b)], Aside d := by
        simp [huntimes, hdisarms]
      exact .found hremoves hr haside

theorem does_deliver (r : Registration) (params : List (String × ScriptType)) (args : List Value) :
    (deliver r params args).Does fun _ ds => ∃ s call b, ds = [(s, .asked (.deliver r call) b)] :=
  fun s b => ⟨s, _, b, rfl⟩

theorem does_deliverKills (ids : List RegistrationId) :
    (deliverKills ids).Does fun _ ds => Served ids ds := by
  induction ids with
  | nil => exact .nobody
  | cons id rest ih =>
    refine (does_detach id).bind ?_
    rintro _ _ (⟨hremoves, habsent⟩ | @⟨d, r, _, aside, hremoves, hr, hquiet⟩)
    · exact ih.mono fun _ ds hserved => .missing hremoves habsent hserved
    · refine (does_deliver _ _ _).bind ?_
      rintro _ _ ⟨s, call, b, rfl⟩
      refine Does.bind_done (ih.mono fun _ ds hserved => ?_)
      have hends : Served (id :: rest) (d :: aside ++ (s, .asked (.deliver r call) b) :: ds) :=
        .served hremoves hr hquiet hserved
      simpa using hends

/-- What the end of a job does: it looks who waits for it, serves them, and the job is forgotten. -/
structure Ended (job : JobId) (h : List DispatchDeed) (s₁ : DispatchState)
    (ds : List DispatchDeed) (s₂ : DispatchState) : Prop where
  history : h = looks s₁ :: ds ++ [forgets job s₂]
  served : Served (s₁.table.waitingFor job) ds

theorem does_jobTerminated (job : JobId) :
    (handle (.jobTerminated job)).Does fun _ h => ∃ s₁ ds s₂, Ended job h s₁ ds s₂ := by
  refine Does.bind_done (fun s₁ => ?_)
  refine (does_deliverKills _).bind fun _ ds hserved s₂ => ?_
  exact ⟨s₁, ds, s₂, rfl, hserved⟩

/-- Where a request is accepted, it was in the table under its number after some deed. -/
def Accepted (request : RegisterRequest) (x : Except DispatchError RegistrationId)
    (h : List DispatchDeed) : Prop :=
  ∀ trigger id, request.trigger.admitted? = some trigger → x = .ok id →
    ∃ d ∈ h, d.after.table.get? id = some ⟨id, { request with trigger }⟩

theorem accepted_error (request : RegisterRequest) (e : DispatchError) (h : List DispatchDeed) :
    Accepted request (.error e) h := nofun

theorem does_insertEntry (r : Registration) : (insertEntry r).Does fun _ ds =>
    ∃ s, ds = [(s, .accessed fun s => { s with table := (s.table.insert r).2 })] :=
  fun s => ⟨s, rfl⟩

theorem does_enter (request : RegisterRequest) :
    (DispatchAttempt.enter request).Does (Accepted request) := by
  refine (Attempt.Does.some _ _).bind (fun trigger _ htrigger => ?_) fun _ _ _ => nofun
  refine (Attempt.Does.any _).bind (fun _ ready _ => ?_) fun _ _ _ => nofun
  refine (Attempt.Does.any _).bind (fun replaced looked _ => ?_) fun _ _ _ => nofun
  refine (Attempt.Does.any _).bind (fun id drawn _ => ?_) fun _ _ _ => nofun
  refine (Attempt.Does.lift (does_insertEntry _)).bind ?_ fun _ _ _ => nofun
  rintro fresh _ ⟨_, -, s, rfl⟩
  refine (Attempt.Does.any _).bind (fun _ subscribed _ => ?_) fun _ _ _ => nofun
  refine (Attempt.Does.any _).bind (fun _ armed _ => ?_) fun _ _ _ => nofun
  refine (Attempt.Does.any _).bind (fun _ freed _ => ?_) fun _ _ _ => nofun
  refine (Attempt.Does.any _).bind (fun _ told _ => ?_) fun _ _ _ => nofun
  intro trigger' k htrigger' hk
  obtain rfl : trigger = trigger' := Option.some.inj ((htrigger trigger rfl).symm.trans htrigger')
  obtain rfl := Except.ok.inj hk
  let r : Registration := ⟨id, { request with trigger }⟩
  have hentered : (s.table.insert r).2.get? id = some r :=
    (RegistrationTable.get?_insert ..).trans (if_pos rfl)
  exact ⟨(s, .accessed fun s => { s with table := (s.table.insert r).2 }), by simp [r], hentered⟩

theorem does_register (request : RegisterRequest) :
    (register request).Does (Accepted request) := by
  refine Does.bind (does_enter request) ?_
  rintro (e | id) ds hentered
  · dsimp only
    split
    · refine (Does.any _).bind fun _ _ _ => (Does.any _).bind fun _ _ _ => ?_
      exact accepted_error request e _
    · exact accepted_error request e _
  · rw [← List.append_nil ds] at hentered
    exact hentered

end Dispatching

end DriverHub
