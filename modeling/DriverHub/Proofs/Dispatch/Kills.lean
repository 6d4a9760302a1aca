import DriverHub.Proofs.Dispatch.Ending
import DriverHub.Proofs.Dispatch.Intake
import DriverHub.Proofs.Dispatch.OneShot

/-! Callbacks that wait for the end of a job. The end looks once who waits; what is in the table then
is delivered to before the job is forgotten, unless somebody takes it back first. While these
callbacks run the job is still alive, so a registration for its end is accepted; but the end does not
look again, and what comes after its look is never delivered to and stays in the table. -/

namespace DriverHub

open DispatchTurn

namespace DispatchSession

open Flow (deeds)
open DispatchDeed (looks forgets)

variable {W : Type} {answers : Surroundings dispatchServices W} {s s₁ s₂ : DispatchState} {w : W}
  {p : DispatchSession W} {id : RegistrationId} {r r' : Registration} {job : JobId}

/-! ### What any session keeps -/

section

variable (hs : s.Sound) (h : (DispatchCall.setting answers).Leads s w p)

include hs h

theorem moved : ∀ t ∈ p.turns, ∃ g g' : Hand, g.Relies t.state ∧ g.Moves t.state t.act g' := by
  obtain ⟨_, _, hledger, _⟩ := exists_ledger rfl hs h
  exact hledger.moved

theorem killsIndexed (hkills : s.table.KillsIndexed) : p.state.table.KillsIndexed := by
  refine h.since (fun s => s.table.KillsIndexed) (fun t ht hindexed => ?_) (.inl hkills)
  obtain ⟨g, g', hrelies, hmove⟩ := moved hs h t ht
  exact hmove.killsIndexed hrelies hindexed

theorem countP_takes_le : p.turns.countP (takes id) ≤ 1 := by
  obtain ⟨_, _, hledger, _⟩ := exists_ledger rfl hs h
  have honce := hledger.once id
  omega

theorem get?_of_taken (htaken : 0 < p.turns.countP (takes id)) : p.state.table.get? id = none := by
  obtain ⟨_, _, hledger, _⟩ := exists_ledger rfl hs h
  have honce := hledger.once id
  by_contra hne
  rw [DispatchState.entered, if_pos (Option.isSome_iff_ne_none.2 hne)] at honce
  omega

theorem kept_or_taken {t : DispatchTurn} (ht : t ∈ p.turns)
    (hr : t.state.table.get? id = some r ∨ t.after.table.get? id = some r) :
    p.state.table.get? id = some r ∨ 0 < p.turns.countP (takes id) := by
  refine or_iff_not_imp_right.2 fun htaken => ?_
  refine h.since (fun s => s.table.get? id = some r) (fun u hu hseen => ?_) (.inr ⟨t, ht, hr⟩)
  obtain ⟨g, g', hrelies, hmove⟩ := moved hs h u hu
  refine hmove.get?_kept hrelies hseen u.caller ?_
  by_contra htakes
  exact htaken (List.countP_pos_iff.2 ⟨u, hu, by simpa using htakes⟩)

/-- Nothing else is ever seen under a number. -/
theorem eq_of_seen {t u : DispatchTurn} (ht : t ∈ p.turns) (hu : u ∈ p.turns)
    (hr : t.after.table.get? id = some r) (hr' : u.state.table.get? id = some r') : r = r' := by
  obtain ⟨before, after, hturns⟩ := List.append_of_mem ht
  have hlater {p' : DispatchSession W} {seen : Registration} {t : DispatchTurn}
      (hp' : (DispatchCall.setting answers).Leads s w p') (ht : t ∈ p'.turns)
      (hseen : t.state.table.get? id = some seen ∨ t.after.table.get? id = some seen)
      {found : Registration} (hfound : p'.state.table.get? id = some found) : found = seen := by
    rcases kept_or_taken hs hp' ht hseen with hkept | htaken
    · exact Option.some.inj (hfound.symm.trans hkept)
    · rw [get?_of_taken hs hp' htaken] at hfound
      cases hfound
  rw [hturns, List.append_cons, List.mem_append] at hu
  rcases hu with hu | hu
  · obtain ⟨p', hp', hturns', -⟩ := h.up_to (before ++ [t]) after (by simp [hturns])
    refine hlater hp' (hturns' ▸ hu) (.inl hr') ?_
    rwa [hp'.state_of_last hturns']
  · obtain ⟨middle, rest, rfl⟩ := List.append_of_mem hu
    obtain ⟨p', hp', hturns', hstate⟩ :=
      h.up_to (before ++ t :: middle) (u :: rest) (by simp [hturns])
    refine (hlater hp' (t := t) (by simp [hturns']) (.inr hr) ?_).symm
    rwa [hstate u (by simp)]

end

/-! ### The end of a job -/

/-- A call other than the one at a place took the registration out of the table. -/
def TakenElsewhere (p : DispatchSession W) (k : Nat) (id : RegistrationId) : Prop :=
  ∃ t ∈ p.turns, takes id t = true ∧ t.caller ≠ k

instance (p : DispatchSession W) (k : Nat) (id : RegistrationId) : Decidable (p.TakenElsewhere k id) :=
  inferInstanceAs (Decidable (∃ t ∈ p.turns, takes id t = true ∧ t.caller ≠ k))

/-- The call at a place has delivered to the registration, once, while the job was still alive. -/
structure DeliveredAtEnd (p : DispatchSession W) (k : Nat) (job : JobId) (id : RegistrationId) :
    Prop where
  once : p.turns.countP (delivers id) = 1
  alive : ∀ t ∈ p.turns, delivers id t = true →
    t.caller = k ∧ Dict.contains job t.state.jobs = true
  gone : p.state.table.get? id = none

/-- A session in which the call at a place has ended a job, and no other call fires. -/
structure EndedBy (answers : Surroundings dispatchServices W) (s : DispatchState) (w : W)
    (p : DispatchSession W) (k : Nat) (job : JobId) : Prop where
  sound : s.Sound
  kills : s.table.KillsIndexed
  alive : Dict.contains job s.jobs = true
  leads : (DispatchCall.setting answers).Leads s w p
  ended : p.callers[k]? = some ⟨.event (.jobTerminated job), .done ()⟩
  alone : ∀ i c, p.callers[i]? = some c → c.call.fires = true → i = k

/-- All may come in, and all jobs may end but one. -/
def outliving (job : JobId) : Intake where
  tabled _ := True
  queued _ := True
  ends other := other ≠ job
  again _ _ := trivial

theorem keeps_alive (job : JobId) (call : DispatchCall) (hfires : call.fires = false) :
    call.flow.Keeps (.stepwise fun s act =>
      Dict.contains job (act.after s).jobs = Dict.contains job s.jobs) () fun _ _ => True := by
  have hcovers : (outliving job).Covers call := by
    refine Intake.covers_of ?_ fun _ _ => ⟨fun _ => trivial, fun _ _ => trivial⟩
    rintro other rfl
    cases hfires
  exact (Intake.admits_flow hcovers).weaken (fun _ _ _ _ _ => trivial) (fun _ _ _ => trivial)
    fun _ _ _ _ _ hwithin => hwithin.jobs job (not_not.2 rfl)

namespace EndedBy

variable {k : Nat} {ds : List DispatchDeed} {d : DispatchDeed}

/-- A turn of another call leaves the job alive. -/
theorem spares (h : EndedBy answers s w p k job) {t : DispatchTurn} (ht : t ∈ p.turns)
    (hk : t.caller ≠ k) : Dict.contains job t.after.jobs = Dict.contains job t.state.jobs := by
  have hkeeps (call : DispatchCall) : call.flow.Keeps (.stepwise fun s act => call.fires = false →
      Dict.contains job (act.after s).jobs = Dict.contains job s.jobs) () fun _ _ => True := by
    cases hfires : call.fires with
    | false =>
      exact (keeps_alive job call hfires).weaken (fun _ _ => id) (fun _ _ => id)
        fun _ _ _ _ _ hmove _ => hmove
    | true => exact Flow.keeps_stepwise (fun _ _ => nofun) _
  obtain ⟨c, hc, hspares⟩ := h.leads.each_turn _ hkeeps t ht
  refine hspares ?_
  by_contra hfires
  exact hk (h.alone _ c hc (by simpa using hfires))

theorem exists_history (h : EndedBy answers s w p k job) :
    ∃ s₁ ds s₂, Dispatching.Ended job (deeds p.turns k) s₁ ds s₂ :=
  h.leads.told h.ended (Dispatching.does_jobTerminated job)

theorem caller_of_delivers (h : EndedBy answers s w p k job) {t : DispatchTurn} (ht : t ∈ p.turns)
    (hid : delivers id t = true) : t.caller = k := by
  obtain ⟨standings, hcallers, hledger, hfires⟩ := exists_ledger rfl h.sound h.leads
  obtain ⟨c, hc, hcfires⟩ := fires_of_delivers hcallers hledger hfires ht hid
  exact h.alone _ c hc hcfires

section

variable (h : EndedBy answers s w p k job) (hd : Dispatching.Ended job (deeds p.turns k) s₁ ds s₂)

include hd in
theorem found_first : p.found? k = some s₁ := by
  rw [p.found?_eq, hd.history]
  rfl

include hd in
theorem looked : (looks s₁).turn k ∈ p.turns := by
  refine Flow.mem_deeds.1 ?_
  rw [hd.history]
  exact List.mem_cons_self

include hd in
theorem countP_own (f : DispatchTurn → Bool) (hlooks : f ((looks s₁).turn k) = false)
    (hforgets : f ((forgets job s₂).turn k) = false) :
    p.turns.countP (fun t => t.caller = k && f t) = ds.countP fun d => f (d.turn k) := by
  rw [← Flow.countP_deeds, hd.history]
  change List.countP (fun d : DispatchDeed => f (d.turn k)) (looks s₁ :: ds ++ [forgets job s₂]) = _
  simp [List.countP_append, hlooks, hforgets]

include hd in
theorem takes_own (id : RegistrationId) : p.turns.countP (fun t => t.caller = k && takes id t) =
    ds.countP fun d => takes id (d.turn k) :=
  countP_own hd (takes id) (takes_of_table_eq rfl id) (takes_of_table_eq rfl id)

include h hd

/-- Between its look and its last step, the end finds a state that a session leads to, in which it has
looked and not done its last step. -/
theorem exists_session_at (hmem : d ∈ ds) : ∃ p' : DispatchSession W,
    (DispatchCall.setting answers).Leads s w p' ∧ p'.state = d.1 ∧
    (∃ after, p.turns = p'.turns ++ d.turn k :: after) ∧ (looks s₁).turn k ∈ p'.turns ∧
    ∀ e : DispatchDeed, e ∈ deeds p'.turns k → e.after.jobs = e.1.jobs := by
  obtain ⟨left, right, rfl⟩ := List.append_of_mem hmem
  have hsplit : deeds p.turns k = (looks s₁ :: left) ++ d :: (right ++ [forgets job s₂]) := by
    simp [hd.history]
  obtain ⟨before, after, hturns, hbefore⟩ := Flow.exists_turn_of_deeds hsplit
  obtain ⟨p', hp', rfl, hstate⟩ := h.leads.up_to before _ hturns
  refine ⟨p', hp', hstate _ rfl, ⟨after, hturns⟩, ?_, ?_⟩
  · refine Flow.mem_deeds.1 ?_
    rw [hbefore]
    exact List.mem_cons_self
  · intro e he
    rw [hbefore] at he
    rcases List.mem_cons.1 he with rfl | he
    · rfl
    · exact hd.served.jobs e (by simp [he])

theorem contains_job (hmem : d ∈ ds) : Dict.contains job d.1.jobs = true := by
  obtain ⟨p', hp', hstate, ⟨after, hturns⟩, -, hjobs⟩ := h.exists_session_at hd hmem
  rw [← hstate]
  refine hp'.since (fun s => Dict.contains job s.jobs = true) (fun t ht halive => ?_) (.inl h.alive)
  by_cases hk : t.caller = k
  · have hsame : t.after.jobs = t.state.jobs :=
      hjobs (t.state, t.act) (Flow.mem_deeds.2 (hk ▸ ht))
    rwa [hsame]
  · rwa [h.spares (hturns ▸ List.mem_append_left _ ht) hk]

theorem mem_waitingFor : id ∈ s₁.table.waitingFor job ↔
    ∃ r, s₁.table.get? id = some r ∧ r.request.trigger = .kill job := by
  obtain ⟨before, after, hturns⟩ := List.append_of_mem (looked hd)
  obtain ⟨p', hp', -, hstate⟩ := h.leads.up_to before _ hturns
  have hkills := killsIndexed h.sound hp' h.kills job id
  rw [show p'.state = s₁ from hstate _ rfl] at hkills
  simp only [hkills, RegistrationTable.awaited?_eq_some]

theorem eq_of_found (hmem : d ∈ ds) (hr : s₁.table.get? id = some r)
    (hr' : d.1.table.get? id = some r') : r' = r := by
  obtain ⟨p', hp', hstate, -, hlooked, -⟩ := h.exists_session_at hd hmem
  rw [← hstate] at hr'
  rcases kept_or_taken h.sound hp' hlooked (.inl hr) with hkept | htaken
  · exact Option.some.inj (hr'.symm.trans hkept)
  · rw [get?_of_taken h.sound hp' htaken] at hr'
    cases hr'

theorem taken_of_waiting (hid : id ∈ s₁.table.waitingFor job) : 0 < p.turns.countP (takes id) := by
  obtain ⟨r, hr, -⟩ := (h.mem_waitingFor hd).1 hid
  obtain ⟨d, hmem, hgone⟩ := hd.served.gone id hid
  obtain ⟨p', hp', hstate, ⟨after, hturns⟩, hlooked, -⟩ := h.exists_session_at hd hmem
  rw [hturns, List.countP_append, List.countP_cons]
  rcases kept_or_taken h.sound hp' hlooked (.inl hr) with hkept | htaken
  · have htakes : takes id (d.turn k) = true := by
      rw [hstate] at hkept
      have hafter : (d.turn k).after.table.get? id = none := hgone
      simp [takes, hafter, show (d.turn k).state.table.get? id = some r from hkept]
    rw [if_pos htakes]
    omega
  · omega

/-- The end delivers to whom it takes out, and nobody else delivers. -/
theorem countP_delivers (id : RegistrationId) :
    p.turns.countP (delivers id) = p.turns.countP fun t => t.caller = k && takes id t := by
  have honce : ∀ d ∈ ds, ∀ i ∈ s₁.table.waitingFor job, ∀ r, d.1.table.get? i = some r →
      r.id = i ∧ r.request.trigger.isOneShot = true := by
    intro d hmem i hi r hr
    obtain ⟨r', hr', htrigger⟩ := (h.mem_waitingFor hd).1 hi
    obtain rfl := h.eq_of_found hd hmem hr' hr
    obtain ⟨g, g', hrelies, -⟩ := moved h.sound h.leads _ (looked hd)
    exact ⟨hrelies.sound.indexed.id_eq hr', by rw [htrigger]; rfl⟩
  calc p.turns.countP (delivers id)
    _ = p.turns.countP fun t => t.caller = k && delivers id t := by
      refine List.countP_congr fun t ht => ?_
      have hcaller : delivers id t = true → t.caller = k := h.caller_of_delivers ht
      grind
    _ = ds.countP fun d => delivers id (d.turn k) := countP_own hd _ rfl rfl
    _ = ds.countP fun d => takes id (d.turn k) := (hd.served.balance k honce id).symm
    _ = p.turns.countP fun t => t.caller = k && takes id t := (takes_own hd id).symm

/-- Whoever waits when the end looks is delivered to, unless somebody else takes it out. -/
theorem deliveredAtEnd (hr : s₁.table.get? id = some r) (htrigger : r.request.trigger = .kill job)
    (hkept : ¬ p.TakenElsewhere k id) : p.DeliveredAtEnd k job id := by
  have htaken := h.taken_of_waiting hd ((h.mem_waitingFor hd).2 ⟨r, hr, htrigger⟩)
  have hown : p.turns.countP (takes id) = p.turns.countP fun t => t.caller = k && takes id t := by
    refine List.countP_congr fun t ht => ?_
    have helsewhere : takes id t = true → t.caller = k := fun htakes =>
      by_contra fun hk => hkept ⟨t, ht, htakes, hk⟩
    grind
  refine ⟨?_, ?_, get?_of_taken h.sound h.leads htaken⟩
  · have hle : p.turns.countP (takes id) ≤ 1 := countP_takes_le h.sound h.leads
    rw [h.countP_delivers hd, ← hown]
    omega
  · intro t ht hid
    have hcaller : t.caller = k := h.caller_of_delivers ht hid
    refine ⟨hcaller, ?_⟩
    have hdeed : (t.state, t.act) ∈ deeds p.turns k := Flow.mem_deeds.2 (hcaller ▸ ht)
    rw [hd.history] at hdeed
    rcases List.mem_append.1 hdeed with hdeed | hdeed
    · rcases List.mem_cons.1 hdeed with hlooks | hmem
      · obtain ⟨-, hact⟩ := Prod.mk.inj hlooks
        simp [delivers, hact] at hid
      · exact h.contains_job hd hmem
    · obtain ⟨-, hact⟩ := Prod.mk.inj (List.mem_singleton.1 hdeed)
      simp [delivers, hact] at hid

theorem countP_delivers_of_late (hnone : s₁.table.get? id = none) : p.turns.countP (delivers id) = 0 := by
  rw [h.countP_delivers hd, takes_own hd, List.countP_eq_zero]
  intro d hmem htakes
  obtain ⟨r, hr, -⟩ := (h.mem_waitingFor hd).1 (hd.served.mem_of_takes d hmem htakes)
  rw [hnone] at hr
  cases hr

theorem late_of_waiting (hr : p.state.table.get? id = some r) (htrigger : r.request.trigger = .kill job) :
    s₁.table.get? id = none := by
  by_contra hfirst
  obtain ⟨r', hr'⟩ := Option.ne_none_iff_exists'.1 hfirst
  have hgone {hcount : 0 < p.turns.countP (takes id)} : False := by
    rw [get?_of_taken h.sound h.leads hcount] at hr
    cases hr
  rcases kept_or_taken h.sound h.leads (looked hd) (.inl hr') with hkept | htaken
  · obtain rfl : r = r' := Option.some.inj (hr.symm.trans hkept)
    exact @hgone (h.taken_of_waiting hd ((h.mem_waitingFor hd).2 ⟨r, hr', htrigger⟩))
  · exact @hgone htaken

end

theorem exists_entered (h : EndedBy answers s w p k job) {i : Nat} {request : RegisterRequest}
    (hcaller : p.callers[i]? = some ⟨.register request, .done (.ok id)⟩)
    (htrigger : request.trigger = .kill job) :
    ∃ t ∈ p.turns, t.after.table.get? id = some ⟨id, request⟩ := by
  have haccepted := h.leads.told hcaller (Dispatching.does_register request)
  obtain ⟨d, hmem, hentered⟩ := haccepted (.kill job) id (by rw [htrigger]; rfl) rfl
  refine ⟨⟨i, d.1, d.2⟩, Flow.mem_deeds.1 hmem, ?_⟩
  rw [← htrigger] at hentered
  exact hentered

end EndedBy

end DispatchSession

open DispatchSession in
/-- Of the registrations for the end of a job that are accepted, those that are in the table when the
end looks are each delivered to once while the job is alive, and are gone; those that come later are not
delivered to, and stay in the table without the job. Nobody else who waits for the job is left, and
only what somebody takes back is exempt. -/
theorem kill_lost_iff_entered_late {W : Type} {answers : Surroundings dispatchServices W}
    {s : DispatchState} {w : W} {p : DispatchSession W} {k : Nat} {job : JobId}
    (h : EndedBy answers s w p k job) :
    ∃ s₁, p.found? k = some s₁ ∧
      (∀ id r, s₁.table.get? id = some r → r.request.trigger = .kill job → ¬ p.TakenElsewhere k id →
        p.DeliveredAtEnd k job id) ∧
      (∀ (i : Nat) request id, p.callers[i]? = some ⟨.register request, .done (.ok id)⟩ →
        request.trigger = .kill job → ¬ p.TakenElsewhere k id →
        s₁.table.get? id = some ⟨id, request⟩ ∧ p.DeliveredAtEnd k job id ∨
        s₁.table.get? id = none ∧ p.state.table.get? id = some ⟨id, request⟩ ∧
          p.turns.countP (delivers id) = 0) ∧
      ∀ id r, p.state.table.get? id = some r → r.request.trigger = .kill job →
        s₁.table.get? id = none := by
  obtain ⟨s₁, ds, s₂, hd⟩ := h.exists_history
  refine ⟨s₁, EndedBy.found_first hd, fun id r => h.deliveredAtEnd hd, ?_, fun id r => h.late_of_waiting hd⟩
  intro i request id hcaller htrigger hkept
  obtain ⟨t, ht, hentered⟩ := h.exists_entered hcaller htrigger
  cases hfirst : s₁.table.get? id with
  | some r =>
    obtain rfl := eq_of_seen h.sound h.leads ht (EndedBy.looked hd) hentered hfirst
    exact .inl ⟨rfl, h.deliveredAtEnd hd hfirst htrigger hkept⟩
  | none =>
    have hnone := h.countP_delivers_of_late hd hfirst
    refine .inr ⟨rfl, ?_, hnone⟩
    refine (kept_or_taken h.sound h.leads ht (.inr hentered)).resolve_right fun htaken => ?_
    -- whoever took it out is the end, which takes out nobody that comes late
    obtain ⟨u, hu, htakes⟩ := List.countP_pos_iff.1 htaken
    rw [h.countP_delivers hd, List.countP_eq_zero] at hnone
    refine hkept ⟨u, hu, htakes, fun hk => hnone u hu ?_⟩
    simp [hk, htakes]

namespace DispatchSession

/-- A callback that is to run when job 1 ends. -/
def farewell : RegisterRequest :=
  { program := "lamp", function := { name := "farewell", mode := .attach 1 }, trigger := .kill 1 }

/-- A callback is registered for the end of job 1. The job ends, and while that callback runs, another
one is registered. -/
def lateKill : DispatchSession Unit :=
  (Flow.Session.opened (DispatchCall.setting fun _ _ _ _ => True)
    [.register farewell, .event (.jobTerminated 1), .register farewell] { jobs := [(1, "lamp")] } ()).turnsOf
    (DispatchCall.setting fun _ _ _ _ => True) failing
    ([0, 0, 0, 0, 0] ++ [1, 1, 1] ++ [2, 2, 2, 2, 2] ++ [1, 1])

theorem callers_lateKill : lateKill.callers =
    [⟨.register farewell, .done (.ok 1)⟩, ⟨.event (.jobTerminated 1), .done ()⟩,
      ⟨.register farewell, .done (.ok 2)⟩] := rfl

theorem endedBy_lateKill :
    EndedBy (fun _ _ _ _ => True) { jobs := [(1, "lamp")] } () lateKill 1 1 where
  sound := ⟨.empty, nofun⟩
  kills := .empty
  alive := rfl
  leads := (Flow.Setting.Leads.opened _ fun _ _ => trivial).turnsOf (fun _ _ => trivial) _
  ended := rfl
  alone i c hc hfires := by
    rw [callers_lateKill] at hc
    match i, hc with
    | 0, hc | 2, hc =>
      cases hc
      cases hfires
    | 1, _ => rfl

end DispatchSession

open DispatchSession in
/-- The first callback is run; the second one was accepted, and is left in the table. -/
theorem farewell_lost_entered_late :
    lateKill.DeliveredAtEnd 1 1 1 ∧ lateKill.turns.countP (delivers 2) = 0 ∧
      lateKill.state.table.get? 2 = some ⟨2, farewell⟩ := by
  obtain ⟨s₁, -, -, haccepted, -⟩ := kill_lost_iff_entered_late endedBy_lateKill
  refine ⟨?_, ?_⟩
  · rcases haccepted 0 farewell 1 rfl rfl (by decide) with ⟨-, hdelivered⟩ | ⟨-, hleft, -⟩
    · exact hdelivered
    · cases hleft
  · rcases haccepted 2 farewell 2 rfl rfl (by decide) with ⟨-, hdelivered⟩ | ⟨-, hleft, hnone⟩
    · exact absurd hdelivered.gone (by decide)
    · exact ⟨hnone, hleft⟩

open DispatchSession in
/-- Of two registrations that are accepted and not taken back, the end of the job delivers to one; the
other one waits for it when it has ended. -/
theorem farewell_accepted_and_lost :
    EndedBy (fun _ _ _ _ => True) { jobs := [(1, "lamp")] } () lateKill 1 1 ∧ lateKill.AtRest ∧
      lateKill.callers[2]? = some ⟨.register farewell, .done (.ok 2)⟩ ∧
      ¬ lateKill.TakenElsewhere 1 2 ∧ ¬ lateKill.DeliveredAtEnd 1 1 2 ∧
      lateKill.state.table.waitingFor 1 = [2] ∧ lateKill.state.jobs = [] := by
  refine ⟨endedBy_lateKill, by decide, rfl, by decide, fun h => ?_, rfl, rfl⟩
  exact absurd h.gone (by decide)

end DriverHub
