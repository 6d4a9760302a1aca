import DriverHub.Proofs.Dispatch.Turnover

/-! Adaptive registrations stand alone. Of all that a program registered for the same trigger at most one
is adaptive, since each that comes takes the place of the one before it. -/

namespace DriverHub

/-! ### Who replaces whom -/

theorem Trigger.same_comm (trigger other : Trigger) : trigger.same other = other.same trigger := by
  cases trigger <;> cases other <;> simp [same, TimeTrigger.same, eq_comm]

theorem RegisterRequest.replaces_comm (request other : RegisterRequest) :
    request.replaces other = other.replaces request := by
  unfold replaces
  rw [Trigger.same_comm, Bool.and_comm request.function.mode.isAdaptive]
  simp only [eq_comm]

theorem Trigger.same_trans {trigger other third : Trigger} (h : trigger.same other = true)
    (h' : other.same third = true) : trigger.same third = true := by
  cases trigger <;> cases other <;> cases third <;> simp_all [same, TimeTrigger.same]

/-- An adaptive registration of the program for the trigger. -/
def Registration.isAdaptiveFor (program : String) (trigger : Trigger) (r : Registration) : Bool :=
  r.request.function.mode.isAdaptive && r.request.program = program && r.request.trigger.same trigger

theorem RegisterRequest.replaces_eq {request : RegisterRequest}
    (h : request.function.mode.isAdaptive = true) (r : Registration) :
    request.replaces r.request = r.isAdaptiveFor request.program request.trigger := by
  simp [replaces, Registration.isAdaptiveFor, h]

/-- Two adaptive registrations for the same would replace each other. -/
theorem Registration.replaces_of_isAdaptiveFor {program : String} {trigger : Trigger}
    {r r' : Registration} (h : r.isAdaptiveFor program trigger = true)
    (h' : r'.isAdaptiveFor program trigger = true) : r.request.replaces r'.request = true := by
  simp only [isAdaptiveFor, Bool.and_eq_true, decide_eq_true_eq] at h h'
  obtain ⟨⟨hadaptive, hprogram⟩, htrigger⟩ := h
  obtain ⟨⟨hadaptive', hprogram'⟩, htrigger'⟩ := h'
  rw [Trigger.same_comm] at htrigger
  have hsame : r'.request.trigger.same r.request.trigger = true := Trigger.same_trans htrigger' htrigger
  simp [RegisterRequest.replaces, hadaptive, hadaptive', hprogram, hprogram', hsame]

/-- No registration in a table would replace another. -/
def Unrivalled (table : List Registration) : Prop :=
  table.Pairwise fun r r' => r.request.replaces r'.request = false

namespace Unrivalled

variable {table table' : List Registration}

theorem enter (h : Unrivalled table) (r : Registration) :
    Unrivalled ((table.filter fun old => !r.request.replaces old.request) ++ [r]) := by
  apply List.pairwise_append.2
  refine ⟨h.filter _, List.pairwise_singleton _ _, ?_⟩
  intro old hold new hnew
  obtain rfl := List.mem_singleton.1 hnew
  rw [RegisterRequest.replaces_comm]
  simpa using (List.mem_filter.1 hold).2

theorem enterAll (h : Unrivalled table) (new : List Registration) :
    Unrivalled (unreplaced new table ++ standing new) := by
  -- by the registrations that come, the first of which replaces in the table that it finds
  induction new generalizing table with
  | nil => simpa [unreplaced_nil, standing] using h
  | cons r later ih =>
    rw [unreplaced_cons, standing, ← List.append_assoc, ← unreplaced_append]
    exact ih (h.enter r)

theorem turned {drops : List RegistrationId} {brings : List RegisterRequest} (h : Unrivalled table)
    (hturned : Turned drops brings table table') : Unrivalled table' := by
  obtain ⟨dropped, new, -, -, rfl⟩ := hturned
  exact enterAll (h.filter _) new

/-- So there is at most one adaptive registration of a program for a trigger. -/
theorem length_le_one (h : Unrivalled table) (program : String) (trigger : Trigger) :
    (table.filter (·.isAdaptiveFor program trigger)).length ≤ 1 := by
  have hpairwise : (table.filter (·.isAdaptiveFor program trigger)).Pairwise fun r r' =>
      r.request.replaces r'.request = false := h.filter _
  have hall : ∀ r ∈ table.filter (·.isAdaptiveFor program trigger),
      r.isAdaptiveFor program trigger = true := fun r hr => (List.mem_filter.1 hr).2
  generalize table.filter (·.isAdaptiveFor program trigger) = alike at hpairwise hall
  match alike with
  | [] => simp
  | [_] => simp
  | r :: r' :: _ =>
    have hreplaces : r.request.replaces r'.request = true :=
      Registration.replaces_of_isAdaptiveFor (hall r (by simp)) (hall r' (by simp))
    have hrivals : r.request.replaces r'.request = false :=
      List.rel_of_pairwise_cons hpairwise List.mem_cons_self
    rw [hreplaces] at hrivals
    cases hrivals

end Unrivalled

/-! ### What is in the table -/

/-- In the table a request is without blank topics. -/
def Registration.Kept (r : Registration) : Prop :=
  r.request.trigger.admitted? = some r.request.trigger

theorem Registration.Stems.kept {brings : List RegisterRequest} {r : Registration} (h : r.Stems brings) :
    r.Kept := by
  obtain ⟨request, -, hadmitted, heq⟩ := h
  obtain ⟨trigger, htrigger⟩ := Option.isSome_iff_exists.1 hadmitted
  unfold Kept
  rw [heq, RegisterRequest.admitted_of_some htrigger]
  exact Trigger.admitted?_admitted? htrigger

theorem mem_of_mem_standing {r : Registration} {new : List Registration} (h : r ∈ standing new) :
    r ∈ new := by
  induction new with
  | nil => cases h
  | cons first later ih =>
    rcases List.mem_append.1 h with hfirst | hlater
    · obtain rfl := List.mem_singleton.1 (List.mem_of_mem_filter hfirst)
      exact List.mem_cons_self
    · exact List.mem_cons_of_mem _ (ih hlater)

theorem Turned.mem_or_stems {drops : List RegistrationId} {brings : List RegisterRequest}
    {table table' : List Registration} (h : Turned drops brings table table') {r : Registration}
    (hr : r ∈ table') : r ∈ table ∨ r.Stems brings := by
  obtain ⟨dropped, new, -, hnew, rfl⟩ := h
  rcases List.mem_append.1 hr with hold | hstands
  · exact .inl (List.mem_of_mem_filter (List.mem_of_mem_filter hold))
  · exact .inr (hnew r (mem_of_mem_standing hstands))

namespace Dispatched

variable {s : DispatchState}

theorem unrivalled (h : Dispatched s) : Unrivalled s.table.registrations := by
  induction h with
  | start => exact .nil
  | happen before ends ih => exact ih.turned (before.turned ends)

theorem kept (h : Dispatched s) : ∀ r ∈ s.table.registrations, r.Kept := by
  induction h with
  | start => exact nofun
  | happen before ends ih =>
    intro r hr
    rcases (before.turned ends).mem_or_stems hr with hold | hstems
    · exact ih r hold
    · exact hstems.kept

end Dispatched

/-! ### One at a time -/

/-- After one thing and another has happened to a dispatcher, no two registrations in its table that are
adaptive belong to one program and have equal triggers; there all triggers are without blank topics, and
timers are equal if they fire at the same time. An adaptive request that is registered comes to the end
of the table, and besides only the one adaptive registration of its program for the same trigger leaves
it, if there was one. Reading annotations anew leads to such a dispatcher too. -/
theorem Dispatched.adaptive_alone {s : DispatchState} (h : Dispatched s) :
    (∀ r ∈ s.table.registrations, r.request.trigger.admitted? = some r.request.trigger) ∧
    (s.table.registrations.Pairwise fun r r' => r.request.function.mode.isAdaptive = true →
      r'.request.function.mode.isAdaptive = true → r.request.program = r'.request.program →
        r.request.trigger.same r'.request.trigger = false) ∧
    (∀ {W : Type} {R : Surroundings dispatchServices W} {w w' : W} {request : RegisterRequest}
        {id : RegistrationId} {s' : DispatchState}, request.function.mode.isAdaptive = true →
      Flow.Ends R (Dispatching.register request) s w (.ok id) s' w' →
        ∃ trigger, request.trigger.admitted? = some trigger ∧
          (s.table.registrations.filter (·.isAdaptiveFor request.program trigger)).length ≤ 1 ∧
          s'.table.registrations =
            (s.table.registrations.filter fun r => !r.isAdaptiveFor request.program trigger) ++
              [⟨id, { request with trigger }⟩]) ∧
    ∀ (reload : Reload) {W : Type} {R : Surroundings dispatchServices W} {w w' : W}
        {x : Except DispatchError Nat} {s' : DispatchState},
      Flow.Ends R reload.flow s w x s' w' → Dispatched s' := by
  refine ⟨h.kept, ?_, ?_, fun reload _ _ _ _ _ _ ends => reload.reaches.ends h ends⟩
  · apply h.unrivalled.imp
    intro r r' hrivals hadaptive hadaptive' hprogram
    rw [Trigger.same_comm]
    simpa [RegisterRequest.replaces, hadaptive, hadaptive', hprogram] using hrivals
  · intro W R w w' request id s' hadaptive ends
    obtain ⟨hadmitted, hs'⟩ := h.registered ends
    obtain ⟨trigger, htrigger⟩ := Option.isSome_iff_exists.1 hadmitted
    refine ⟨trigger, htrigger, h.unrivalled.length_le_one _ _, ?_⟩
    rw [hs'.table, RegisterRequest.admitted_of_some htrigger]
    have hrequest : ({ request with trigger } : RegisterRequest).function.mode.isAdaptive = true :=
      hadaptive
    simp only [RegisterRequest.replaces_eq hrequest]

/-- The porch has a callback for the lamp that is called in a context of its own, and one that is
adaptive. -/
def porchLit : DispatchState :=
  ((Happening.call (.register (waitingPorch "lamp"))).flow.play (refusing "bell") porchState false).2.1

theorem dispatched_porchLit : Dispatched porchLit := dispatched_porchState.play _ _ _

/-- An adaptive request of the porch for the lamp that names a blank topic too. -/
def blankPorch : RegisterRequest :=
  { waitingPorch "lamp" with trigger := .message ["lamp", " "] }

/-- How this is registered. -/
def porchRelit : Except DispatchError RegistrationId × DispatchState × Bool :=
  (Dispatching.register blankPorch).play (refusing "bell") porchLit false

/-- It takes the place of the adaptive registration for the lamp, and the other one stays. -/
theorem Dispatched.porch_adaptive_alone :
    porchLit.table.registrations.map (·.id) = [1, 2] ∧
    Flow.Ends anyAnswers (Dispatching.register blankPorch) porchLit false (.ok 3) porchRelit.2.1
      false ∧
    (∃ trigger, blankPorch.trigger.admitted? = some trigger ∧
      porchRelit.2.1.table.registrations =
        (porchLit.table.registrations.filter fun r => !r.isAdaptiveFor "porch" trigger) ++
          [⟨3, { blankPorch with trigger }⟩]) ∧
    porchRelit.2.1.table.registrations.map (·.id) = [1, 3] := by
  have hends : Flow.Ends anyAnswers (Dispatching.register blankPorch) porchLit false porchRelit.1
      porchRelit.2.1 porchRelit.2.2 :=
    Flow.ends_play (fun _ _ => trivial) (Dispatching.register blankPorch) porchLit false
  have hregistered : Flow.Ends anyAnswers (Dispatching.register blankPorch) porchLit false (.ok 3)
      porchRelit.2.1 false := hends
  obtain ⟨-, -, hregister, -⟩ := Dispatched.adaptive_alone dispatched_porchLit
  obtain ⟨trigger, hadmitted, -, htable⟩ := hregister rfl hregistered
  exact ⟨by decide, hregistered, ⟨trigger, hadmitted, htable⟩, by decide⟩

end DriverHub
