import DriverHub.Proofs.Dispatch.Intake
import DriverHub.Proofs.Dispatch.OneShot

/-! Taking back all that a program registered. It empties the table of the program's registrations,
but not the queue of its requests: what waits there for the next sweep is entered by it. So the program
stays out if and only if nothing of it is queued. -/

namespace DriverHub

/-! ### What may come to a dispatcher -/

/-- A call of the dispatcher, or a change around it. -/
inductive Happening where
  | call (call : DispatchCall)
  | brokerSet
  | jobStarted (job : JobId) (program : String)
  | jobRemoved (job : JobId)

namespace Happening

@[reducible]
def Result : Happening → Type
  | call c => c.Result
  | _ => Unit

def flow : (happening : Happening) → Dispatching happening.Result
  | call c => c.flow
  | brokerSet => Flow.change fun s => { s with broker := true }
  | jobStarted job program => Flow.change fun s => { s with jobs := Dict.insert job program s.jobs }
  | jobRemoved job => Flow.change fun s => { s with jobs := Dict.erase job s.jobs }

/-- Such happenings as are admitted, in any order of turns. -/
def setting {W : Type} (R : Surroundings dispatchServices W) (admits : Happening → Prop) :
    Flow.Setting dispatchServices DispatchState W Result where
  answers := R
  flow := flow
  admits := admits
  permits _ _ := True

instance {W : Type} (R : Surroundings dispatchServices W) (admits : Happening → Prop)
    (p : Flow.Session dispatchServices DispatchState W Result) (t : DispatchTurn) :
    Decidable ((setting R admits).permits p t) :=
  inferInstanceAs (Decidable True)

/-- A happening that registers nothing for the program. -/
def Spares (program : String) : Happening → Prop
  | call (.register request) => request.program ≠ program
  | _ => True

def fires : Happening → Bool
  | call c => c.fires
  | _ => false

/-- What a happening has in hand when it ends. -/
def Ends : (happening : Happening) → happening.Result → Hand → Prop
  | call c, x, g => c.Ends x g
  | _, _, _ => True

theorem keeps_flow (happening : Happening) :
    happening.flow.Keeps Hand.protocol ⟨happening.fires, [], []⟩ happening.Ends := by
  cases happening with
  | call c => exact c.keeps_flow
  | _ => exact Dispatching.keeps_change (fun _ => rfl) (fun _ => rfl) trivial

end Happening

variable {W : Type} {R : Surroundings dispatchServices W} {s : DispatchState} {w : W}
  {admits : Happening → Prop} {p : Flow.Session dispatchServices DispatchState W Happening.Result}

/-! ### What every session keeps -/

/-- What calls keep by bringing in no more than may come, and changes around keep too, holds in every
session. -/
theorem Happening.preserved (A : Intake) (Inv : DispatchState → Prop)
    (h : (Happening.setting R admits).Leads s w p) (hcovers : ∀ c, admits (.call c) → A.Covers c)
    (hqueue : ∀ s, Inv s → ∀ r ∈ s.pending, A.queued r)
    (hwithin : ∀ s s', Inv s → A.Within s s' → Inv s')
    (haround : ∀ s broker jobs, Inv s → Inv { s with broker, jobs }) (hs : Inv s) : Inv p.state := by
  refine h.preserved ?_ hs
  intro happening hadmitted
  cases happening with
  | call c =>
    exact Flow.Keeps.weaken (Intake.admits_flow (hcovers c hadmitted)) (fun _ => hqueue)
      (fun _ _ => id) fun _ s _ _ => hwithin s _
  | brokerSet => exact fun s hs => ⟨(), haround s _ _ hs, trivial⟩
  | jobStarted job program => exact fun s hs => ⟨(), haround s _ _ hs, trivial⟩
  | jobRemoved job => exact fun s hs => ⟨(), haround s _ _ hs, trivial⟩

/-- A request that waits for messages is the only kind that is ever queued. -/
def RegisterRequest.Listens (request : RegisterRequest) : Prop :=
  ∃ topics, request.trigger.admitted? = some (.message topics)

/-- Whatever comes is let in; only requests for messages are queued. -/
def Intake.anything : Intake where
  tabled _ := True
  queued := RegisterRequest.Listens
  ends _ := True
  again _ _ := trivial

theorem Intake.covers_anything (c : DispatchCall) : anything.Covers c :=
  covers_of (fun _ _ => trivial) fun _ _ => ⟨fun _ => trivial, fun _ h => ⟨_, h⟩⟩

/-- Nothing of a program is let in. -/
def Intake.without (program : String) : Intake where
  tabled r := r.program ≠ program
  queued r := r.program ≠ program
  ends _ := True
  again h _ := h

theorem Intake.covers_without {program : String} {c : DispatchCall}
    (h : Happening.Spares program (.call c)) : (without program).Covers c := by
  refine covers_of (fun _ _ => trivial) ?_
  rintro request rfl
  exact ⟨fun _ => h, fun _ _ => h⟩

/-- The table and the queue of a dispatcher that things happened to from its start. -/
structure DispatchState.Regular (s : DispatchState) : Prop where
  holds : s.Holds s.table.registrations s.pending
  listens : ∀ r ∈ s.pending, r.Listens

theorem Happening.regular (h : (Happening.setting R admits).Leads {} w p) : p.state.Regular := by
  obtain ⟨_, -, hledger, -⟩ := DispatchSession.exists_ledger_of Happening.fires Happening.Ends
    Happening.keeps_flow DispatchState.Holds.nothing.sound h
  have hkept := Happening.preserved .anything (fun s =>
    Dict.Sorted s.table.all ∧ ∀ r ∈ s.pending, r.Listens) h (fun c _ => Intake.covers_anything c)
    (fun _ hs => hs.2) ?_ (fun _ _ _ hs => hs) ⟨.nil, nofun⟩
  · exact ⟨.of_sound hledger.sound hkept.1, hkept.2⟩
  · intro s s' hs hwithin
    exact ⟨hwithin.sorted hs.1, fun r hr => (hwithin.queue r hr).elim (hs.2 r) id⟩

theorem RegistrationTable.ofProgram_eq_nil {program : String} {table : RegistrationTable} :
    table.ofProgram program = [] ↔ ∀ r ∈ table.registrations, r.request.program ≠ program := by
  rw [ofProgram, List.map_eq_nil_iff, List.filter_eq_nil_iff]
  simp

theorem Happening.stays_out {program : String} (htable : s.table.ofProgram program = [])
    (hqueue : ∀ r ∈ s.pending, r.program ≠ program)
    (h : (Happening.setting R (Happening.Spares program)).Leads s w p) :
    p.state.table.ofProgram program = [] := by
  have hout := Happening.preserved (.without program) (fun s =>
    (∀ r ∈ s.table.registrations, r.request.program ≠ program) ∧ ∀ r ∈ s.pending, r.program ≠ program)
    h (fun _ => Intake.covers_without) (fun _ hs => hs.2) ?_ (fun _ _ _ hs => hs)
    ⟨RegistrationTable.ofProgram_eq_nil.1 htable, hqueue⟩
  · exact RegistrationTable.ofProgram_eq_nil.2 hout.1
  · intro s s' hs hwithin
    refine ⟨fun r hr => (hwithin.table r hr).elim (hs.1 r) id, ?_⟩
    exact fun r hr => (hwithin.queue r hr).elim (hs.2 r) id

/-! ### Taking back all registrations of a program -/

open Dispatching

theorem ensures_unregisterProgram {table : List Registration} {queue : List RegisterRequest}
    (h : Quiet R) (hs : s.Holds table queue) (program : String) :
    (unregisterProgram program).Ensures R s w fun _ s' w' =>
      s'.Holds (table.filter fun r => r.request.program ≠ program) queue ∧ w' = w := by
  have hids : s.table.ofProgram program =
      (table.filter fun r => r.request.program = program).map (·.id) := by
    rw [RegistrationTable.ofProgram, hs.table]
  refine Flow.Ensures.mono (ensures_unregisterAll h hs _) ?_
  rintro _ s' _ ⟨hs', rfl⟩
  refine ⟨?_, rfl⟩
  simp only [hids] at hs'
  rw [filter_not_mem hs.nodup] at hs'
  simpa using hs'

theorem ends_unregisterProgram {program : String} {n : Nat} {s' : DispatchState} {w' : W}
    (hs : s.Regular) (h : Flow.Ends R (unregisterProgram program) s w n s' w') :
    s'.table.ofProgram program = [] ∧ s'.Regular := by
  have hs' := (Flow.Ensures.anywhere ((ensures_unregisterProgram quiet_anything hs.holds program).mono
    fun _ _ _ h => h.1)).ends h
  refine ⟨?_, .of_sound hs'.sound hs'.sorted, ?_⟩
  · rw [RegistrationTable.ofProgram_eq_nil, hs'.table]
    exact fun r hr => by simpa using (List.mem_filter.1 hr).2
  · rw [hs'.queue]
    exact hs.listens

/-! ### The next sweep -/

/-- An answer of a broker that accepts every subscription; whatever else is answered. -/
def DispatchService.Accepted : (q : DispatchService) → q.Answer → Prop
  | .subscribe _, x => x = .ok ()
  | _, _ => True

/-- Surroundings that always answer, and may accept every subscription. -/
def Accepts (R : Surroundings dispatchServices W) : Prop :=
  ∀ w q, ∃ b v, R w q b v ∧ q.Accepted b

/-- A broker that accepts every subscription. -/
def accepting : Surroundings dispatchServices Unit := fun _ q b _ => q.Accepted b

theorem quiet_accepting : Quiet accepting := fun _ _ _ _ _ _ => rfl

section

variable {table : List Registration} {queue : List RegisterRequest}

theorem ensures_subscribeAll_accepted (id : RegistrationId) (subscribed topics : List String) :
    (subscribeAll id subscribed topics).Ensures accepting s () fun x s' _ => x = .ok () ∧ s' = s := by
  induction topics generalizing subscribed with
  | nil => exact ⟨rfl, rfl⟩
  | cons topic rest ih =>
    rintro _ _ rfl
    exact ih _

/-- If the broker accepts it, a request for messages is entered, and takes the place of others. -/
theorem ensures_enter_accepted (hs : s.Holds table queue) (hbroker : s.broker = true)
    {request : RegisterRequest} {topics : List String}
    (hadmitted : request.trigger.admitted? = some (.message topics)) :
    let new : Registration := ⟨s.nextId, { request with trigger := .message topics }⟩
    (DispatchAttempt.enter request).Ensures accepting s () fun x s' _ => (∃ id, x = .ok id) ∧
      s'.Holds ((table.filter fun r => !new.request.replaces r.request) ++ [new]) queue := by
  intro new
  have hentered := hs.insert new.request
  unfold DispatchAttempt.enter
  rw [hadmitted]
  change Attempt.Ensures accepting ((if (!s.broker) = true then _ else _) >>= fun _ => _) s () _
  rw [hbroker]
  change Attempt.Ensures accepting (Attempt.of (fun e => e) (subscribeAll new.id []
    (s.table.insert new).1) >>= fun _ => _) { s with
      nextId := s.nextId + 1, table := (s.table.insert new).2 } () _
  rw [Attempt.ensures_bind, Attempt.ensures_of]
  refine (ensures_subscribeAll_accepted _ _ _).mono ?_
  rintro _ _ _ ⟨rfl, rfl⟩
  change Attempt.Ensures accepting (Attempt.lift (unregisterAll (s.table.replacedBy new.request)) >>=
    fun _ => _) _ () _
  rw [Attempt.ensures_bind, Attempt.ensures_lift]
  refine (ensures_unregisterAll quiet_accepting hentered _).mono ?_
  rintro _ s' _ ⟨hs', -⟩ _ _ _
  rw [hs.filter_replaced hentered.nodup] at hs'
  exact ⟨⟨_, rfl⟩, hs'⟩

theorem programs_subset (table : List Registration) (new : Registration) :
    (table ++ [new]).map (·.request.program) ⊆
      ((table.filter fun r => !new.request.replaces r.request) ++ [new]).map (·.request.program) := by
  intro program hprogram
  obtain ⟨r, hr, rfl⟩ := List.mem_map.1 hprogram
  by_cases heq : r.request.program = new.request.program
  · exact heq ▸ List.mem_map_of_mem (List.mem_append_right _ List.mem_cons_self)
  · refine List.mem_map.2 ⟨r, ?_, rfl⟩
    rcases List.mem_append.1 hr with hr | hr
    · refine List.mem_append_left _ (List.mem_filter.2 ⟨hr, ?_⟩)
      simp [RegisterRequest.replaces, heq]
    · exact List.mem_append_right _ hr

/-- If the broker accepts it, a request for messages comes to the end of the table under the next number.
-/
theorem ensures_register_last (hs : s.Holds table []) (hbroker : s.broker = true)
    {request : RegisterRequest} (hrequest : request.Listens) :
    (register request).Ensures accepting s () fun x s' _ => (∃ id, x = .ok id) ∧ s'.broker = true ∧
      s'.Holds ((table.filter fun r => !request.admitted.replaces r.request) ++
        [⟨s.nextId, request.admitted⟩]) [] := by
  obtain ⟨topics, hadmitted⟩ := hrequest
  have hentered : (register request).Ensures accepting s () fun x s' _ => (∃ id, x = .ok id) ∧
      s'.Holds ((table.filter fun r => !request.admitted.replaces r.request) ++
        [⟨s.nextId, request.admitted⟩]) [] := by
    rw [RegisterRequest.admitted_of_some hadmitted]
    refine Flow.Ensures.bind (ensures_enter_accepted hs hbroker hadmitted) ?_
    rintro x s' _ ⟨⟨id, rfl⟩, hs'⟩
    exact ⟨⟨id, rfl⟩, hs'⟩
  rw [Flow.ensures_iff] at hentered ⊢
  intro x s' w' ends
  obtain ⟨hok, hs'⟩ := hentered x s' w' ends
  have hwithin := (Intake.admits_flow (Intake.covers_anything (.register request))).within
    (by rw [hs.queue]; nofun) ends
  exact ⟨hok, hwithin.broker.trans hbroker, hs'⟩

/-- If the broker accepts it, a request is entered, and no program vanishes from the table. -/
theorem ensures_register_accepted (hs : s.Holds table []) (hbroker : s.broker = true)
    {request : RegisterRequest} (hrequest : request.Listens) :
    (register request).Ensures accepting s () fun _ s' _ => s'.broker = true ∧ ∃ table',
      s'.Holds table' [] ∧
      request.program :: table.map (·.request.program) ⊆ table'.map (·.request.program) := by
  refine (ensures_register_last hs hbroker hrequest).mono ?_
  rintro x s' _ ⟨-, hbroker', hs'⟩
  let new : Registration := ⟨s.nextId, request.admitted⟩
  have hnew : new.request.program = request.program := request.program_admitted
  have hall : request.program :: table.map (·.request.program) ⊆
      (table ++ [new]).map (·.request.program) := by
    rw [List.map_append, List.map_singleton, hnew]
    exact List.cons_subset.2 ⟨by simp, List.subset_append_left _ _⟩
  exact ⟨hbroker', _, hs', List.Subset.trans hall (programs_subset table new)⟩

/-- If the broker accepts them, queued requests are entered, and no program vanishes from the table.
-/
theorem ensures_registerQueued_accepted (hs : s.Holds table []) (hbroker : s.broker = true)
    {requests : List RegisterRequest} (hrequests : ∀ r ∈ requests, r.Listens) :
    (registerQueued requests).Ensures accepting s () fun _ s' _ => ∃ table', s'.Holds table' [] ∧
      requests.map (·.program) ++ table.map (·.request.program) ⊆
        table'.map (·.request.program) := by
  induction requests generalizing s table with
  | nil => exact ⟨table, hs, List.Subset.refl _⟩
  | cons request rest ih =>
    refine Flow.Ensures.bind (ensures_register_accepted hs hbroker
      (hrequests request List.mem_cons_self)) ?_
    rintro x s₁ _ ⟨hbroker₁, table₁, hs₁, hsubset₁⟩
    have hrest : (registerQueued rest).Ensures accepting s₁ () fun _ s' _ => ∃ table',
        s'.Holds table' [] ∧ (request :: rest).map (·.program) ++ table.map (·.request.program) ⊆
          table'.map (·.request.program) := by
      refine (ih hs₁ hbroker₁ fun r hr => hrequests r (List.mem_cons_of_mem _ hr)).mono ?_
      rintro _ s₂ _ ⟨table₂, hs₂, hsubset₂⟩
      refine ⟨table₂, hs₂, List.Subset.trans ?_ hsubset₂⟩
      obtain ⟨hself, hothers⟩ := List.cons_subset.1 hsubset₁
      refine List.cons_subset.2 ⟨List.mem_append_right _ hself, ?_⟩
      exact List.append_subset.2 ⟨List.subset_append_left _ _,
        List.Subset.trans hothers (List.subset_append_right _ _)⟩
    rcases x with e | id
    · change Flow.Ensures accepting (if (!e.isTransient) = true then _ else _) s₁ () _
      split
      · exact Flow.Ensures.bind (ensures_aside quiet_accepting rfl) fun _ _ _ ⟨h, _⟩ => h ▸ hrest
      · exact hrest
    · exact Flow.Ensures.bind hrest fun _ _ _ h => h

/-- After a sweep in which the broker accepts everything, all whose requests were queued are in the
table. -/
theorem ensures_retryPending_accepted (hs : s.Regular) (hbroker : s.broker = true)
    {request : RegisterRequest} (hrequest : request ∈ s.pending) :
    (handle .retryPending).Ensures accepting s () fun _ s' _ =>
      s'.table.ofProgram request.program ≠ [] := by
  have hdrained := hs.holds.requeue fun _ => []
  change Flow.Ensures accepting ((if s.pending.isEmpty = true then _ else _) >>= fun _ => _)
    { s with pending := [] } () _
  split
  · next hempty =>
    rw [List.isEmpty_iff.1 hempty] at hrequest
    cases hrequest
  · refine Flow.Ensures.bind (P := fun _ s' _ => s'.table.ofProgram request.program ≠ []) ?_
      fun _ s' _ (h : s'.table.ofProgram request.program ≠ []) => h
    refine Flow.Ensures.bind (ensures_registerQueued_accepted hdrained hbroker hs.listens) ?_
    rintro count s' _ ⟨table', hs', hsubset⟩ _ _ _
    have hprogram : request.program ∈ table'.map (·.request.program) :=
      hsubset (List.mem_append_left _ (List.mem_map_of_mem hrequest))
    intro hnone
    rw [RegistrationTable.ofProgram_eq_nil, hs'.table] at hnone
    obtain ⟨r, hr, heq⟩ := List.mem_map.1 hprogram
    exact hnone r hr heq

end

/-- What is queued comes back, though nothing of its program comes: with the next sweep, if the broker is
there then. -/
theorem Happening.comes_back (hR : Accepts R) (hs : s.Regular) {request : RegisterRequest}
    (hrequest : request ∈ s.pending) :
    ∃ p, (Happening.setting R (Happening.Spares request.program)).Leads s w p ∧ p.Sequential ∧
      p.state.table.ofProgram request.program ≠ [] := by
  let answers : Surroundings dispatchServices W := fun w q b v => R w q b v ∧ q.Accepted b
  have hregular : DispatchState.Regular { s with broker := true } :=
    ⟨hs.holds.congr rfl le_rfl rfl, hs.listens⟩
  obtain ⟨x, s', w', hends⟩ := Flow.exists_ends (R := answers) hR (handle .retryPending)
    { s with broker := true } w
  have hback : s'.table.ofProgram request.program ≠ [] :=
    (ensures_retryPending_accepted hregular rfl hrequest).ends
      (hends.map (f := fun _ => ()) fun _ _ _ _ h => h.2)
  have hnothing : (Happening.setting R (Happening.Spares request.program)).Leads s w ⟨[], s, w, []⟩ :=
    .nothing
  have hset := hnothing.followed ⟨nofun, .nil⟩ rfl rfl .brokerSet trivial (fun _ _ => trivial)
    (.access .done)
  obtain ⟨p₁, hleads₁, hp₁, hstate, hsurroundings⟩ := hset
  have hswept := hleads₁.followed hp₁ hstate hsurroundings (.call (.event .retryPending)) trivial
    (fun _ _ => trivial) (hends.map (f := id) fun _ _ _ _ h => h.1)
  obtain ⟨p₂, hleads₂, hp₂, rfl, -⟩ := hswept
  exact ⟨p₂, hleads₂, hp₂, hback⟩

/-- All registrations of a program are taken back, while nothing else is in progress. Then none of them is
in the table; and from then on, as long as nothing of it is registered, there never is one in the
table, be it that things happen one after another or overlap, if and only if none of its requests is
in the queue. -/
theorem unregistered_iff_not_queued {w₀ : W} {program : String} {n : Nat} (hR : Accepts R)
    (hbefore : (Happening.setting R admits).Leads {} w₀ p)
    (hends : Flow.Ends R (unregisterProgram program) p.state p.surroundings n s w) :
    s.table.ofProgram program = [] ∧
    ((∀ p, (Happening.setting R (Happening.Spares program)).Leads s w p → p.Sequential →
        p.state.table.ofProgram program = []) ↔ ∀ r ∈ s.pending, r.program ≠ program) ∧
    ((∀ r ∈ s.pending, r.program ≠ program) →
      ∀ p, (Happening.setting R (Happening.Spares program)).Leads s w p →
        p.state.table.ofProgram program = []) := by
  obtain ⟨htable, hregular⟩ := ends_unregisterProgram (Happening.regular hbefore) hends
  refine ⟨htable, ⟨?_, ?_⟩, fun hqueue _ => Happening.stays_out htable hqueue⟩
  · rintro hout request hrequest rfl
    obtain ⟨p, hleads, hp, hback⟩ := Happening.comes_back (w := w) hR hregular hrequest
    exact hback (hout p hleads hp)
  · intro hqueue p hleads _
    exact Happening.stays_out htable hqueue hleads

/-- Surroundings in which the broker refuses the first subscription and accepts all others. -/
def refusingOnce (refused : Bool) : (q : DispatchService) → q.Answer × Bool
  | .subscribe _ => if refused then (.ok (), true) else (.error "busy", true)
  | .unsubscribe _ => (.ok (), refused)
  | .now => (0, refused)
  | .armTimer .. | .disarmTimer _ | .log _ => ((), refused)
  | .deliver .. => (true, refused)
  | .record _ => (.error (.decode "lamp"), refused)
  | .prepare driver => (.error (.driverNotFound driver.id), refused)
  | .invoke target _ => (.error (.driverNotFound target.driver), refused)

/-- What these surroundings may answer. -/
def anyAnswers : Surroundings dispatchServices Bool := fun _ _ _ _ => True

theorem accepts_anyAnswers : Accepts anyAnswers := by
  intro refused q
  refine ⟨(refusingOnce true q).1, refused, trivial, ?_⟩
  cases q <;> trivial

/-- A request of a lamp to be told of messages, which is to be retried. -/
def lampRequest : RegisterRequest where
  program := "lamp"
  function := { name := "glow", mode := .allocate (.user "anna") }
  trigger := .message ["dusk"]
  tolerance := .retry

/-- A lamp asks to be told of messages, and the broker is not ready. -/
def refusedSession : Flow.Session dispatchServices DispatchState Bool Happening.Result :=
  let S := Happening.setting anyAnswers fun _ => True
  (Flow.Session.opened S [.brokerSet, .call (.register lampRequest)] {} false).turnsOf S refusingOnce
    ([0] ++ List.replicate 8 1)

theorem leads_refused : (Happening.setting anyAnswers fun _ => True).Leads {} false refusedSession :=
  (Flow.Setting.Leads.opened _ fun _ _ => trivial).turnsOf (fun _ _ => trivial) _

/-- After that all that a program registered is taken back: how many that were, and what is left. -/
def clearedOf (program : String) : Nat × DispatchState × Bool :=
  (unregisterProgram program).play refusingOnce refusedSession.state refusedSession.surroundings

/-- The lamp comes back, as its request waits in the queue; of a fan nothing waits, and it stays out. -/
theorem cleared_iff_not_queued :
    (clearedOf "lamp").2.1.table.ofProgram "lamp" = [] ∧
    (¬ ∀ p, (Happening.setting anyAnswers (Happening.Spares "lamp")).Leads (clearedOf "lamp").2.1
      (clearedOf "lamp").2.2 p → p.Sequential → p.state.table.ofProgram "lamp" = []) ∧
    ∀ p, (Happening.setting anyAnswers (Happening.Spares "fan")).Leads (clearedOf "fan").2.1
      (clearedOf "fan").2.2 p → p.state.table.ofProgram "fan" = [] := by
  have hends (program : String) : Flow.Ends anyAnswers (unregisterProgram program)
      refusedSession.state refusedSession.surroundings (clearedOf program).1 (clearedOf program).2.1
      (clearedOf program).2.2 := Flow.ends_play (fun _ _ => trivial) _ _ _
  obtain ⟨hlamp, hiff, -⟩ := unregistered_iff_not_queued accepts_anyAnswers leads_refused (hends "lamp")
  obtain ⟨-, -, hfan⟩ := unregistered_iff_not_queued accepts_anyAnswers leads_refused (hends "fan")
  refine ⟨hlamp, ?_, hfan (by decide)⟩
  intro hout
  have hqueue := hiff.1 hout
  revert hqueue
  decide

/-- The broker refuses the lamp's request, all that the lamp registered is taken back, and a sweep
follows. -/
def sweptSession : Flow.Session dispatchServices DispatchState Bool Happening.Result :=
  let S := Happening.setting anyAnswers fun _ => True
  let calls : List Happening := [.brokerSet, .call (.register lampRequest),
    .call (.unregisterProgram "lamp"), .call (.event .retryPending)]
  (Flow.Session.opened S calls {} false).turnsOf S refusingOnce
    ([0] ++ List.replicate 8 1 ++ [2] ++ List.replicate 8 3)

/-- Though one thing came after another, nothing of the lamp was left when all of it had been taken back,
and nothing of it came after that, it is in the table in the end. -/
theorem swept_comes_back :
    (Happening.setting anyAnswers fun _ => True).Leads {} false sweptSession ∧
    sweptSession.Sequential ∧
    sweptSession.callers[2]? = some ⟨.call (.unregisterProgram "lamp"), .done 0⟩ ∧
    (sweptSession.callers.drop 3).map (·.call) = [.call (.event .retryPending)] ∧
    sweptSession.state.table.ofProgram "lamp" = [2] := by
  have hleads : (Happening.setting anyAnswers fun _ => True).Leads {} false sweptSession :=
    (Flow.Setting.Leads.opened _ fun _ _ => trivial).turnsOf (fun _ _ => trivial) _
  exact ⟨hleads, ⟨by decide, by decide⟩, rfl, rfl, by decide⟩

end DriverHub
