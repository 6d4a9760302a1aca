import DriverHub.Proofs.Hub.InvalidPeriod
import DriverHub.Proofs.Hub.Replies

/-! The annotations of a driver, registered anew. What is then in the table or waits in the queue for
the driver are the annotations in its current source, once for each of its devices, as far as the
script named topics for them. -/

namespace DriverHub

variable {analyze : Analyzer} {host : Host} {E : Findings} {l l' : LiveState} {r₀ r r' : Records}

/-! ### Annotations -/

/-- The annotations in a script; only one that was accepted has any. -/
def Extraction.annotations : Extraction → List AnnotatedCallback
  | valid _ program _ => program.triggers
  | invalid _ => []

/-- The annotations in a source of a driver. -/
def Analyzer.annotations (analyze : Analyzer) (id : DriverId) (source : String) :
    List AnnotatedCallback :=
  match analyze id.programId source with
  | .ok analysis => analysis.extraction.annotations
  | .error _ => []

theorem Analyzer.annotations_of_found {id : DriverId} {source : String} {e : Extraction}
    (found : analyze.extractions.source id source e) :
    analyze.annotations id source = e.annotations := by
  obtain ⟨analysis, hanalysis, rfl⟩ := found
  unfold annotations
  rw [hanalysis]

/-- The devices of a driver, each with every annotation in the current source of the driver. -/
def Records.annotated (analyze : Analyzer) (id : DriverId) (r : Records) :
    List (DeviceId × AnnotatedCallback) :=
  match r.source? id with
  | none => []
  | some source =>
    (r.devicesOf id).flatMap fun device => (analyze.annotations id source).map (device, ·)

theorem Alike.annotated (h : Alike E r₀ l r) (analyze : Analyzer) (id : DriverId) :
    r.annotated analyze id = r₀.annotated analyze id := by
  unfold Records.annotated
  rw [h.source?, h.devicesOf]

/-- The call that asks for the topics of an annotation. -/
def AnnotatedCallback.topicsCall (annotated : AnnotatedCallback) : Call where
  function := annotated.topics
  signature := { returns := .list .str }

/-- The topics that an answer names. -/
def namedTopics? : Except HubError (Outcome Value) → Option (List String)
  | .ok (.returned (.list items)) => Dispatching.strings? items
  | _ => none

/-- An annotation for a device, with the answer of the script when asked for its topics. -/
structure Inquiry where
  device : DeviceId
  annotated : AnnotatedCallback
  answer : Except HubError (Outcome Value)

namespace Inquiry

def pair (q : Inquiry) : DeviceId × AnnotatedCallback := (q.device, q.annotated)

def scriptCall (driver : DriverId) (q : Inquiry) : ScriptCall :=
  ⟨{ driver, device := some q.device }, q.annotated.topicsCall, q.answer⟩

/-- The request that an annotation stands for, if the answer is a list of strings with a topic that is
not blank. -/
def request? (driver : DriverId) (q : Inquiry) : Option RegisterRequest :=
  match namedTopics? q.answer with
  | none => none
  | some topics =>
    if topics.any fun t => !Text.isBlankText t then
      some (Dispatching.annotationRequest driver q.device q.annotated topics)
    else none

theorem requests_eq {driver : DriverId} {qs qs' : List Inquiry}
    (hpair : qs.map (·.pair) = qs'.map (·.pair))
    (htopics : qs.map (fun q => namedTopics? q.answer) = qs'.map fun q => namedTopics? q.answer) :
    qs.filterMap (·.request? driver) = qs'.filterMap (·.request? driver) := by
  induction qs generalizing qs' with
  | nil =>
    obtain rfl := List.map_eq_nil_iff.1 hpair.symm
    rfl
  | cons q rest ih =>
    cases qs' with
    | nil => cases hpair
    | cons q' rest' =>
      obtain ⟨hq, hrest⟩ := List.cons.inj hpair
      obtain ⟨(hq' : namedTopics? q.answer = namedTopics? q'.answer), hrest'⟩ := List.cons.inj htopics
      have hdevice : q.device = q'.device := congrArg Prod.fst hq
      have hannotated : q.annotated = q'.annotated := congrArg Prod.snd hq
      have hrequest : q.request? driver = q'.request? driver := by
        unfold request?
        rw [hq', hdevice, hannotated]
      rw [List.filterMap_cons, List.filterMap_cons, hrequest, ih hrest hrest']

end Inquiry

/-! ### What is entered -/

theorem Inquiry.request?_of_topics (driver : DriverId) {q : Inquiry} {topics : List String}
    (htopics : namedTopics? q.answer = some topics) :
    q.request? driver = if (Trigger.message topics).admitted?.isSome then
      some (Dispatching.annotationRequest driver q.device q.annotated topics) else none := by
  unfold request?
  rw [htopics, Trigger.isSome_admitted?_message]

/-- What registering annotations for devices adds: each request that was to be made is entered in the
table or waits in the queue. -/
def Placed (driver : DriverId) (inquiries : List Inquiry) (new : List Registration)
    (waiting : List RegisterRequest) : Prop :=
  ∃ entered, new.map (·.request) = entered.map (·.admitted) ∧
    (entered ++ waiting).Perm (inquiries.filterMap (·.request? driver))

namespace Placed

variable {driver : DriverId} {inquiries inquiries' : List Inquiry} {new new' : List Registration}
  {waiting waiting' : List RegisterRequest}

theorem nothing (h : ∀ q ∈ inquiries, q.request? driver = none) : Placed driver inquiries [] [] := by
  refine ⟨[], rfl, ?_⟩
  rw [List.filterMap_eq_nil_iff.2 h]
  exact .nil

theorem append (h : Placed driver inquiries new waiting)
    (h' : Placed driver inquiries' new' waiting') :
    Placed driver (inquiries ++ inquiries') (new ++ new') (waiting ++ waiting') := by
  obtain ⟨entered, hnew, hall⟩ := h
  obtain ⟨entered', hnew', hall'⟩ := h'
  refine ⟨entered ++ entered', ?_, ?_⟩
  · rw [List.map_append, List.map_append, hnew, hnew']
  · rw [List.filterMap_append]
    refine List.Perm.trans ?_ (hall.append hall')
    simp only [List.append_assoc]
    exact .append_left _ (List.perm_append_comm_assoc _ _ _)

theorem of_entering {q : Inquiry} {topics : List String}
    (htopics : namedTopics? q.answer = some topics) {x : Except DispatchError RegistrationId}
    (h : Entering (Dispatching.annotationRequest driver q.device q.annotated topics) x new waiting) :
    Placed driver [q] new waiting ∧ new.length = if x.toBool then 1 else 0 := by
  have hrequest := Inquiry.request?_of_topics driver htopics
  cases h with
  | refused blank =>
    refine ⟨nothing fun q' hq' => ?_, rfl⟩
    obtain rfl := List.mem_singleton.1 hq'
    rw [hrequest, if_neg]
    exact fun hsome => by simp [show (Trigger.message topics).admitted? = none from blank] at hsome
  | @entered id trigger admitted =>
    have hsome : (Trigger.message topics).admitted?.isSome := Option.isSome_iff_exists.2 ⟨_, admitted⟩
    rw [if_pos hsome] at hrequest
    refine ⟨⟨[Dispatching.annotationRequest driver q.device q.annotated topics], ?_, ?_⟩, rfl⟩
    · rw [List.map_singleton, List.map_singleton, RegisterRequest.admitted_of_some admitted]
    · rw [List.filterMap_cons_some hrequest]
      exact .rfl
  | @prevented trigger e admitted transient =>
    have hsome : (Trigger.message topics).admitted?.isSome := Option.isSome_iff_exists.2 ⟨_, admitted⟩
    rw [if_pos hsome] at hrequest
    refine ⟨⟨[], rfl, ?_⟩, rfl⟩
    rw [List.filterMap_cons_some hrequest]
    exact .rfl

theorem annotates (h : Placed driver inquiries new waiting) :
    (∀ r ∈ new, r.request.annotates (some driver) none = true) ∧
      ∀ request ∈ waiting, request.annotates (some driver) none = true := by
  obtain ⟨entered, hnew, hall⟩ := h
  have hannotates : ∀ request ∈ entered ++ waiting, request.annotates (some driver) none = true := by
    intro request hrequest
    obtain ⟨q, -, hq⟩ := List.mem_filterMap.1 (hall.mem_iff.1 hrequest)
    unfold Inquiry.request? at hq
    split at hq
    · cases hq
    · split at hq <;> cases hq
      simp [RegisterRequest.annotates, Dispatching.annotationRequest]
  constructor
  · intro r hr
    have hmem := List.mem_map_of_mem (f := fun r : Registration => r.request) hr
    rw [hnew] at hmem
    obtain ⟨request, hrequest, heq⟩ := List.mem_map.1 hmem
    rw [← heq, RegisterRequest.annotates_admitted]
    exact hannotates request (List.mem_append_left _ hrequest)
  · intro request hrequest
    exact hannotates request (List.mem_append_right _ hrequest)

end Placed

/-! ### Registering -/

/-- How registering annotations for devices ends. Each script was asked for its topics in turn, and what
became of the answers stands at the end of the table and of the queue. -/
def Registers (E : Findings) (r₀ : Records) (driver : DriverId)
    (pairs : List (DeviceId × AnnotatedCallback)) (table : List Registration)
    (queue : List RegisterRequest) (calls : List ScriptCall) (count : Nat) (s : DispatchState)
    (w : (LiveState × Records) × List ScriptCall) : Prop :=
  Alike E r₀ w.1.1 w.1.2 ∧ ∃ inquiries new waiting, inquiries.map (·.pair) = pairs ∧
    w.2 = calls ++ inquiries.map (·.scriptCall driver) ∧
    s.Holds (table ++ new) (queue ++ waiting) ∧ Placed driver inquiries new waiting ∧
    count = new.length

namespace Registers

variable {driver : DriverId} {pairs : List (DeviceId × AnnotatedCallback)} {table : List Registration}
  {queue : List RegisterRequest} {calls : List ScriptCall} {count : Nat} {s : DispatchState}

theorem nothing (h : Alike E r₀ l r) (hs : s.Holds table queue) :
    Registers E r₀ driver [] table queue calls 0 s ((l, r), calls) := by
  refine ⟨h, [], [], [], rfl, (List.append_nil _).symm, ?_, .nothing (List.forall_mem_nil _), rfl⟩
  rw [List.append_nil, List.append_nil]
  exact hs

theorem after {inquiries : List Inquiry} {new : List Registration} {waiting : List RegisterRequest}
    {w : (LiveState × Records) × List ScriptCall} (hplaced : Placed driver inquiries new waiting)
    (h : Registers E r₀ driver pairs (table ++ new) (queue ++ waiting)
      (calls ++ inquiries.map (·.scriptCall driver)) count s w) :
    Registers E r₀ driver (inquiries.map (·.pair) ++ pairs) table queue calls (new.length + count) s
      w := by
  obtain ⟨halike, inquiries', new', waiting', rfl, hcalls, hs, hplaced', rfl⟩ := h
  refine ⟨halike, inquiries ++ inquiries', new ++ new', waiting ++ waiting', ?_, ?_, ?_,
    hplaced.append hplaced', ?_⟩
  · rw [List.map_append]
  · rw [hcalls, List.map_append, List.append_assoc]
  · simpa only [List.append_assoc] using hs
  · rw [List.length_append]

end Registers

namespace Dispatching

variable {driver : DriverId} {s : DispatchState} {table : List Registration}
  {queue : List RegisterRequest} {calls : List ScriptCall}

theorem ensures_annotationTopics (hE : E.Of host) (h : Alike E r₀ l r) (device : DeviceId)
    (annotated : AnnotatedCallback) :
    (annotationTopics { driver, device := some device } annotated).Ensures host.Replies.noting s
      ((l, r), calls) fun topics s' w' => s' = s ∧ ∃ answer l' r', Alike E r₀ l' r' ∧
        w' = ((l', r'), calls ++ [Inquiry.scriptCall driver ⟨device, annotated, answer⟩]) ∧
        topics = namedTopics? answer := by
  have hcalled : (ask (.invoke { driver, device := some device } annotated.topicsCall)).Ensures
      host.Replies.noting s ((l, r), calls) fun answer s' w' => s' = s ∧ ∃ l' r', Alike E r₀ l' r' ∧
        w' = ((l', r'), calls ++ [Inquiry.scriptCall driver ⟨device, annotated, answer⟩]) := by
    rintro answer ⟨⟨l', r'⟩, calls'⟩ ⟨hreply, rfl⟩
    exact ⟨rfl, l', r', Host.replies_invoke hE h _ _ answer l' r' hreply, rfl⟩
  unfold annotationTopics
  refine Flow.Ensures.bind hcalled ?_
  rintro answer s _ ⟨rfl, l', r', halike, rfl⟩
  -- where no topics are named, there is only a line in the log about it
  have hwarned : ∀ text, namedTopics? answer = none →
      (warn text >>= fun _ => pure none : Dispatching (Option (List String))).Ensures
        host.Replies.noting s
        ((l', r'), calls ++ [Inquiry.scriptCall driver ⟨device, annotated, answer⟩])
        fun topics s' w' => s' = s ∧ ∃ answer l' r', Alike E r₀ l' r' ∧
          w' = ((l', r'), calls ++ [Inquiry.scriptCall driver ⟨device, annotated, answer⟩]) ∧
          topics = namedTopics? answer := by
    intro text hnone
    refine Flow.Ensures.bind (ensures_aside host.quiet_replies.noting rfl) ?_
    rintro _ _ _ ⟨rfl, rfl⟩
    exact ⟨rfl, answer, l', r', halike, rfl, hnone.symm⟩
  rcases answer with e | value | diagnostics
  · exact hwarned _ rfl
  · cases value with
    | list items =>
      cases hstrings : strings? items with
      | none =>
        simp only [hstrings]
        exact hwarned _ hstrings
      | some topics =>
        simp only [hstrings]
        exact ⟨rfl, _, l', r', halike, rfl, hstrings.symm⟩
    | _ => exact hwarned _ rfl
  · exact hwarned _ rfl

theorem ensures_registerAnnotations (hE : E.Of host) (h : Alike E r₀ l r) (hs : s.Holds table queue)
    (device : DeviceId) (annotations : List AnnotatedCallback) :
    (registerAnnotations driver device annotations).Ensures host.Replies.noting s ((l, r), calls)
      (Registers E r₀ driver (annotations.map (device, ·)) table queue calls) := by
  induction annotations generalizing l r s table queue calls with
  | nil => exact .nothing h hs
  | cons annotated rest ih =>
    unfold registerAnnotations
    refine Flow.Ensures.bind (ensures_annotationTopics hE h device annotated) ?_
    rintro topics s _ ⟨rfl, answer, l', r', halike, rfl, rfl⟩
    let q : Inquiry := ⟨device, annotated, answer⟩
    have hrest : ∀ {s new waiting}, Placed driver [q] new waiting →
        s.Holds (table ++ new) (queue ++ waiting) →
        (registerAnnotations driver device rest).Ensures host.Replies.noting s
          ((l', r'), calls ++ [q.scriptCall driver]) fun count s' w' =>
          Registers E r₀ driver ((annotated :: rest).map (device, ·)) table queue calls
            (new.length + count) s' w' :=
      fun hplaced hs' => (ih halike hs').mono fun _ _ _ h' => .after hplaced h'
    cases htopics : namedTopics? answer with
    | none =>
      have hplaced : Placed driver [q] [] [] := by
        refine .nothing fun q' hq' => ?_
        obtain rfl := List.mem_singleton.1 hq'
        unfold Inquiry.request?
        rw [htopics]
      refine (hrest hplaced (by simpa using hs)).mono fun count s' w' h' => ?_
      rwa [List.length_nil, Nat.zero_add] at h'
    | some topics =>
      refine Flow.Ensures.bind (ensures_register host.quiet_replies.noting hs rfl rfl rfl) ?_
      rintro x s _ ⟨rfl, new, waiting, hs', hx⟩
      obtain ⟨hplaced, hlength⟩ := Placed.of_entering (q := q) htopics hx
      rcases x with e | id
      · have hnone : new.length = 0 := hlength
        have hskip := hrest hplaced hs'
        simp only [hnone, Nat.zero_add] at hskip
        simp only
        split
        · refine Flow.Ensures.bind (ensures_aside host.quiet_replies.noting rfl) ?_
          rintro _ _ _ ⟨rfl, rfl⟩
          exact hskip
        · exact hskip
      · have hone : new.length = 1 := hlength
        refine Flow.Ensures.bind (hrest hplaced hs') fun count s' w' h' => ?_
        rwa [hone, Nat.add_comm] at h'

theorem ensures_registerForDevices (hE : E.Of host) (h : Alike E r₀ l r) (hs : s.Holds table queue)
    (annotations : List AnnotatedCallback) (devices : List DeviceRecord) :
    (registerForDevices driver annotations devices).Ensures host.Replies.noting s ((l, r), calls)
      (Registers E r₀ driver
        ((devices.filterMap fun d => if d.driver = driver then some d.id else none).flatMap
          fun device => annotations.map (device, ·)) table queue calls) := by
  induction devices generalizing l r s table queue calls with
  | nil => exact .nothing h hs
  | cons device rest ih =>
    unfold registerForDevices
    by_cases howner : device.driver = driver
    · simp only [if_pos howner, List.filterMap_cons, List.flatMap_cons]
      refine Flow.Ensures.bind (ensures_registerAnnotations hE h hs device.id annotations) ?_
      rintro count s ⟨⟨l', r'⟩, calls'⟩ ⟨halike, inquiries, new, waiting, hpairs, rfl, hs', hplaced, rfl⟩
      refine Flow.Ensures.bind (ih halike hs') fun count s' w' h' => ?_
      rw [← hpairs]
      exact .after hplaced h'
    · simp only [if_neg howner, List.filterMap_cons]
      exact ih h hs

end Dispatching

namespace DispatchAttempt

variable {s : DispatchState} {calls : List ScriptCall}

theorem ensures_record {op : RecordOp} (hop : op.isRead) :
    (record op).Ensures host.Replies.noting s ((l, r), calls) fun x s' w' =>
      (s' = s ∧ w' = ((l, r), calls)) ∧ ∀ a, x = .ok a → a = op.result r := by
  unfold record
  rw [Attempt.ensures_of]
  rintro x ⟨⟨l', r'⟩, calls'⟩ ⟨hreply, hcalls⟩
  obtain ⟨⟨rfl, rfl⟩, hx⟩ := Host.replies_record hop x l' r' hreply
  have hcalls' : calls' = calls := hcalls.trans (List.append_nil calls)
  refine ⟨⟨rfl, by rw [hcalls']⟩, ?_⟩
  intro a heq
  cases x with
  | error e => cases heq
  | ok b =>
    cases heq
    exact hx _ rfl

/-- The annotations that are found are those in the source on record. -/
theorem ensures_annotationsOf (hE : analyze.extractions.Of host)
    (hl : analyze.extractions.In l.catalog) (driver : DriverRecord) :
    (annotationsOf driver).Ensures host.Replies.noting s ((l, r), calls) fun x s' w' => s' = s ∧
      ∃ l' r', w' = ((l', r'), calls) ∧ Still analyze.extractions l r l' r' ∧
        ∀ annotations, x = .ok annotations →
          annotations = analyze.annotations driver.id driver.source := by
  unfold annotationsOf ask
  rw [Attempt.ensures_bind, Attempt.ensures_lift]
  rintro x ⟨⟨l', r'⟩, calls'⟩ ⟨hreply, hcalls⟩
  obtain ⟨hstill, hok, herror⟩ := Host.replies_prepare hE hl driver x l' r' hreply
  have hcalls' : calls' = calls := hcalls.trans (List.append_nil calls)
  subst hcalls'
  rcases x with e | program
  · cases e with
    | driverInvalid id diagnostics =>
      refine ⟨rfl, l', r', rfl, hstill, ?_⟩
      rintro _ ⟨⟩
      rw [Analyzer.annotations_of_found (herror id diagnostics rfl)]
      rfl
    | _ => exact ⟨rfl, l', r', rfl, hstill, nofun⟩
  · obtain ⟨info, warnings, found⟩ := hok program rfl
    refine ⟨rfl, l', r', rfl, hstill, ?_⟩
    rintro _ ⟨⟩
    rw [Analyzer.annotations_of_found found]
    rfl

/-- What a reload that comes to its end registers is all that is then there for its driver. -/
theorem ensures_reloadDriver (hE : analyze.extractions.Of host)
    (hl : analyze.extractions.In l.catalog) (hk : r.Keyed) {table : List Registration}
    {queue : List RegisterRequest} (hs : s.Holds table queue) (id : DriverId) :
    (reloadDriver id).Ensures host.Replies.noting s ((l, r), calls) fun x s' w' =>
      ∀ count, x = .ok count → Registers analyze.extractions r id (r.annotated analyze id)
        (table.filter fun r => !r.request.annotates (some id) none)
        (queue.filter fun r => !r.annotates (some id) none) calls count s' w' := by
  unfold reloadDriver
  rw [Attempt.ensures_bind]
  refine (Attempt.ensures_lift _ _).2 ?_
  refine (Dispatching.ensures_dropAnnotations host.quiet_replies.noting hs (some id) none).mono ?_
  rintro _ s _ ⟨hs, rfl⟩
  refine Attempt.Ensures.bind (ensures_record rfl) ?_ (fun _ _ _ _ => nofun)
  rintro found _ _ ⟨⟨rfl, rfl⟩, hfound⟩
  obtain rfl := hfound found rfl
  cases hdriver : Dict.find? id r.drivers with
  | none =>
    have hnone : r.annotated analyze id = [] := by
      unfold Records.annotated Records.source?
      rw [hdriver, Option.map_none]
    simp only [RecordOp.result, hdriver]
    rintro _ ⟨⟩
    rw [hnone]
    exact .nothing (.refl hl hk) hs
  | some driver =>
    have hid : driver.id = id := hk.find?_driver hdriver
    have hannotated : r.annotated analyze id =
        (r.devicesOf id).flatMap fun device =>
          (analyze.annotations id driver.source).map (device, ·) := by
      unfold Records.annotated
      rw [Records.source?_of_find? hdriver]
    simp only [RecordOp.result, hdriver]
    refine Attempt.Ensures.bind (ensures_annotationsOf hE hl driver) ?_ (fun _ _ _ _ => nofun)
    rintro annotations _ _ ⟨rfl, l', r', rfl, ⟨-, rfl, hl'⟩, hannotations⟩
    obtain rfl := hannotations annotations rfl
    rw [hid, hannotated]
    split
    · next hempty =>
      have hnone : ((r'.devicesOf id).flatMap fun device =>
          (analyze.annotations id driver.source).map (device, ·)) = [] := by
        refine List.flatMap_eq_nil_iff.2 fun device _ => ?_
        rw [List.isEmpty_iff.1 hempty, List.map_nil]
      rintro _ ⟨⟩
      rw [hnone]
      exact .nothing (.refl hl' hk) hs
    · refine Attempt.Ensures.bind (ensures_record rfl) ?_ (fun _ _ _ _ => nofun)
      rintro devices _ _ ⟨⟨rfl, rfl⟩, hdevices⟩
      obtain rfl := hdevices devices rfl
      refine (Attempt.ensures_lift _ _).2 ?_
      refine (Dispatching.ensures_registerForDevices hE (.refl hl' hk) hs _ _).mono ?_
      rintro count s' w' h _ ⟨⟩
      exact h

end DispatchAttempt

/-! ### Reloads -/

namespace DispatchState

/-- The registrations in the table and the queued requests that come from annotations of a driver, as
requests without blank topics. -/
def annotationsOf (id : DriverId) (s : DispatchState) : List RegisterRequest :=
  ((s.table.registrations.map (·.request) ++ s.pending).filter (·.annotates (some id) none)).map
    (·.admitted)

end DispatchState

/-- A reload of a driver mirrors its annotations. -/
structure Mirrored (id : DriverId) (pairs : List (DeviceId × AnnotatedCallback)) (s s' : DispatchState)
    (calls : List ScriptCall) (count : Nat) : Prop where
  /-- Each script is asked for its topics once, and each answer that names topics has its place, either
  in the table or in the queue. -/
  entries : ∃ (inquiries : List Inquiry) (entered waiting : List RegisterRequest),
    inquiries.map (·.pair) = pairs ∧ calls = inquiries.map (·.scriptCall id) ∧
    (entered ++ waiting).Perm (inquiries.filterMap (·.request? id)) ∧
    (s'.table.registrations.filter (·.request.annotates (some id) none)).map (·.request) =
      entered.map (·.admitted) ∧
    s'.pending.filter (·.annotates (some id) none) = waiting
  counted : count = (s'.table.annotating (some id) none).length
  registrations : s'.table.registrations.filter (fun r => !r.request.annotates (some id) none) =
    s.table.registrations.filter fun r => !r.request.annotates (some id) none
  queue : s'.pending.filter (fun r => !r.annotates (some id) none) =
    s.pending.filter fun r => !r.annotates (some id) none

theorem filter_replaced {A : Type} {p : A → Bool} (old : List A) {new : List A}
    (hnew : ∀ a ∈ new, p a = true) :
    (old.filter (fun a => !p a) ++ new).filter p = new ∧
      (old.filter (fun a => !p a) ++ new).filter (fun a => !p a) = old.filter fun a => !p a := by
  constructor
  · rw [List.filter_append, List.filter_filter, List.filter_eq_self.2 hnew]
    simp
  · have hnone : new.filter (fun a => !p a) = [] :=
      List.filter_eq_nil_iff.2 fun a ha => by simp [hnew a ha]
    rw [List.filter_append, List.filter_filter, hnone, List.append_nil]
    simp

theorem Registers.mirrored {id : DriverId} {pairs : List (DeviceId × AnnotatedCallback)}
    {s s' : DispatchState} {count : Nat} {w : (LiveState × Records) × List ScriptCall}
    (h : Registers E r₀ id pairs
      (s.table.registrations.filter fun r => !r.request.annotates (some id) none)
      (s.pending.filter fun r => !r.annotates (some id) none) [] count s' w) :
    Mirrored id pairs s s' w.2 count := by
  obtain ⟨-, inquiries, new, waiting, hpairs, hcalls, hs', hplaced, rfl⟩ := h
  obtain ⟨hnew, hwaiting⟩ := hplaced.annotates
  obtain ⟨entered, hentered, hall⟩ := hplaced
  obtain ⟨htable, hregistrations⟩ := filter_replaced s.table.registrations
    (p := fun r => r.request.annotates (some id) none) hnew
  obtain ⟨hqueue, hpending⟩ := filter_replaced s.pending
    (p := fun r => r.annotates (some id) none) hwaiting
  rw [← hs'.table] at htable hregistrations
  rw [← hs'.queue] at hqueue hpending
  refine ⟨⟨inquiries, entered, waiting, hpairs, hcalls, hall, ?_, hqueue⟩, ?_, hregistrations, hpending⟩
  · rw [htable, hentered]
  · rw [RegistrationTable.annotating, htable, List.length_map]

theorem Mirrored.annotationsOf_perm {id : DriverId} {pairs : List (DeviceId × AnnotatedCallback)}
    {s s' : DispatchState} {calls : List ScriptCall} {count : Nat}
    (h : Mirrored id pairs s s' calls count) : ∃ inquiries : List Inquiry,
      inquiries.map (·.pair) = pairs ∧
      inquiries.map (fun q => namedTopics? q.answer) = calls.map (fun c => namedTopics? c.answer) ∧
      (s'.annotationsOf id).Perm ((inquiries.filterMap (·.request? id)).map (·.admitted)) := by
  obtain ⟨inquiries, entered, waiting, hpairs, rfl, hall, htable, hqueue⟩ := h.entries
  refine ⟨inquiries, hpairs, ?_, ?_⟩
  · rw [List.map_map]
    rfl
  · have hentered : (entered.map (·.admitted)).map (·.admitted) = entered.map (·.admitted) := by
      rw [List.map_map]
      exact List.map_congr_left fun request _ => request.admitted_admitted
    unfold DispatchState.annotationsOf
    rw [List.filter_append, List.filter_map, hqueue]
    refine List.Perm.trans (.of_eq ?_) (hall.map _)
    rw [List.map_append, List.map_append, ← hentered, ← htable]
    rfl

theorem Mirrored.nothing {id : DriverId} {s s' : DispatchState} {calls : List ScriptCall} {count : Nat}
    (h : Mirrored id [] s s' calls count) : count = 0 ∧ s'.annotationsOf id = [] := by
  obtain ⟨inquiries, entered, waiting, hpairs, -, hall, htable, hqueue⟩ := h.entries
  obtain rfl : inquiries = [] := List.map_eq_nil_iff.1 hpairs
  obtain ⟨rfl, rfl⟩ := List.append_eq_nil_iff.1 hall.eq_nil
  have hnone : s'.table.registrations.filter (·.request.annotates (some id) none) = [] :=
    List.map_eq_nil_iff.1 htable
  constructor
  · rw [h.counted, RegistrationTable.annotating, hnone]
    rfl
  · unfold DispatchState.annotationsOf
    rw [List.filter_append, List.filter_map, hqueue]
    exact congrArg (fun found => ((found.map (·.request)) ++ []).map (·.admitted)) hnone

theorem Records.annotated_eq_nil {id : DriverId}
    (h : r.source? id = none ∨ ∃ source diagnostics, r.source? id = some source ∧
      analyze.extractions.source id source (.invalid diagnostics)) : r.annotated analyze id = [] := by
  unfold annotated
  rcases h with hnone | ⟨source, diagnostics, hsource, found⟩
  · rw [hnone]
  · rw [hsource]
    refine List.flatMap_eq_nil_iff.2 fun device _ => ?_
    rw [Analyzer.annotations_of_found found]
    rfl

namespace DispatchAttempt

/-- After a reload of a driver that comes to its end, what the table and the queue hold of the driver's
annotations are those in its current source, once for each of its devices, as far as scripts named
topics for them. All else is as it was. Another reload for which the scripts name the same topics
leaves the same, up to the numbers of registrations and up to what of it still waits in the queue. -/
theorem reloadDriver_mirrors (hE : analyze.extractions.Of host)
    (hl : analyze.extractions.In l.catalog) (hk : r.Keyed) {s s' : DispatchState} (hs : s.Sound)
    (hsorted : Dict.Sorted s.table.all) (id : DriverId) {count : Nat} {calls : List ScriptCall}
    (h : Flow.Ends host.Replies.noting (reloadDriver id).run s ((l, r), []) (.ok count) s'
      ((l', r'), calls)) :
    Mirrored id (r.annotated analyze id) s s' calls count ∧
    ((r.source? id = none ∨ ∃ source diagnostics, r.source? id = some source ∧
        analyze.extractions.source id source (.invalid diagnostics)) →
      count = 0 ∧ s'.annotationsOf id = []) ∧
    ∀ count' s'' w calls', Flow.Ends host.Replies.noting (reloadDriver id).run s' ((l', r'), [])
        (.ok count') s'' (w, calls') →
      calls'.map (fun c => namedTopics? c.answer) = calls.map (fun c => namedTopics? c.answer) →
      (s''.annotationsOf id).Perm (s'.annotationsOf id) := by
  have hfirst := (Flow.ensures_iff _ _ _ _).1
    (ensures_reloadDriver hE hl hk (.of_sound hs hsorted) id) _ _ _ h count rfl
  have halike : Alike analyze.extractions r l' r' := hfirst.1
  obtain ⟨inquiries, hpairs, hanswers, hperm⟩ := hfirst.mirrored.annotationsOf_perm
  refine ⟨hfirst.mirrored, ?_, ?_⟩
  · intro hnone
    have hmirrored := hfirst.mirrored
    rw [Records.annotated_eq_nil hnone] at hmirrored
    exact hmirrored.nothing
  · intro count' s'' w calls' h' hsame
    obtain ⟨_, _, _, _, _, _, hholds, _⟩ := hfirst
    have hsecond := (Flow.ensures_iff _ _ _ _).1
      (ensures_reloadDriver hE halike.catalog halike.keyed (.of_sound hholds.sound hholds.sorted) id)
      _ _ _ h' count' rfl
    rw [halike.annotated] at hsecond
    obtain ⟨inquiries', hpairs', hanswers', hperm'⟩ := hsecond.mirrored.annotationsOf_perm
    rw [Inquiry.requests_eq (hpairs'.trans hpairs.symm)
      (hanswers'.trans (hsame.trans hanswers.symm))] at hperm'
    exact hperm'.trans hperm.symm

open Engine

/-- A hub with two bells. -/
def bellOperations : List Operation :=
  [.createDriver bellDriver, .createDevice (bellIn "attic"), .createDevice (bellIn "hall")]

def bellHub : LiveState × Records := bells.after bellOperations ({}, {})

/-- How reloading the bells goes. -/
def reloadBells (s : DispatchState) (hub : LiveState × Records) :
    Except DispatchError Nat × DispatchState × (LiveState × Records) × List ScriptCall :=
  (reloadDriver bellDriver.id).run.play bells.reply s (hub, [])

theorem ends_reloadBells (s : DispatchState) (hub : LiveState × Records) {count : Nat}
    (h : (reloadBells s hub).1.toOption = some count) :
    Flow.Ends bells.host.Replies.noting (reloadDriver bellDriver.id).run s (hub, []) (.ok count)
      (reloadBells s hub).2.1 (reloadBells s hub).2.2 := by
  have hends := Flow.ends_play bells.noting_reply (reloadDriver bellDriver.id).run s (hub, [])
  change Flow.Ends _ _ _ _ (reloadBells s hub).1 (reloadBells s hub).2.1
    (reloadBells s hub).2.2 at hends
  rcases hx : (reloadBells s hub).1 with e | n
  · rw [hx] at h
    cases h
  · rw [hx] at h hends
    cases h
    exact hends

def firstReload := reloadBells { broker := true } bellHub

def secondReload := reloadBells firstReload.2.1 firstReload.2.2.1

/-- Two bells are reloaded twice, and there are two registrations for them each time. -/
theorem reloadDriver_mirrors_bells :
    Mirrored bellDriver.id [("attic", ⟨"ring", "ringing"⟩), ("hall", ⟨"ring", "ringing"⟩)]
        { broker := true } firstReload.2.1 firstReload.2.2.2 2 ∧
      secondReload.1.toOption = some 2 ∧
      (secondReload.2.1.annotationsOf bellDriver.id).Perm
        (firstReload.2.1.annotationsOf bellDriver.id) ∧
      (firstReload.2.1.annotationsOf bellDriver.id).map (·.function.name) = ["ring", "ring"] := by
  obtain ⟨hl, hk, -⟩ := kept_after (Analyzer.extractions_of bells.deterministic_host) bellOperations
  have hfirst : firstReload.1.toOption = some 2 := by decide +kernel
  have hsecond : secondReload.1.toOption = some 2 := by decide +kernel
  have hpairs : bellHub.2.annotated bells.analyze bellDriver.id =
      [("attic", ⟨"ring", "ringing"⟩), ("hall", ⟨"ring", "ringing"⟩)] := by decide +kernel
  have hnames : (firstReload.2.1.annotationsOf bellDriver.id).map (·.function.name) =
      ["ring", "ring"] := by decide +kernel
  have hanswers : secondReload.2.2.2.map (fun c => namedTopics? c.answer) =
      firstReload.2.2.2.map (fun c => namedTopics? c.answer) := by decide +kernel
  have hsound : DispatchState.Sound { broker := true } := ⟨.empty, by rintro _ _ ⟨⟩⟩
  obtain ⟨hmirrored, -, hagain⟩ := reloadDriver_mirrors
    (Analyzer.extractions_of bells.deterministic_host) hl hk hsound .nil bellDriver.id
    (ends_reloadBells { broker := true } bellHub hfirst)
  have hsame := hagain 2 _ _ _ (ends_reloadBells firstReload.2.1 firstReload.2.2.1 hsecond) hanswers
  rw [← hpairs]
  exact ⟨hmirrored, hsecond, hsame, hnames⟩

end DispatchAttempt

end DriverHub
