import DriverHub.Proofs.Hub.Holding
import DriverHub.Proofs.Hub.Loading

/-! Annotations of a device that are registered anew, among other operations. What has been dropped
before makes room for what is registered then: for each annotation in the source of the driver that
the device belongs to there is one place, and there is no other. -/

namespace DriverHub.Watch

open DispatchState (Within)

variable {wt : Watch} {holds : Bool} {α β : Type} {r₀ r r' : Records} {hub hub' : Hub}
  {A B : DispatchState → Prop} {allowed allowed' : DriverId → List String} {request : RegisterRequest}

/-! ### Several requests -/

theorem Has.within_mono (h : wt.Has holds r₀ (Within wt.device allowed) hub r)
    (hallowed : ∀ driver, (allowed driver).Subperm (allowed' driver)) :
    wt.Has holds r₀ (Within wt.device allowed') hub r :=
  h.mono fun _ hs => hs.mono hallowed

theorem subperm_plus (requests : List RegisterRequest) (driver : DriverId) :
    (allowed driver).Subperm (wt.plus allowed requests driver) :=
  (List.sublist_append_right _ _).subperm

theorem plus_plus (requests requests' : List RegisterRequest) (driver : DriverId) :
    (wt.plus (wt.plus allowed requests) requests' driver).Perm
      (wt.plus allowed (requests ++ requests') driver) := by
  unfold plus
  rw [RegisterRequest.callbacks_append, ← List.append_assoc]
  exact List.perm_append_comm.append_right _

theorem guards_registerQueued {queue : List RegisterRequest}
    (h : wt.Has holds r₀ (Within wt.device allowed) hub r)
    (hqueue : holds = false → ∀ request ∈ queue, request.annotates none (some wt.device) = false) :
    wt.Guards holds (Hosted.dispatching (Dispatching.registerQueued queue)) hub r fun _ hub' r' =>
      wt.Has holds r₀ (Within wt.device (wt.plus allowed queue)) hub' r' := by
  induction queue generalizing allowed hub r with
  | nil => exact h
  | cons request rest ih =>
    have hrequest := fun hholds => hqueue hholds request List.mem_cons_self
    have hqueue' := fun hholds other hother => hqueue hholds other (List.mem_cons_of_mem _ hother)
    have hrest : ∀ {hub r}, wt.Has holds r₀ (Within wt.device (wt.plus allowed [request])) hub r →
        wt.Guards holds (Hosted.dispatching (Dispatching.registerQueued rest)) hub r
          fun _ hub' r' =>
            wt.Has holds r₀ (Within wt.device (wt.plus allowed (request :: rest))) hub' r' :=
      fun h₁ => (ih h₁ hqueue').mono fun _ _ _ h₂ => h₂.within_mono fun driver =>
        (plus_plus [request] rest driver).subperm
    refine guards_bind (guards_register h hrequest) ?_
    rintro (e | id) hub₁ r₁ h₁
    · simp only
      split
      · exact guards_bind (h₁.after (wt.stable_within _) (harmless_aside rfl)) fun _ _ _ => hrest
      · exact hrest h₁
    · exact guards_bind (hrest h₁) fun _ _ _ h₂ => h₂

/-! ### Annotations -/

theorem harmless_annotationTopics (t : Target) (annotated : AnnotatedCallback) :
    wt.Harmless (Hosted.dispatching (Dispatching.annotationTopics t annotated)) fun _ => True := by
  have hwarned : ∀ (text : String) (topics : Option (List String)), wt.Harmless (Hosted.dispatching
      (Dispatching.warn text >>= fun _ => pure topics)) fun _ => True :=
    fun _ _ => harmless_bind (harmless_aside rfl) fun _ _ => .done trivial
  have hinvoked : ∀ call, wt.Harmless (Hosted.dispatching (Dispatching.ask (.invoke t call)))
      fun _ => True := by
    refine fun call => harmless_dispatchAsk ?_
    refine Flow.Harmless.bind (harmless_ask trivial) fun token _ => ?_
    exact Flow.Harmless.mono (harmless_invoke t call token) fun _ _ => trivial
  unfold Dispatching.annotationTopics
  refine harmless_bind (hinvoked _) fun answer _ => ?_
  split
  · split
    · exact .done trivial
    · exact hwarned _ _
  · exact hwarned _ _
  · exact hwarned _ _
  · exact hwarned _ _

/-- What is allowed when the annotations of a driver have been added on a device. -/
def annotated (wt : Watch) (allowed : DriverId → List String) (driver : DriverId) (device : DeviceId)
    (annotations : List AnnotatedCallback) : DriverId → List String :=
  wt.plus allowed (annotations.map (Dispatching.annotationRequest driver device · []))

theorem callbacks_annotations (driver driver' : DriverId) (device : DeviceId)
    (annotations : List AnnotatedCallback) :
    RegisterRequest.callbacks driver' wt.device
        (annotations.map (Dispatching.annotationRequest driver device · [])) =
      if driver' = driver ∧ wt.device = device then annotations.map (·.callback) else [] := by
  have hannotates : (RegisterRequest.annotates (some driver') (some wt.device) ∘
      (Dispatching.annotationRequest driver device · [])) =
        fun _ => decide (driver' = driver ∧ wt.device = device) := by
    funext annotated
    simp [RegisterRequest.annotates, Dispatching.annotationRequest]
  unfold RegisterRequest.callbacks
  rw [List.filter_map, hannotates]
  by_cases h : driver' = driver ∧ wt.device = device
  · simp [h, Dispatching.annotationRequest]
  · simp [h]

theorem annotated_elsewhere {device : DeviceId} (h : device ≠ wt.device) (driver : DriverId)
    (annotations : List AnnotatedCallback) :
    wt.annotated allowed driver device annotations = allowed := by
  funext driver'
  unfold annotated plus
  rw [callbacks_annotations, if_neg fun hdevice => h hdevice.2.symm, List.nil_append]

theorem annotated_here (driver driver' : DriverId) (annotations : List AnnotatedCallback) :
    wt.annotated allowed driver wt.device annotations driver' =
      if driver' = driver then annotations.map (·.callback) ++ allowed driver'
      else allowed driver' := by
  unfold annotated plus
  rw [callbacks_annotations]
  by_cases h : driver' = driver <;> simp [h]

theorem guards_registerAnnotations (driver : DriverId) {device : DeviceId}
    (annotations : List AnnotatedCallback) (h : wt.Has holds r₀ (Within wt.device allowed) hub r)
    (hdevice : holds = false → device ≠ wt.device) :
    wt.Guards holds
      (Hosted.dispatching (Dispatching.registerAnnotations driver device annotations)) hub r
      fun _ hub' r' => wt.Has holds r₀
        (Within wt.device (wt.annotated allowed driver device annotations)) hub' r' := by
  induction annotations generalizing allowed hub r with
  | nil => exact h
  | cons a rest ih =>
    have hrest : ∀ {hub r},
        wt.Has holds r₀ (Within wt.device (wt.annotated allowed driver device [a])) hub r →
        wt.Guards holds
          (Hosted.dispatching (Dispatching.registerAnnotations driver device rest)) hub r
          fun _ hub' r' => wt.Has holds r₀
            (Within wt.device (wt.annotated allowed driver device (a :: rest))) hub' r' :=
      fun h₁ => (ih h₁).mono fun _ _ _ h₂ => h₂.within_mono fun driver' =>
        (plus_plus [Dispatching.annotationRequest driver device a []] _ driver').subperm
    refine guards_bind (h.after (wt.stable_within _) (harmless_annotationTopics _ a)) ?_
    rintro (_ | topics) hub₁ r₁ h₁
    · exact hrest (h₁.within_mono fun driver' => subperm_plus _ driver')
    · have hrequest : holds = false → (Dispatching.annotationRequest driver device a topics).annotates
          none (some wt.device) = false := by
        intro hholds
        simpa [RegisterRequest.annotates, Dispatching.annotationRequest, eq_comm] using hdevice hholds
      have hadded : wt.plus allowed [Dispatching.annotationRequest driver device a topics] =
          wt.annotated allowed driver device [a] :=
        plus_trigger wt allowed (Dispatching.annotationRequest driver device a []) (.message topics)
      have hregistered := guards_register h₁ hrequest
      rw [hadded] at hregistered
      refine guards_bind hregistered ?_
      rintro (e | id) hub₂ r₂ h₂
      · simp only
        split
        · exact guards_bind (h₂.after (wt.stable_within _) (harmless_aside rfl)) fun _ _ _ => hrest
        · exact hrest h₂
      · exact guards_bind (hrest h₂) fun _ _ _ h₃ => h₃

/-- Of devices with different identities, at most one has a place for the annotations. -/
theorem guards_registerForDevices {driver : DriverId} {annotations : List AnnotatedCallback}
    {devices : List DeviceRecord} (hdistinct : (devices.map (·.id)).Nodup)
    (h : wt.Has holds r₀ (Within wt.device allowed) hub r)
    (hdevices : holds = false →
      ∀ device ∈ devices, device.driver = driver → device.id ≠ wt.device)
    (hfewer : ∀ driver', (allowed driver').Subperm (allowed' driver'))
    (hmore : (∃ device ∈ devices, device.driver = driver ∧ device.id = wt.device) → ∀ driver',
      (wt.annotated allowed driver wt.device annotations driver').Subperm (allowed' driver')) :
    wt.Guards holds
      (Hosted.dispatching (Dispatching.registerForDevices driver annotations devices)) hub r
      fun _ hub' r' => wt.Has holds r₀ (Within wt.device allowed') hub' r' := by
  induction devices generalizing allowed hub r with
  | nil => exact h.within_mono hfewer
  | cons device rest ih =>
    obtain ⟨hnew, hdistinct⟩ := List.nodup_cons.1 hdistinct
    have hrest := fun hholds other hother => hdevices hholds other (List.mem_cons_of_mem _ hother)
    have hmore' : (∃ other ∈ rest, other.driver = driver ∧ other.id = wt.device) →
        ∃ other ∈ device :: rest, other.driver = driver ∧ other.id = wt.device := by
      rintro ⟨other, hother, hothers⟩
      exact ⟨other, List.mem_cons_of_mem _ hother, hothers⟩
    unfold Dispatching.registerForDevices
    split
    · next howner =>
      have hregistered := guards_registerAnnotations driver annotations h fun hholds =>
        hdevices hholds device List.mem_cons_self howner
      refine guards_bind hregistered fun count hub₁ r₁ h₁ => ?_
      by_cases hdevice : device.id = wt.device
      · rw [hdevice] at h₁
        have hhere := hmore ⟨device, List.mem_cons_self, howner, hdevice⟩
        refine guards_bind (ih hdistinct h₁ hrest hhere ?_) fun _ _ _ h₂ => h₂
        rintro ⟨other, hother, -, hsame⟩
        exact absurd (List.mem_map.2 ⟨other, hother, hsame.trans hdevice.symm⟩) hnew
      · rw [annotated_elsewhere hdevice] at h₁
        exact guards_bind (ih hdistinct h₁ hrest hfewer (hmore ∘ hmore')) fun _ _ _ h₂ => h₂
    · exact ih hdistinct h hrest hfewer (hmore ∘ hmore')

/-! ### What a reload reads -/

theorem guards_readRecord {op : RecordOp} (hop : op.isRead = true) (hA : wt.Stable A)
    (h : wt.Has holds r₀ A hub r) :
    wt.Guards holds (Hosted.dispatching (DispatchAttempt.record op).run) hub r fun x hub' r' =>
      wt.Has holds r₀ A hub' r' ∧
        ∀ a, x = .ok a → ∃ hub₁ r₁, wt.Has holds r₀ A hub₁ r₁ ∧ a = op.result r₁ := by
  have hasked : wt.Guards holds (Hosted.dispatching (Dispatching.ask (.record op))) hub r
      fun x hub' r' => wt.Has holds r₀ A hub' r' ∧ ∀ a, x = .ok a → a = op.result r := by
    refine Flow.Guarded.bind (guards_read hop h.sound) fun x hub' r' ⟨hrelies, hx⟩ => ?_
    exact ⟨h.relies hA hrelies, hx⟩
  refine guards_bind hasked ?_
  rintro (e | a) hub' r' ⟨h', hx⟩
  · exact ⟨h', nofun⟩
  · refine ⟨h', ?_⟩
    rintro _ ⟨⟩
    exact ⟨hub, r, h, hx a rfl⟩

theorem harmless_annotationsOf (driver : DriverRecord) :
    wt.Harmless (Hosted.dispatching (DispatchAttempt.annotationsOf driver).run) fun x =>
      ∀ annotations, x = .ok annotations →
        annotations = wt.analyze.annotations driver.id driver.source ∨ annotations = [] := by
  have hprepared : wt.Harmless (Hosted.dispatching (Dispatching.ask (.prepare driver))) fun x =>
      ∀ program, x = .ok program →
        program.triggers = wt.analyze.annotations driver.id driver.source := by
    refine harmless_dispatchAsk (Flow.Harmless.bind (harmless_prepare driver) ?_)
    rintro (e | prepared) hprepared
    · exact .done nofun
    · refine .done ?_
      rintro _ ⟨⟩
      exact hprepared prepared rfl
  refine harmless_lift hprepared ?_
  rintro (e | program) hprogram
  · split
    · next heq => cases heq
    · refine .done ?_
      rintro _ ⟨⟩
      exact .inr rfl
    · exact .done nofun
  · refine .done ?_
    rintro _ ⟨⟩
    exact .inl (hprogram program rfl)

/-! ### Reloads -/

/-- Whether a drop is about the annotations of the driver on the device. -/
def concerns (wt : Watch) (dropped : Option DriverId) (device : Option DeviceId) (driver : DriverId) :
    Bool :=
  dropped.all (· = driver) && device.all (· = wt.device)

/-- No more annotations on the device than are allowed, apart from those that a drop is about. -/
def WithinBut (wt : Watch) (dropped : Option DriverId) (device : Option DeviceId)
    (allowed : DriverId → List String) (s : DispatchState) : Prop :=
  ∀ driver, wt.concerns dropped device driver = false →
    (RegisterRequest.callbacks driver wt.device s.requests).Subperm (allowed driver)

theorem within_but (dropped : Option DriverId) (device : Option DeviceId) {s : DispatchState}
    (h : s.Within wt.device allowed) : wt.WithinBut dropped device allowed s :=
  fun driver _ => h driver

theorem stable_withinBut (dropped : Option DriverId) (device : Option DeviceId)
    (allowed : DriverId → List String) : wt.Stable (wt.WithinBut dropped device allowed) :=
  fun _ _ hspares h driver hdriver => (hspares.callbacks driver).trans (h driver hdriver)

/-- What is allowed right after a drop. -/
def remaining (wt : Watch) (dropped : Option DriverId) (device : Option DeviceId)
    (allowed : DriverId → List String) (driver : DriverId) : List String :=
  if wt.concerns dropped device driver then [] else allowed driver

theorem remaining_subperm (dropped : Option DriverId) (device : Option DeviceId) (driver : DriverId) :
    (wt.remaining dropped device allowed driver).Subperm (allowed driver) := by
  unfold remaining
  split
  · exact List.nil_subperm
  · exact .refl _

theorem guards_drop {dropped : Option DriverId} {device : Option DeviceId}
    (h : wt.Has holds r₀ (wt.WithinBut dropped device allowed) hub r) :
    wt.Guards holds (Hosted.dispatching (Dispatching.dropAnnotations dropped device)) hub r
      fun _ hub' r' =>
        wt.Has holds r₀ (Within wt.device (wt.remaining dropped device allowed)) hub' r' := by
  refine (guards_dropAnnotations h (stable_withinBut _ _ _)).mono fun _ _ _ h₁ => h₁.mono ?_
  rintro s ⟨hs, hdropped⟩ driver
  unfold remaining
  split
  · next hconcerns =>
    rw [concerns, Bool.and_eq_true] at hconcerns
    have hdriver : dropped = none ∨ dropped = some driver := by
      cases dropped with
      | none => exact .inl rfl
      | some d => exact .inr (congrArg some (by simpa using hconcerns.1))
    have hdevice : device = none ∨ device = some wt.device := by
      cases device with
      | none => exact .inl rfl
      | some d => exact .inr (congrArg some (by simpa using hconcerns.2))
    have hnone : RegisterRequest.callbacks driver wt.device s.requests = [] := by
      refine RegisterRequest.callbacks_eq_nil fun request hrequest => ?_
      by_contra hannotates
      rw [Bool.not_eq_false] at hannotates
      have hgone := hdropped request hrequest (RegisterRequest.annotates_of_driver hannotates)
      rw [RegisterRequest.annotates_of hannotates hdriver hdevice] at hgone
      cases hgone
    rw [hnone]
  · next hconcerns => exact hs driver (by simpa using hconcerns)

/-- The callbacks of the annotations in the source of the driver, if the device belongs to it. -/
def quota (wt : Watch) (r : Records) (driver : DriverId) : List String :=
  if r.owner? wt.device = some driver then
    match r.source? driver with
    | some source => (wt.analyze.annotations driver source).map (·.callback)
    | none => []
  else []

theorem quota_of_owner {driver : DriverId} {source : String}
    (howner : r.owner? wt.device = some driver) (hsource : r.source? driver = some source) :
    wt.quota r driver = (wt.analyze.annotations driver source).map (·.callback) := by
  unfold quota
  rw [if_pos howner, hsource]

theorem quota_of_unmoved (h : wt.Sound hub r) (hmoved : wt.Unmoved r₀ r) :
    wt.quota r = wt.quota r₀ := by
  funext driver
  unfold quota
  rw [hmoved.owner]
  split
  · next howner =>
    rw [hmoved.source driver (h.owner driver (hmoved.owner.trans howner))]
  · rfl

theorem annotated_subperm_quota {driver : DriverId} {source : String} {dropped : Option DriverId}
    {device : Option DeviceId} {annotations : List AnnotatedCallback}
    (hconcerns : wt.concerns dropped device driver = true)
    (howner : r.owner? wt.device = some driver) (hsource : r.source? driver = some source)
    (hannotations : annotations = wt.analyze.annotations driver source ∨ annotations = [])
    (driver' : DriverId) :
    (wt.annotated (wt.remaining dropped device (wt.quota r)) driver wt.device annotations
      driver').Subperm (wt.quota r driver') := by
  rw [annotated_here]
  split
  · next heq =>
    subst heq
    rw [remaining, if_pos hconcerns, List.append_nil, quota_of_owner howner hsource]
    rcases hannotations with rfl | rfl
    · exact .refl _
    · exact List.nil_subperm
  · exact remaining_subperm dropped device driver'

/-- What a reload is to lead to: the annotations of the device are within its quota. -/
abbrev Settled (wt : Watch) (holds : Bool) (r₀ : Records) (hub : Hub) (r : Records) : Prop :=
  wt.Has holds r₀ (Within wt.device (wt.quota r₀)) hub r

theorem guards_reloadDriver {id : DriverId} (hheld : id ∈ wt.drivers → holds = true)
    (h : wt.Has holds r₀ (wt.WithinBut (some id) none (wt.quota r₀)) hub r) :
    wt.Guards holds (Hosted.dispatching (DispatchAttempt.reloadDriver id).run) hub r
      fun _ hub' r' => wt.Settled holds r₀ hub' r' := by
  have hstable := wt.stable_within (wt.remaining (some id) none (wt.quota r₀))
  have hfewer : ∀ driver, (wt.remaining (some id) none (wt.quota r₀) driver).Subperm
      (wt.quota r₀ driver) := remaining_subperm _ _
  unfold DispatchAttempt.reloadDriver
  refine guards_lift (guards_drop h) fun _ hub₁ r₁ h₁ => ?_
  refine guards_attempt (guards_readRecord rfl hstable h₁) ?_
    fun e _ _ h₂ => h₂.1.within_mono hfewer
  rintro (_ | driver) hub₂ r₂ ⟨h₂, hread⟩
  · exact h₂.within_mono hfewer
  obtain ⟨hubₐ, rₐ, hₐ, hdriver⟩ := hread _ rfl
  refine guards_attempt (h₂.harmless hstable (harmless_annotationsOf driver)) ?_
    fun e _ _ h₃ => h₃.1.within_mono hfewer
  rintro annotations hub₃ r₃ ⟨h₃, hannotations⟩
  split
  · exact h₃.within_mono hfewer
  next hsome =>
  refine guards_attempt (guards_readRecord rfl hstable h₃) ?_
    fun e _ _ h₄ => h₄.1.within_mono hfewer
  rintro devices hub₄ r₄ ⟨h₄, hread⟩
  obtain ⟨hubₑ, rₑ, hₑ, rfl⟩ := hread _ rfl
  have howner : (∃ device ∈ RecordOp.result rₑ .devices,
      device.driver = id ∧ device.id = wt.device) → rₑ.owner? wt.device = some id := by
    rintro ⟨device, hdevice, rfl, hid⟩
    have hfind := hₑ.sound.keyed.mem_devices.1 hdevice
    rw [hid] at hfind
    exact Records.owner?_of_find? hfind
  refine guards_bind (guards_registerForDevices hₑ.sound.keyed.nodup_devices h₄ ?_ hfewer ?_)
    fun _ _ _ h₅ => h₅
  · intro hholds device hdevice hdriver hid
    have hmember := hₑ.sound.owner id (howner ⟨device, hdevice, hdriver, hid⟩)
    rw [hheld hmember] at hholds
    cases hholds
  · intro hdevice
    have hmember := hₑ.sound.owner id (howner hdevice)
    have hholds := hheld hmember
    have hid : driver.id = id := hₐ.sound.keyed.find?_driver hdriver.symm
    have hannotations := hannotations annotations rfl
    rw [hid] at hannotations
    refine annotated_subperm_quota (by simp [concerns]) ?_ ?_ hannotations
    · exact (hₑ.unmoved hholds).owner.symm.trans (howner hdevice)
    · exact ((hₐ.unmoved hholds).source id hmember).symm.trans (Records.source?_of_find? hdriver.symm)

theorem guards_reloadDevice {id : DeviceId} (hheld : id = wt.device → holds = true)
    (h : wt.Has holds r₀ (wt.WithinBut none (some id) (wt.quota r₀)) hub r) :
    wt.Guards holds (Hosted.dispatching (DispatchAttempt.reloadDevice id).run) hub r
      fun _ hub' r' => wt.Settled holds r₀ hub' r' := by
  have hstable := wt.stable_within (wt.remaining none (some id) (wt.quota r₀))
  have hfewer : ∀ driver, (wt.remaining none (some id) (wt.quota r₀) driver).Subperm
      (wt.quota r₀ driver) := remaining_subperm _ _
  unfold DispatchAttempt.reloadDevice
  refine guards_lift (guards_drop h) fun _ hub₁ r₁ h₁ => ?_
  refine guards_attempt (guards_readRecord rfl hstable h₁) ?_
    fun e _ _ h₂ => h₂.1.within_mono hfewer
  rintro (_ | device) hub₂ r₂ ⟨h₂, hread⟩
  · exact h₂.within_mono hfewer
  obtain ⟨hubₑ, rₑ, hₑ, hdevice⟩ := hread _ rfl
  refine guards_attempt (guards_readRecord rfl hstable h₂) ?_
    fun e _ _ h₃ => h₃.1.within_mono hfewer
  rintro (_ | driver) hub₃ r₃ ⟨h₃, hread⟩
  · exact h₃.within_mono hfewer
  obtain ⟨hubₐ, rₐ, hₐ, hdriver⟩ := hread _ rfl
  refine guards_attempt (h₃.harmless hstable (harmless_annotationsOf driver)) ?_
    fun e _ _ h₄ => h₄.1.within_mono hfewer
  rintro annotations hub₄ r₄ ⟨h₄, hannotations⟩
  have hother : holds = false → id ≠ wt.device := by
    rintro hholds rfl
    rw [hheld rfl] at hholds
    cases hholds
  refine guards_bind (guards_registerAnnotations _ _ h₄ hother) fun count hub₅ r₅ h₅ => ?_
  refine h₅.within_mono fun driver' => ?_
  by_cases hid : id = wt.device
  · subst hid
    have howner : rₑ.owner? wt.device = some device.driver := Records.owner?_of_find? hdevice.symm
    have hmember := hₑ.sound.owner _ howner
    have hholds := hheld rfl
    have hdriverId : driver.id = device.driver := hₐ.sound.keyed.find?_driver hdriver.symm
    have hannotations := hannotations annotations rfl
    rw [hdriverId] at hannotations
    refine annotated_subperm_quota (by simp [concerns]) ?_ ?_ hannotations driver'
    · exact (hₑ.unmoved hholds).owner.symm.trans howner
    · exact ((hₐ.unmoved hholds).source _ hmember).symm.trans (Records.source?_of_find? hdriver.symm)
  · rw [annotated_elsewhere hid]
    exact hfewer driver'

theorem guards_following {flow : Hosted Unit} {Q : Hub → Records → Prop} (hA : wt.Stable A)
    (h : wt.Has holds r₀ A hub r)
    (hflow : ∀ hub r, wt.Has holds r₀ A hub r → wt.Guards holds flow hub r fun _ => Q) :
    wt.Guards holds (do if ← Flow.look (·.following) then flow) hub r fun _ => Q := by
  refine ⟨.of_spares h.sound (wt.matter.spares_refl hub r), fun hub' r' hrelies => ?_⟩
  change wt.Guards holds (if hub.following = true then flow else pure ()) hub' r' fun _ => Q
  rw [if_pos h.sound.following]
  exact hflow hub' r' (h.relies hA hrelies)

theorem guards_driverChanged {id : DriverId} (hheld : id ∈ wt.drivers → holds = true)
    (h : wt.Has holds r₀ (wt.WithinBut (some id) none (wt.quota r₀)) hub r) :
    wt.Guards holds (Hosted.driverChanged id) hub r fun _ hub' r' => wt.Settled holds r₀ hub' r' := by
  refine guards_following (stable_withinBut _ _ _) h fun hub₁ r₁ h₁ => ?_
  refine guards_bind (guards_reloadDriver hheld h₁) ?_
  rintro (e | count) hub₂ r₂ h₂
  · exact h₂.after (wt.stable_within _) (harmless_aside rfl)
  · exact h₂.after (wt.stable_within _) (harmless_aside rfl)

theorem guards_deviceChanged {id : DeviceId} (hheld : id = wt.device → holds = true)
    (h : wt.Has holds r₀ (wt.WithinBut none (some id) (wt.quota r₀)) hub r) :
    wt.Guards holds (Hosted.deviceChanged id) hub r fun _ hub' r' => wt.Settled holds r₀ hub' r' := by
  refine guards_following (stable_withinBut _ _ _) h fun hub₁ r₁ h₁ => ?_
  refine guards_bind (guards_reloadDevice hheld h₁) ?_
  rintro (e | count) hub₂ r₂ h₂
  · exact h₂.after (wt.stable_within _) (harmless_aside rfl)
  · exact h₂

/-! ### Retries -/

/-- The annotations that are in the table. -/
def tabled (wt : Watch) (s : DispatchState) (driver : DriverId) : List String :=
  RegisterRequest.callbacks driver wt.device s.table.requests

theorem within_drained (s : DispatchState) :
    Within wt.device (wt.tabled s) { s with pending := [] } := by
  intro driver
  unfold tabled DispatchState.requests
  rw [List.append_nil]

theorem plus_tabled (s : DispatchState) (driver : DriverId) :
    (wt.plus (wt.tabled s) s.pending driver).Perm
      (RegisterRequest.callbacks driver wt.device s.requests) := by
  unfold plus tabled DispatchState.requests
  rw [RegisterRequest.callbacks_append]
  exact List.perm_append_comm

/-- A retry that finds annotations on the device in the queue has to hold the device. -/
theorem guards_retryPending
    (hheld : hub.dispatch.pending.any (·.annotates none (some wt.device)) = true → holds = true)
    (h : wt.Settled holds r₀ hub r) :
    wt.Guards holds (Hosted.dispatching Dispatching.retryPending) hub r
      fun _ hub' r' => wt.Settled holds r₀ hub' r' := by
  have hstable := wt.stable_within (wt.tabled hub.dispatch)
  have hqueue : holds = false → ∀ request ∈ hub.dispatch.pending,
      request.annotates none (some wt.device) = false := by
    intro hholds request hrequest
    by_contra hannotates
    have hany := List.any_eq_true.2 ⟨request, hrequest, by simpa using hannotates⟩
    rw [hheld hany] at hholds
    cases hholds
  have hdrained : wt.Guards holds (Hosted.dispatching (Flow.exchange fun s : DispatchState =>
      (s.pending, { s with pending := [] }))) hub r fun queue hub' r' =>
        queue = hub.dispatch.pending ∧
          wt.Has holds r₀ (Within wt.device (wt.tabled hub.dispatch)) hub' r' := by
    have hsound : wt.Sound { hub with dispatch := { hub.dispatch with pending := [] } } r :=
      { h.sound with }
    have hspares : DispatchState.Spares wt.device hub.dispatch { hub.dispatch with pending := [] } :=
      .requeue (List.nil_sublist _)
    have hafter : wt.Has holds r₀ (Within wt.device (wt.tabled hub.dispatch))
        { hub with dispatch := { hub.dispatch with pending := [] } } r :=
      ⟨hsound, fun hholds => ⟨h.unmoved hholds, within_drained _⟩⟩
    refine ⟨.of_spares hsound ⟨hspares, .refl r⟩, fun hub' r' hrelies => ⟨rfl, ?_⟩⟩
    exact hafter.relies hstable hrelies
  -- what was in the queue goes back to where there was room for it
  have hsettled : ∀ {hub₁ r₁}, wt.Has holds r₀
      (Within wt.device (wt.plus (wt.tabled hub.dispatch) hub.dispatch.pending)) hub₁ r₁ →
      wt.Settled holds r₀ hub₁ r₁ := by
    refine fun h₁ => ⟨h₁.sound, fun hholds => (h₁.held hholds).imp_right fun hs => ?_⟩
    exact hs.mono fun driver => (plus_tabled _ driver).subperm.trans ((h.held hholds).2 driver)
  unfold Dispatching.retryPending
  refine guards_bind hdrained ?_
  rintro _ hub₁ r₁ ⟨rfl, h₁⟩
  split
  · exact hsettled (h₁.within_mono fun driver => subperm_plus _ driver)
  · refine guards_bind (guards_registerQueued h₁ hqueue) fun count hub₂ r₂ h₂ => ?_
    refine guards_bind ((hsettled h₂).after (wt.stable_within _) (harmless_aside rfl)) ?_
    exact fun _ _ _ h₃ => h₃

end DriverHub.Watch
