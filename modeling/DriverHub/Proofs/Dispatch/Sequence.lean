import DriverHub.Dispatch.Annotations
import DriverHub.Proofs.Dispatch.Indices
import DriverHub.Proofs.Dispatch.Ledger
import DriverHub.Proofs.Dispatch.Unregistering

/-! A dispatcher to which one thing happens after another. Between two of them its table is tidy, and
the identifiers in it have been given out. When annotations are read anew, registrations are taken back
and others registered, so nothing else comes of that. -/

namespace DriverHub

/-- The states of a dispatcher to which things happened one after another, each in surroundings of its
own: brokers may come, fail and recover in between. -/
inductive Dispatched : DispatchState → Prop
  | start (settings : DispatchSettings) : Dispatched { settings }
  | happen {W : Type} {R : Surroundings dispatchServices W} {happening : Happening}
      {x : happening.Result} {s s' : DispatchState} {w w' : W} (before : Dispatched s)
      (ends : Flow.Ends R happening.flow s w x s' w') : Dispatched s'

namespace Hand.Moves

variable {g g' : Hand} {s : DispatchState} {act : DispatchAct}

/-- Where nobody else is in between, what a move leaves is relied on at the next. -/
theorem relies (h : g.Moves s act g') (hs : g.Relies s) (hnodup : g.drawn.Nodup) :
    g'.Relies (act.after s) ∧ g'.drawn.Nodup := by
  refine and_comm.1 ⟨?_, h.sound hs, ?_⟩
  · cases h with
    | draw =>
      refine List.nodup_cons.2 ⟨fun hmem => ?_, hnodup⟩
      exact Nat.lt_irrefl _ (hs.drawn _ hmem).1
    | enter => exact (List.nodup_cons.1 hnodup).2
    | aside | take | ask | deliver => exact hnodup
  · cases h with
    | aside table nextId =>
      rw [Flow.Act.after_accessed, table, nextId]
      exact hs.drawn
    | draw table nextId =>
      rw [Flow.Act.after_accessed, table, nextId]
      refine List.forall_mem_cons.2 ⟨⟨Nat.lt_succ_self _, hs.sound.get?_nextId⟩, ?_⟩
      exact fun id hid => ⟨Nat.lt_succ_of_lt (hs.drawn id hid).1, (hs.drawn id hid).2⟩
    | @enter r _ drawn _ _ _ table nextId =>
      rw [Flow.Act.after_accessed, table, nextId]
      intro id hid
      obtain ⟨hlt, hnone⟩ := hs.drawn id (List.mem_cons_of_mem _ hid)
      have hne : r.id ≠ id := by
        rintro rfl
        exact (List.nodup_cons.1 hnodup).1 hid
      exact ⟨hlt, by rw [RegistrationTable.get?_insert, if_neg hne, hnone]⟩
    | take found table nextId =>
      rw [Flow.Act.after_accessed, table, nextId]
      intro id hid
      obtain ⟨hlt, hnone⟩ := hs.drawn id hid
      refine ⟨hlt, ?_⟩
      rw [RegistrationTable.get?_remove, hnone, ite_self]
    | ask | deliver => exact hs.drawn

/-- A move leaves the table tidy. -/
theorem tidy (h : g.Moves s act g') (hs : g.Relies s) (htidy : s.table.Tidy) :
    (act.after s).table.Tidy := by
  cases h with
  | aside table | draw table => rwa [Flow.Act.after_accessed, table]
  | @enter r _ _ _ _ _ table =>
    rw [Flow.Act.after_accessed, table]
    exact htidy.insert (hs.drawn r.id List.mem_cons_self).2
  | take found table =>
    rw [Flow.Act.after_accessed, table]
    exact htidy.remove _
  | ask | deliver => exact htidy

end Hand.Moves

/-- Whatever happens while nothing else does leaves the table tidy. -/
theorem Happening.tidy {W : Type} {R : Surroundings dispatchServices W} {happening : Happening}
    {x : happening.Result} {s s' : DispatchState} {w w' : W} (hs : s.Sound) (htidy : s.table.Tidy)
    (ends : Flow.Ends R happening.flow s w x s' w') : s'.Sound ∧ s'.table.Tidy := by
  let Inv (g : Hand) (s : DispatchState) : Prop := g.Relies s ∧ g.drawn.Nodup ∧ s.table.Tidy
  have hmoves : ∀ (g : Hand) s act g', Inv g s → g.Moves s act g' → Inv g' (act.after s) := by
    rintro g s act g' ⟨hrelies, hnodup, htidy⟩ hmove
    obtain ⟨hrelies', hnodup'⟩ := hmove.relies hrelies hnodup
    exact ⟨hrelies', hnodup', hmove.tidy hrelies htidy⟩
  have hstart : Inv ⟨happening.fires, [], []⟩ s := ⟨⟨hs, nofun⟩, .nil, htidy⟩
  obtain ⟨_, ⟨hrelies, -, htidy'⟩, -⟩ := Flow.Keeps.ends Inv happening.keeps_flow
    (fun _ _ _ _ _ => trivial) (fun _ _ h => h.1) hmoves hstart ends
  exact ⟨hrelies.sound, htidy'⟩

namespace Dispatched

variable {s : DispatchState}

theorem sound_tidy (h : Dispatched s) : s.Sound ∧ s.table.Tidy := by
  induction h with
  | start => exact ⟨⟨.empty, nofun⟩, .empty⟩
  | happen _ ends ih => exact Happening.tidy ih.1 ih.2 ends

theorem sound (h : Dispatched s) : s.Sound := h.sound_tidy.1

theorem tidy (h : Dispatched s) : s.table.Tidy := h.sound_tidy.2

/-- Something happens in surroundings that answer each question in one way. -/
theorem play {W : Type} (h : Dispatched s) (happening : Happening)
    (answer : W → (q : DispatchService) → q.Answer × W) (w : W) :
    Dispatched (happening.flow.play answer s w).2.1 :=
  h.happen (Flow.ends_play (R := fun _ _ _ _ => True) (fun _ _ => trivial) happening.flow s w)

end Dispatched

/-! ### What comes next -/

/-- The states that a state leads to if only such things happen as are admitted, one after another and
each in surroundings of its own. -/
inductive Followed (admits : Happening → Prop) (s : DispatchState) : DispatchState → Prop
  | nothing : Followed admits s s
  | happen {W : Type} {R : Surroundings dispatchServices W} {happening : Happening}
      {x : happening.Result} {s₁ s₂ : DispatchState} {w w' : W} (before : Followed admits s s₁)
      (admitted : admits happening) (ends : Flow.Ends R happening.flow s₁ w x s₂ w') :
    Followed admits s s₂

theorem Dispatched.followed {admits : Happening → Prop} {s s' : DispatchState} (hs : Dispatched s)
    (h : Followed admits s s') : Dispatched s' := by
  induction h with
  | nothing => exact hs
  | happen _ _ ends ih => exact ih.happen ends

/-! ### Annotations that are read anew -/

/-- Whose annotations are read anew: those of a driver, those for a device, or all. -/
inductive Reload where
  | driver (id : DriverId)
  | device (id : DeviceId)
  | all

def Reload.flow : Reload → Dispatching (Except DispatchError Nat)
  | driver id => (DispatchAttempt.reloadDriver id).run
  | device id => (DispatchAttempt.reloadDevice id).run
  | all => DispatchAttempt.reloadAll.run

/-- A flow that comes to its end in a state to which one thing after another may have led, as soon as it
starts in one. -/
structure Flow.Reaches {α : Type} (flow : Dispatching α) : Prop where
  ends {W : Type} {R : Surroundings dispatchServices W} {s s' : DispatchState} {w w' : W} {a : α} :
    Dispatched s → Ends R flow s w a s' w' → Dispatched s'

namespace Flow.Reaches

variable {α β : Type}

theorem bind {flow : Dispatching α} {k : α → Dispatching β} (h : flow.Reaches)
    (hk : ∀ a, (k a).Reaches) : Reaches (flow >>= k) := by
  constructor
  intro W R s s' w w' b hs ends
  obtain ⟨a, s₁, w₁, hfirst, hrest⟩ := Ends.of_bind ends
  exact (hk a).ends (h.ends hs hfirst) hrest

theorem of_leaves {flow : Dispatching α} (h : flow.Leaves (id : DispatchState → DispatchState)) :
    flow.Reaches := by
  constructor
  intro W R s s' w w' a hs ends
  obtain rfl := h.ends ends
  exact hs

theorem done (a : α) : Reaches (.done a) := of_leaves trivial

theorem ask (q : DispatchService) : (Dispatching.ask q).Reaches := of_leaves fun _ => trivial

theorem attempt_bind {attempt : DispatchAttempt α} {k : α → DispatchAttempt β}
    (h : attempt.run.Reaches) (hk : ∀ a, (k a).run.Reaches) : (attempt >>= k).run.Reaches := by
  apply h.bind
  intro x
  cases x with
  | error e => exact done _
  | ok a => exact hk a

theorem lift_bind {flow : Dispatching α} {k : α → DispatchAttempt β} (h : flow.Reaches)
    (hk : ∀ a, (k a).run.Reaches) : (Attempt.lift flow >>= k : DispatchAttempt β).run.Reaches := by
  apply attempt_bind _ hk
  exact h.bind fun a => done _

theorem call (c : DispatchCall) : c.flow.Reaches := by
  constructor
  intro W R s s' w w' x hs ends
  have hends : Ends R (Happening.call c).flow s w x s' w' := ends
  exact hs.happen hends

end Flow.Reaches

namespace Dispatching

open Flow

theorem leaves_annotationTopics (t : Target) (annotated : AnnotatedCallback) :
    (annotationTopics t annotated).Leaves (id : DispatchState → DispatchState) := by
  intro x
  cases x with
  | error e => exact fun _ => trivial
  | ok outcome =>
    cases outcome with
    | failed diagnostics => exact fun _ => trivial
    | returned v =>
      cases v with
      | list items =>
        cases hitems : strings? items with
        | none =>
          simp only [Flow.bind, hitems]
          exact fun _ => trivial
        | some topics =>
          simp only [Flow.bind, hitems]
          trivial
      | _ => exact fun _ => trivial

theorem reaches_registerAnnotations (driver : DriverId) (device : DeviceId)
    (annotations : List AnnotatedCallback) :
    (registerAnnotations driver device annotations).Reaches := by
  induction annotations with
  | nil => exact .done _
  | cons annotated rest ih =>
    apply (Reaches.of_leaves (leaves_annotationTopics _ _)).bind
    intro topics
    cases topics with
    | none => exact ih
    | some topics =>
      apply (Reaches.call (.register (annotationRequest driver device annotated topics))).bind
      intro x
      cases x with
      | ok id => exact ih.bind fun count => .done _
      | error e =>
        dsimp only
        split
        · exact (Reaches.ask _).bind fun _ => ih
        · exact ih

theorem reaches_registerForDevices (driver : DriverId) (annotations : List AnnotatedCallback)
    (devices : List DeviceRecord) : (registerForDevices driver annotations devices).Reaches := by
  induction devices with
  | nil => exact .done _
  | cons device rest ih =>
    unfold registerForDevices
    split
    · apply (reaches_registerAnnotations driver device.id annotations).bind
      intro count
      exact ih.bind fun more => .done _
    · exact ih

end Dispatching

namespace DispatchAttempt

open Flow Dispatching

theorem reaches_record (op : RecordOp) : (record op).run.Reaches :=
  (Reaches.ask _).bind fun _ => .done _

theorem reaches_annotationsOf (driver : DriverRecord) : (annotationsOf driver).run.Reaches := by
  apply Reaches.lift_bind (.ask _)
  intro x
  split <;> exact .done _

theorem reaches_reloadDriver (id : DriverId) : (reloadDriver id).run.Reaches := by
  apply Reaches.lift_bind (.call (.dropAnnotations (some id) none))
  intro dropped
  apply (reaches_record _).attempt_bind
  intro found
  split
  · exact .done _
  · apply (reaches_annotationsOf _).attempt_bind
    intro annotations
    split
    · exact .done _
    · apply (reaches_record _).attempt_bind
      intro devices
      exact (reaches_registerForDevices _ _ _).bind fun count => .done _

theorem reaches_reloadDevice (id : DeviceId) : (reloadDevice id).run.Reaches := by
  apply Reaches.lift_bind (.call (.dropAnnotations none (some id)))
  intro dropped
  apply (reaches_record _).attempt_bind
  intro found
  split
  · exact .done _
  · apply (reaches_record _).attempt_bind
    intro owner
    split
    · exact .done _
    · apply (reaches_annotationsOf _).attempt_bind
      intro annotations
      exact (reaches_registerAnnotations _ _ _).bind fun count => .done _

theorem reaches_reloadEach (drivers : List DriverRecord) : (reloadEach drivers).run.Reaches := by
  induction drivers with
  | nil => exact .done _
  | cons driver rest ih =>
    apply (reaches_reloadDriver driver.id).attempt_bind
    intro count
    exact ih.attempt_bind fun more => .done _

end DispatchAttempt

/-- Reading annotations anew comes to registrations that are taken back and others that are registered.
-/
theorem Reload.reaches (reload : Reload) : reload.flow.Reaches := by
  cases reload with
  | driver id => exact DispatchAttempt.reaches_reloadDriver id
  | device id => exact DispatchAttempt.reaches_reloadDevice id
  | all =>
    apply (DispatchAttempt.reaches_record _).attempt_bind
    exact DispatchAttempt.reaches_reloadEach

end DriverHub
