import DriverHub.Proofs.Dispatch.Hand

/-! Where a call stands with one topic. Calls change the table and ask the broker in separate steps. A
call that entered the first listener on a topic has yet to subscribe, and one that took out the last
has yet to unsubscribe; until then the table and the broker say different things, and it is this call
that has to make them agree. -/

namespace DriverHub

namespace DispatchState

/-- Who listens on a topic. -/
def listenersOn (topic : String) (s : DispatchState) : List RegistrationId :=
  RegistrationTable.idsOn topic s.table.listening

variable {s : DispatchState} {update : DispatchState → DispatchState} {id : RegistrationId}

theorem Sound.mem_listenersOn (hs : s.Sound) (topic : String) :
    id ∈ listenersOn topic s ↔ ∃ r, s.table.get? id = some r ∧ topic ∈ r.topics :=
  hs.indexed.mem_iff

/-- Some registration in the table listens on a topic. -/
def Listened (topic : String) (s : DispatchState) : Prop :=
  ∃ id r, s.table.get? id = some r ∧ topic ∈ r.topics

theorem Sound.listenersOn_ne_nil (hs : s.Sound) {topic : String} :
    listenersOn topic s ≠ [] ↔ s.Listened topic := by
  constructor
  · intro hne
    obtain ⟨id, hid⟩ := List.exists_mem_of_ne_nil _ hne
    exact ⟨id, (hs.mem_listenersOn topic).1 hid⟩
  · rintro ⟨id, hid⟩
    exact List.ne_nil_of_mem ((hs.mem_listenersOn topic).2 hid)

theorem Sound.listenersOn_enter (hs : s.Sound) (topic : String) {r : Registration}
    (hr : s.table.get? r.id = none) (table : (update s).table = (s.table.insert r).2) :
    listenersOn topic (update s) =
      if topic ∈ r.topics then listenersOn topic s ++ [r.id] else listenersOn topic s := by
  rw [listenersOn, table]
  exact hs.indexed.idsOn_insert hr topic

theorem Sound.listenersOn_remove (hs : s.Sound) (topic : String)
    (table : (update s).table = (s.table.remove id).2) :
    listenersOn topic (update s) = (listenersOn topic s).filter (· ≠ id) := by
  rw [listenersOn, table]
  exact hs.indexed.idsOn_remove id topic

end DispatchState

open DispatchState

namespace DispatchService

/-- Asks the broker about a topic. -/
def isAbout (topic : String) : DispatchService → Bool
  | subscribe t | unsubscribe t => t = topic
  | _ => false

/-- The answers of a broker that never refuses to unsubscribe. -/
def obliging : (q : DispatchService) → q.Answer → Prop
  | unsubscribe _, answer => answer = .ok ()
  | _, _ => True

end DispatchService

/-- An act that has to do with a topic: it changes who listens on it, or asks the broker about it. -/
def touches (topic : String) (s : DispatchState) (act : DispatchAct) : Bool :=
  decide (listenersOn topic (act.after s) ≠ listenersOn topic s) ||
    match act with
    | .accessed _ => false
    | .asked q _ => q.isAbout topic

theorem listenersOn_of_untouched {topic : String} {s : DispatchState} {act : DispatchAct}
    (h : touches topic s act = false) : listenersOn topic (act.after s) = listenersOn topic s := by
  simp only [touches, Bool.or_eq_false_iff, decide_eq_false_iff_not, not_not] at h
  exact h.1

theorem untouched_of_table {topic : String} {s : DispatchState}
    {update : DispatchState → DispatchState}
    (h : (update s).table = s.table) : touches topic s (.accessed update) = false := by
  simp [touches, listenersOn, h]

inductive Stage where
  /-- Nothing is left to do. -/
  | clear
  /-- It has drawn a number to enter a registration under. -/
  | numbered (id : RegistrationId)
  /-- It entered a registration that does not listen, and may have to remove it again. -/
  | outside (id : RegistrationId)
  /-- It entered the first listener, and has not subscribed. -/
  | joining (id : RegistrationId)
  /-- It entered the first listener and subscribed, and may have to remove the listener again. -/
  | first (id : RegistrationId)
  /-- It entered one more listener, and may have to remove it again. -/
  | later (id : RegistrationId)
  /-- It removed the last listener, and has not unsubscribed. -/
  | leaving

namespace Stage

/-- The registration that may have to be removed again. -/
def holder : Stage → Option RegistrationId
  | outside id | joining id | first id | later id => some id
  | _ => none

/-- Where a call stands once it has removed its registration again. -/
def rolledBack : Stage → Stage
  | first _ => leaving
  | _ => clear

/-- Where a call stands once its registration is there to stay. -/
def settled : Stage → Stage
  | outside _ | first _ | later _ => clear
  | stage => stage

/-- Where a call stands that has just entered a registration. -/
def entered (topic : String) (r : Registration) (s : DispatchState) : Stage :=
  if topic ∈ r.topics then
    if listenersOn topic s = [] then joining r.id else later r.id
  else outside r.id

/-- Where a call stands that has just taken a registration back. -/
def removed (topic : String) (id : RegistrationId) (s : DispatchState) : Stage :=
  if listenersOn topic s ≠ [] ∧ (listenersOn topic s).filter (· ≠ id) = [] then leaving else clear

/-- Where a call stands that has yet to unsubscribe from topics. -/
def owing (topic : String) (topics : List String) : Stage :=
  if topic ∈ topics then leaving else clear

inductive Moves (topic : String) : Stage → DispatchState → DispatchAct → Stage → Prop
  | aside {g s act} (still : ∀ id, g ≠ numbered id) (untouched : touches topic s act = false) :
    Moves topic g s act g
  | draw {s update} (table : (update s).table = s.table) (nextId : (update s).nextId = s.nextId + 1) :
    Moves topic clear s (.accessed update) (numbered s.nextId)
  | enter {r s update} (table : (update s).table = (s.table.insert r).2) :
    Moves topic (numbered r.id) s (.accessed update) (entered topic r s)
  | granted {id s} : Moves topic (joining id) s (.asked (.subscribe topic) (.ok ())) (first id)
  | refused {id s reason} :
    Moves topic (joining id) s (.asked (.subscribe topic) (.error reason)) (joining id)
  | rollBack {g id s update} (holder : g.holder = some id)
      (table : (update s).table = (s.table.remove id).2) :
    Moves topic g s (.accessed update) g.rolledBack
  | remove {id s update} (table : (update s).table = (s.table.remove id).2) :
    Moves topic clear s (.accessed update) (removed topic id s)
  | released {s} : Moves topic leaving s (.asked (.unsubscribe topic) (.ok ())) clear
  | settle {g s act g'} (move : Moves topic g s act g') : Moves topic g s act g'.settled

/-- What a call finds of a registration that it may have to remove again. -/
def Sees (topic : String) : Stage → DispatchState → Prop
  | joining id, s | first id, s | later id, s => id ∈ listenersOn topic s
  | _, _ => True

structure Relies (topic : String) (g : Stage) (s : DispatchState) : Prop where
  sound : s.Sound
  broker : s.broker = true
  sees : g.Sees topic s
  alone : ∀ id, g = first id → listenersOn topic s = [id]

/-- The protocol of stages, with a broker that never refuses to unsubscribe. -/
def protocol (topic : String) : Flow.Protocol dispatchServices DispatchState Stage where
  relies := Relies topic
  answers := DispatchService.obliging
  moves g s act g' := (act.after s).broker = s.broker ∧ Moves topic g s act g'

end Stage

namespace Dispatching

open Stage

variable {α : Type} {topic : String} {g : Stage}

theorem staged_look {f : DispatchState → α} {Q : α → Stage → Prop} (still : ∀ id, g ≠ numbered id)
    (h : ∀ s, g.Relies topic s → Q (f s) g) : (look f).Keeps (Stage.protocol topic) g Q :=
  fun s hs => ⟨g, ⟨rfl, .aside still (untouched_of_table rfl)⟩, h s hs⟩

theorem staged_ask {q : DispatchService} {Q : q.Answer → Stage → Prop}
    (still : ∀ id, g ≠ numbered id)
    (hq : q.isAbout topic = false) (h : ∀ b, Q b g) : (ask q).Keeps (Stage.protocol topic) g Q := by
  intro s b _ _
  have huntouched : touches topic s (.asked q b) = false := by simp [touches, hq]
  exact ⟨g, ⟨rfl, .aside still huntouched⟩, h b⟩

theorem staged_exchange {f : DispatchState → α × DispatchState} {Q : α → Stage → Prop}
    (still : ∀ id, g ≠ numbered id) (table : ∀ s, (f s).2.table = s.table)
    (broker : ∀ s, (f s).2.broker = s.broker) (h : ∀ a, Q a g) :
    (Flow.exchange f : Dispatching α).Keeps (Stage.protocol topic) g Q :=
  fun s _ => ⟨g, ⟨broker s, .aside still (untouched_of_table (table s))⟩, h _⟩

theorem staged_change {f : DispatchState → DispatchState} {Q : Unit → Stage → Prop}
    (still : ∀ id, g ≠ numbered id) (table : ∀ s, (f s).table = s.table)
    (broker : ∀ s, (f s).broker = s.broker) (h : Q () g) :
    (Flow.change f : Dispatching Unit).Keeps (Stage.protocol topic) g Q :=
  fun s _ => ⟨g, ⟨broker s, .aside still (untouched_of_table (table s))⟩, h⟩

/-! ### Taking back -/

theorem clear_ne_numbered (id : RegistrationId) : clear ≠ numbered id := nofun

theorem owing_ne_numbered (topic : String) (topics : List String) (id : RegistrationId) :
    owing topic topics ≠ numbered id := by
  unfold owing
  split <;> nofun

theorem staged_unsubscribeEach (failed : String) {topics : List String} (hnodup : topics.Nodup)
    {Q : Unit → Stage → Prop} (h : Q () clear) :
    (unsubscribeEach failed topics).Keeps (Stage.protocol topic) (owing topic topics) Q := by
  induction topics with
  | nil => exact h
  | cons t rest ih =>
    obtain ⟨ht, hrest⟩ := List.nodup_cons.1 hnodup
    have hnext := ih hrest
    intro s b _ hb
    obtain rfl : b = .ok () := hb
    by_cases htopic : t = topic
    · subst htopic
      have hleaving : owing t (t :: rest) = leaving := if_pos List.mem_cons_self
      have hclear : owing t rest = clear := if_neg ht
      rw [hclear] at hnext
      rw [hleaving]
      exact ⟨clear, ⟨rfl, .released⟩, hnext⟩
    · have howing : owing topic (t :: rest) = owing topic rest := by
        simp [owing, Ne.symm htopic]
      have huntouched : touches topic s (.asked (.unsubscribe t) (.ok ())) = false := by
        simp [touches, DispatchService.isAbout, htopic]
      rw [howing]
      exact ⟨_, ⟨rfl, .aside (owing_ne_numbered topic rest) huntouched⟩, hnext⟩

theorem staged_unsubscribeAll {topics : List String} (hnodup : topics.Nodup)
    {Q : Unit → Stage → Prop} (h : Q () clear) :
    (unsubscribeAll topics).Keeps (Stage.protocol topic) (owing topic topics) Q := by
  unfold unsubscribeAll
  split
  · next hnil =>
    obtain rfl := List.isEmpty_iff.1 hnil
    exact h
  · refine Flow.keeps_bind.2 (staged_look (owing_ne_numbered topic topics) ?_)
    intro s hs
    rw [if_pos hs.broker]
    exact staged_unsubscribeEach _ hnodup h

/-- Who removes a registration owes the broker what got orphaned. -/
theorem staged_removeEntry {id : RegistrationId}
    {Q : Option (Registration × List String) → Stage → Prop}
    (hnone : Q none clear)
    (hsome : ∀ r orphaned, orphaned.Nodup → Q (some (r, orphaned)) (owing topic orphaned)) :
    (removeEntry id).Keeps (Stage.protocol topic) clear Q := by
  intro s hs
  have hindexed := hs.sound.indexed
  cases hr : s.table.get? id with
  | none =>
    have hremove := RegistrationTable.remove_of_none hr
    refine ⟨clear, ⟨rfl, .aside clear_ne_numbered (untouched_of_table ?_)⟩, ?_⟩
    · simp only [hremove]
    · simpa only [Flow.Keeps, hremove] using hnone
  | some r =>
    have howing : removed topic id s =
        owing topic (RegistrationTable.unlisten id r.topics s.table.listening).1 := by
      have horphaned : (listenersOn topic s ≠ [] ∧ (listenersOn topic s).filter (· ≠ id) = []) ↔
          topic ∈ (RegistrationTable.unlisten id r.topics s.table.listening).1 := by
        rw [RegistrationTable.mem_orphaned hindexed.filled]
        refine ⟨fun h => ⟨?_, h⟩, And.right⟩
        -- what the removal emptied listed the registration, so this listened
        have hid : id ∈ listenersOn topic s := by
          obtain ⟨k, hk⟩ := List.exists_mem_of_ne_nil _ h.1
          have hnot := List.filter_eq_nil_iff.1 h.2 k hk
          obtain rfl : k = id := by simpa using hnot
          exact hk
        obtain ⟨r', hr', ht⟩ := hindexed.mem_iff.1 hid
        exact Option.some.inj (hr.symm.trans hr') ▸ ht
      simp only [removed, owing, horphaned]
    refine ⟨removed topic id s, ⟨rfl, .remove rfl⟩, ?_⟩
    simp only [RegistrationTable.remove_fst hr]
    rw [howing]
    exact hsome r _ (RegistrationTable.nodup_orphaned hindexed.filled id r.topics)

theorem staged_detach {id : RegistrationId} {Q : Option (Registration × List String) → Stage → Prop}
    (hnone : Q none clear)
    (hsome : ∀ r orphaned, orphaned.Nodup → Q (some (r, orphaned)) (owing topic orphaned)) :
    (detach id).Keeps (Stage.protocol topic) clear Q := by
  refine Flow.keeps_bind.2 (staged_removeEntry hnone ?_)
  intro r orphaned hnodup
  have hstill := owing_ne_numbered topic orphaned
  refine Flow.keeps_bind.2 (staged_exchange hstill (fun _ => rfl) (fun _ => rfl) ?_)
  intro armed
  have hend := hsome r orphaned hnodup
  cases armed with
  | false => exact hend
  | true => exact Flow.keeps_bind.2 (staged_ask hstill rfl fun _ => hend)

theorem staged_unregister {id : RegistrationId} {Q : Bool → Stage → Prop}
    (h : ∀ found, Q found clear) :
    (unregister id).Keeps (Stage.protocol topic) clear Q := by
  refine Flow.keeps_bind.2 (staged_detach (h false) ?_)
  intro r orphaned hnodup
  exact Flow.keeps_bind.2 (staged_unsubscribeAll hnodup (h true))

theorem staged_unregisterAll (ids : List RegistrationId) {Q : Nat → Stage → Prop}
    (h : ∀ count, Q count clear) : (unregisterAll ids).Keeps (Stage.protocol topic) clear Q := by
  induction ids generalizing Q with
  | nil => exact h 0
  | cons id rest ih =>
    refine Flow.keeps_bind.2 (staged_unregister fun found => ?_)
    exact Flow.keeps_bind.2 (ih fun count => h _)

theorem staged_unregisterProgram (program : String) {Q : Nat → Stage → Prop}
    (h : ∀ count, Q count clear) :
    (unregisterProgram program).Keeps (Stage.protocol topic) clear Q :=
  Flow.keeps_bind.2 (staged_look clear_ne_numbered fun _ _ => staged_unregisterAll _ h)

theorem staged_dropAnnotations (driver : Option DriverId) (device : Option DeviceId)
    {Q : Nat → Stage → Prop} (h : ∀ count, Q count clear) :
    (dropAnnotations driver device).Keeps (Stage.protocol topic) clear Q := by
  refine Flow.keeps_bind.2 (staged_change clear_ne_numbered (fun _ => rfl) (fun _ => rfl) ?_)
  exact Flow.keeps_bind.2 (staged_look clear_ne_numbered fun _ _ => staged_unregisterAll _ h)

/-! ### Registering -/

/-- Where a call may stand that has subscribed to some of its fresh topics and has others before it. -/
inductive Due (topic : String) (id : RegistrationId) (subscribed topics : List String) : Stage → Prop
  | joining (before : topic ∈ topics) (not_yet : topic ∉ subscribed) :
    Due topic id subscribed topics (joining id)
  | first (not_before : topic ∉ topics) (done : topic ∈ subscribed) :
    Due topic id subscribed topics (first id)
  | later (not_before : topic ∉ topics) (not_done : topic ∉ subscribed) :
    Due topic id subscribed topics (later id)
  | outside (not_before : topic ∉ topics) (not_done : topic ∉ subscribed) :
    Due topic id subscribed topics (outside id)

namespace Due

variable {id : RegistrationId} {subscribed topics rest : List String} {t : String}

theorem holder (h : Due topic id subscribed topics g) : g.holder = some id := by
  cases h <;> rfl

theorem still (h : Due topic id subscribed topics g) (k : RegistrationId) : g ≠ numbered k := by
  cases h <;> nofun

theorem other (h : Due topic id subscribed (t :: rest) g) (ht : t ≠ topic) :
    Due topic id (subscribed ++ [t]) rest g := by
  cases h with
  | joining before not_yet =>
    refine .joining ?_ (by simp [not_yet, Ne.symm ht])
    exact (List.mem_cons.1 before).resolve_left (Ne.symm ht)
  | first not_before done =>
    exact .first (fun h => not_before (List.mem_cons_of_mem _ h)) (List.mem_append_left _ done)
  | later not_before not_done =>
    exact .later (fun h => not_before (List.mem_cons_of_mem _ h)) (by simp [not_done, Ne.symm ht])
  | outside not_before not_done =>
    exact .outside (fun h => not_before (List.mem_cons_of_mem _ h)) (by simp [not_done, Ne.symm ht])

theorem eq_joining (h : Due topic id subscribed (topic :: rest) g) : g = Stage.joining id := by
  cases h with
  | joining => rfl
  | first not_before | later not_before | outside not_before =>
    exact absurd List.mem_cons_self not_before

theorem settled_eq (h : Due topic id subscribed [] g) : g.settled = clear := by
  cases h with
  | joining before => cases before
  | _ => rfl

theorem rolledBack_eq (h : Due topic id subscribed topics g) {orphaned : List String}
    (horphaned : g = Stage.first id → topic ∈ orphaned) :
    g.rolledBack = owing topic (orphaned.filter (· ∈ subscribed)) := by
  cases h with
  | first not_before done =>
    have hmem : topic ∈ orphaned.filter (· ∈ subscribed) := by simp [horphaned rfl, done]
    exact (if_pos hmem).symm
  | joining _ not_done | later _ not_done | outside _ not_done =>
    have hnot : topic ∉ orphaned.filter (· ∈ subscribed) := by simp [not_done]
    exact (if_neg hnot).symm

end Due

/-- Removing a registration again. It is still there if it listens on the topic. -/
theorem staged_rollBack {id : RegistrationId}
    {Q : Option (Registration × List String) → Stage → Prop}
    (holder : g.holder = some id) (hnone : Q none clear)
    (hsome : ∀ r orphaned, orphaned.Nodup → (g = first id → topic ∈ orphaned) →
      Q (some (r, orphaned)) g.rolledBack) :
    (removeEntry id).Keeps (Stage.protocol topic) g Q := by
  intro s hs
  have hindexed := hs.sound.indexed
  cases hr : s.table.get? id with
  | none =>
    have hremove := RegistrationTable.remove_of_none hr
    have habsent : id ∉ listenersOn topic s := by
      rw [hs.sound.mem_listenersOn, hr]
      simp
    have hsettled : g.settled = clear := by
      have hsees := hs.sees
      cases g with
      | joining k | first k | later k =>
        obtain rfl : k = id := Option.some.inj holder
        exact absurd hsees habsent
      | outside => rfl
      | _ => cases holder
    have hstill : ∀ k, g ≠ numbered k := by
      rintro k rfl
      cases holder
    refine ⟨clear, ⟨rfl, ?_⟩, ?_⟩
    · rw [← hsettled]
      refine .settle (.aside hstill (untouched_of_table ?_))
      simp only [hremove]
    · simpa only [Flow.Keeps, hremove] using hnone
  | some r =>
    refine ⟨g.rolledBack, ⟨rfl, .rollBack holder rfl⟩, ?_⟩
    simp only [RegistrationTable.remove_fst hr]
    refine hsome r _ (RegistrationTable.nodup_orphaned hindexed.filled id r.topics) ?_
    intro hfirst
    have honly : RegistrationTable.idsOn topic s.table.listening = [id] := hs.alone id hfirst
    rw [RegistrationTable.mem_orphaned hindexed.filled, honly]
    have hid : id ∈ listenersOn topic s := by simp [listenersOn, honly]
    obtain ⟨r', hr', ht⟩ := hindexed.mem_iff.1 hid
    exact ⟨Option.some.inj (hr.symm.trans hr') ▸ ht, by simp, by simp⟩

theorem staged_subscribeAll {id : RegistrationId} {subscribed topics : List String}
    (hnodup : topics.Nodup) (hne : topics ≠ []) (hg : Due topic id subscribed topics g)
    {Q : Except DispatchError Unit → Stage → Prop} (h : ∀ x, Q x clear) :
    (subscribeAll id subscribed topics).Keeps (Stage.protocol topic) g Q := by
  induction topics generalizing subscribed g with
  | nil => exact absurd rfl hne
  | cons t rest ih =>
    obtain ⟨ht, hrest⟩ := List.nodup_cons.1 hnodup
    -- after a subscription, the call goes on with the rest or is done
    have hgo {s : DispatchState} {act : DispatchAct} {g' : Stage}
        (hbroker : (act.after s).broker = s.broker) (hmove : Stage.Moves topic g s act g')
        (hdue : Due topic id (subscribed ++ [t]) rest g') :
        ∃ g', (Stage.protocol topic).moves g s act g' ∧
          (subscribeAll id (subscribed ++ [t]) rest).Keeps (Stage.protocol topic) g' Q := by
      cases rest with
      | nil => exact ⟨clear, ⟨hbroker, hdue.settled_eq ▸ .settle hmove⟩, h _⟩
      | cons u rest => exact ⟨g', ⟨hbroker, hmove⟩, ih hrest (List.cons_ne_nil _ _) hdue⟩
    have huntouched (s : DispatchState) (b : Except String Unit) (htopic : t ≠ topic) :
        touches topic s (.asked (.subscribe t) b) = false := by
      simp [touches, DispatchService.isAbout, htopic]
    intro s b _ _
    rcases b with reason | ⟨⟩
    · have hmove : Stage.Moves topic g s (.asked (.subscribe t) (.error reason)) g := by
        by_cases htopic : t = topic
        · subst htopic
          obtain rfl := hg.eq_joining
          exact .refused
        · exact .aside hg.still (huntouched _ _ htopic)
      refine ⟨g, ⟨rfl, hmove⟩, ?_⟩
      dsimp only [Flow.bind]
      refine Flow.keeps_bind.2 (staged_rollBack hg.holder (h _) ?_)
      intro r orphaned hnodup horphaned
      rw [hg.rolledBack_eq horphaned]
      exact Flow.keeps_bind.2 (staged_unsubscribeEach _ (hnodup.filter _) (h _))
    · by_cases htopic : t = topic
      · subst htopic
        obtain rfl := hg.eq_joining
        exact hgo rfl .granted (.first ht (by simp))
      · exact hgo rfl (.aside hg.still (huntouched _ _ htopic)) (hg.other htopic)

theorem staged_insertEntry {r : Registration} {Q : List String → Stage → Prop} (hdone : Q [] clear)
    (hdue : ∀ fresh g, fresh.Nodup → fresh ≠ [] → Due topic r.id [] fresh g → Q fresh g) :
    (insertEntry r).Keeps (Stage.protocol topic) (numbered r.id) Q := by
  intro s _
  have hmove : Stage.Moves topic (numbered r.id) s
      (.accessed fun s => { s with table := (s.table.insert r).2 }) (Stage.entered topic r s) :=
    .enter rfl
  have hmem : topic ∈ (s.table.insert r).1 ↔ topic ∈ r.topics ∧ listenersOn topic s = [] := by
    rw [RegistrationTable.insert_fst, RegistrationTable.mem_fresh, listenersOn]
  have hnodup : (s.table.insert r).1.Nodup := by
    rw [RegistrationTable.insert_fst]
    exact RegistrationTable.nodup_fresh r.id r.topics s.table.listening
  have hstage : Due topic r.id [] (s.table.insert r).1 (Stage.entered topic r s) := by
    unfold Stage.entered
    split
    · next ht =>
      split
      · next hnil => exact .joining (hmem.2 ⟨ht, hnil⟩) List.not_mem_nil
      · next hnil => exact .later (fun h => hnil (hmem.1 h).2) List.not_mem_nil
    · next ht => exact .outside (fun h => ht (hmem.1 h).1) List.not_mem_nil
  by_cases hfresh : (s.table.insert r).1 = []
  · refine ⟨clear, ⟨rfl, ?_⟩, ?_⟩
    · rw [hfresh] at hstage
      exact hstage.settled_eq ▸ .settle hmove
    · simpa only [Flow.Keeps, hfresh] using hdone
  · exact ⟨_, ⟨rfl, hmove⟩, hdue _ _ hnodup hfresh hstage⟩

theorem staged_takeId {Q : RegistrationId → Stage → Prop} (h : ∀ id, Q id (numbered id)) :
    takeId.Keeps (Stage.protocol topic) clear Q :=
  fun s _ => ⟨_, ⟨rfl, .draw rfl rfl⟩, h s.nextId⟩

theorem staged_armTimer (id : RegistrationId) (trigger : Trigger) {Q : Unit → Stage → Prop}
    (h : Q () clear) : (armTimer id trigger).Keeps (Stage.protocol topic) clear Q := by
  unfold armTimer
  split
  · refine Flow.keeps_bind.2 (staged_ask clear_ne_numbered rfl fun now => ?_)
    refine Flow.keeps_bind.2 (staged_ask clear_ne_numbered rfl fun _ => ?_)
    exact staged_change clear_ne_numbered (fun _ => rfl) (fun _ => rfl) h
  · exact h

theorem staged_checkReady (trigger : Trigger) {Q : Except DispatchError Unit → Stage → Prop}
    (h : ∀ x, Q x clear) :
    (DispatchAttempt.checkReady trigger).run.Keeps (Stage.protocol topic) clear Q := by
  unfold DispatchAttempt.checkReady
  split
  · refine Attempt.keeps_bind.2 (Attempt.keeps_lift.2 (staged_look clear_ne_numbered fun s _ => ?_))
    dsimp only
    split <;> exact h _
  · refine Attempt.keeps_bind.2 (Attempt.keeps_lift.2 (staged_look clear_ne_numbered fun s _ => ?_))
    dsimp only
    split <;> exact h _
  · exact h _

theorem staged_enter (request : RegisterRequest)
    {Q : Except DispatchError RegistrationId → Stage → Prop} (h : ∀ x, Q x clear) :
    (DispatchAttempt.enter request).run.Keeps (Stage.protocol topic) clear Q := by
  refine Attempt.keeps_bind.2 (Attempt.keeps_some (h _) fun trigger _ => ?_)
  refine Attempt.keeps_bind.2 (staged_checkReady trigger ?_)
  intro ready
  rcases ready with e | ⟨⟩
  · exact h _
  refine Attempt.keeps_bind.2 (Attempt.keeps_lift.2 (staged_look clear_ne_numbered fun s _ => ?_))
  refine Attempt.keeps_bind.2 (Attempt.keeps_lift.2 (staged_takeId fun id => ?_))
  have hplaced : (do
      Dispatching.armTimer id trigger
      let _ ← Dispatching.unregisterAll (s.table.replacedBy { request with trigger })
      Dispatching.info ("[" ++ Digits.natText id ++ "] Registered `" ++ request.function.name ++
        "` of `" ++ request.program ++ "`")
      return id : DispatchAttempt RegistrationId).run.Keeps (Stage.protocol topic) clear Q := by
    refine Attempt.keeps_bind.2 (Attempt.keeps_lift.2 (staged_armTimer id trigger ?_))
    refine Attempt.keeps_bind.2 (Attempt.keeps_lift.2 (staged_unregisterAll _ fun count => ?_))
    exact Attempt.keeps_bind.2 (Attempt.keeps_lift.2 (staged_ask clear_ne_numbered rfl fun _ => h _))
  refine Attempt.keeps_bind.2 (Attempt.keeps_lift.2 (staged_insertEntry ?_ ?_))
  · exact Attempt.keeps_bind.2 hplaced
  · intro fresh g hnodup hne hdue
    refine Attempt.keeps_bind.2 (Flow.keeps_bind.2 (staged_subscribeAll hnodup hne hdue ?_))
    intro x
    rcases x with e | ⟨⟩
    · exact h _
    · exact hplaced

theorem staged_register (request : RegisterRequest)
    {Q : Except DispatchError RegistrationId → Stage → Prop} (h : ∀ x, Q x clear) :
    (register request).Keeps (Stage.protocol topic) clear Q := by
  refine Flow.keeps_bind.2 (staged_enter request ?_)
  intro x
  rcases x with e | id
  · dsimp only
    split
    · refine Flow.keeps_bind.2 (staged_ask clear_ne_numbered rfl fun _ => ?_)
      exact Flow.keeps_bind.2 (staged_change clear_ne_numbered (fun _ => rfl) (fun _ => rfl) (h _))
    · exact h _
  · exact h _

end Dispatching

namespace DispatchCall

/-- The calls that enter registrations and take them back. -/
def isEvent : DispatchCall → Bool
  | event _ => true
  | _ => false

/-- A call that enters registrations or takes them back has nothing left to do for a topic at its
end. -/
theorem staged_flow (topic : String) {call : DispatchCall} (h : call.isEvent = false) :
    call.flow.Keeps (Stage.protocol topic) .clear fun _ g => g = .clear := by
  cases call with
  | register request => exact Dispatching.staged_register request fun _ => rfl
  | unregister id => exact Dispatching.staged_unregister fun _ => rfl
  | unregisterProgram program => exact Dispatching.staged_unregisterProgram program fun _ => rfl
  | dropAnnotations driver device =>
    exact Dispatching.staged_dropAnnotations driver device fun _ => rfl
  | event e => cases h

end DispatchCall

end DriverHub
