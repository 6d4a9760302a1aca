import DriverHub.Proofs.Flow.Order
import DriverHub.Proofs.Hub.Deeds
import DriverHub.Proofs.Hub.Overtaken

/-! Drivers and devices that come and go while drivers are called. Each operation looks first, then
writes to the records and then to memory, and others may come in between. When all have ended, the
records and the memory hold the same drivers and devices, every device has its driver, and nothing was
created twice, unless two operations have crossed in one of the few ways that are told here. -/

namespace DriverHub

open CallStep HubDeed Flow

/-- Creations, deletions and calls, in any order of turns. -/
def Operation.managing (host : Host) :
    Setting services LiveState Records fun _ : Operation => Except HubError Unit where
  answers := host.Answers
  flow op := op.work.run
  admits := Operation.Manages
  permits _ _ := True

instance (host : Host) (p : HubSession) (t : HubTurn) :
    Decidable ((Operation.managing host).permits p t) :=
  inferInstanceAs (Decidable True)

namespace HubSession

/-! ### How operations cross -/

/-- How a driver or device can be in memory that is not recorded. After it was set there nobody has
taken it out. -/
inductive Leftover (p : HubSession) (c : ConfigTarget) : Prop
  /-- What a creation had recorded was deleted and taken out before the creation set it. -/
  | creation {i j put delete remove set} (order : put < delete ∧ delete < remove ∧ remove < set)
      (recorded : Did p.turns i put (Puts c)) (deleted : Did p.turns j delete (Deletes c))
      (removed : Did p.turns j remove (TakesOut c)) (kept : Did p.turns i set (Sets c))
      (stays : ∀ m, set < m → ¬ At p.turns m (TakesOut c))
  /-- What a call had found in memory was deleted and taken out before the call kept what its run left
  behind. -/
  | call {i j op x find delete remove set} (caller : p.callers[i]? = some ⟨op, x⟩) (call : op.IsCall)
      (order : find < remove ∧ delete < remove ∧ remove < set)
      (found : Did p.turns i find (Sees c)) (deleted : Did p.turns j delete (Deletes c))
      (removed : Did p.turns j remove (TakesOut c)) (kept : Did p.turns i set (Sets c))
      (stays : ∀ m, set < m → ¬ At p.turns m (TakesOut c))

/-- How a driver or device can be recorded that is not in memory: after a deletion had deleted it, it
was recorded and set again before the deletion took it out, and nobody has deleted it since. -/
inductive Dropped (p : HubSession) (c : ConfigTarget) : Prop
  | intro {i j delete put set remove} (order : delete < put ∧ put < set ∧ set < remove)
      (deleted : Did p.turns j delete (Deletes c)) (recorded : Did p.turns i put (Puts c))
      (kept : Did p.turns i set (Sets c)) (removed : Did p.turns j remove (TakesOut c))
      (stays : ∀ m, put < m → ¬ At p.turns m (Deletes c))

/-- How a device can be recorded without its driver: the driver was deleted by one who had looked for
its devices before this one was recorded, and this one was recorded by one who had looked for the
driver before it was deleted, and is as it was recorded since. -/
inductive Stranded (p : HubSession) (k : DeviceId) (e : DriverId) : Prop
  | intro {i j look find delete put}
      (order : look < delete ∧ look < put ∧ find < delete ∧ find < put)
      (spared : Did p.turns j look (Spares e)) (found : Did p.turns i find (FindsDriver e))
      (deleted : Did p.turns j delete (Deletes (.driver e))) (recorded : Did p.turns i put (Gives k e))
      (stays : ∀ m, put < m → ¬ At p.turns m (Alters (.device k)))

/-- The caller at a place was asked to create this and has succeeded. -/
def Creates (p : HubSession) (c : ConfigTarget) (i : Nat) : Prop :=
  ∃ op, p.callers[i]? = some ⟨op, .done (.ok ())⟩ ∧ op.creates? = some c

/-- What one caller had recorded was deleted before another recorded it again. -/
inductive Renewed (p : HubSession) (c : ConfigTarget) (i j : Nat) : Prop
  | intro {k put delete again} (order : put < delete ∧ delete < again)
      (recorded : Did p.turns i put (Puts c)) (deleted : Did p.turns k delete (Deletes c))
      (renewed : Did p.turns j again (Puts c))

/-- What one caller had recorded was recorded again by another, who had looked for it before and found
nothing. -/
inductive Doubled (p : HubSession) (c : ConfigTarget) (i j : Nat) : Prop
  | intro {look put again} (order : look < put ∧ put < again)
      (missed : Did p.turns j look (Misses c)) (recorded : Did p.turns i put (Puts c))
      (repeated : Did p.turns j again (Puts c))

section

variable {host : Host} {l : LiveState} {p : HubSession} {c : ConfigTarget} {k : DeviceId}
  {e : DriverId} {i n : Nat} {t : HubTurn}

/-! ### What was done before and after -/

variable (h : (Operation.managing host).Leads l {} p) (hrest : p.AtRest)

include h hrest

theorem exists_role (ht : p.turns[n]? = some t) :
    ∃ op x, p.callers[t.caller]? = some ⟨op, .done x⟩ ∧
      op.Role (deeds (p.turns.take n) t.caller) t.deed (deeds (p.turns.drop (n + 1)) t.caller) := by
  have hc := List.getElem?_eq_getElem (h.caller_lt t (List.mem_of_getElem? ht))
  have hmem := List.mem_of_getElem? hc
  obtain ⟨op, x, hdone⟩ := Caller.exists_done (hrest _ hmem)
  rw [hdone] at hc
  have hmanages : op.Manages := by
    have hadmitted : Operation.Manages (Caller.call _) := h.admitted _ hmem
    rwa [hdone] at hadmitted
  have htold : op.Told x (deeds p.turns t.caller) := h.told hc (Operation.does_work hmanages)
  exact ⟨op, x, hc, htold.role (deeds_at ht)⟩

theorem did_puts (hd : Did p.turns i n (Puts c)) :
    (∃ m < n, Did p.turns i m (Misses c)) ∧ (∃ m, n < m ∧ Did p.turns i m (Sets c)) ∧
      ∀ k e, Did p.turns i n (Gives k e) → ∃ m < n, Did p.turns i m (FindsDriver e) := by
  obtain ⟨t, ht, rfl, hputs⟩ := hd
  obtain ⟨op, x, -, hrole⟩ := exists_role h hrest ht
  obtain ⟨-, ⟨d, hd, hmisses⟩, ⟨d', hd', hsets⟩, hfound⟩ := hrole.of_puts hputs
  refine ⟨exists_did_before hd hmisses, exists_did_after hd' hsets, ?_⟩
  rintro k e ⟨t', ht', -, hgives⟩
  obtain rfl := Option.some.inj (ht.symm.trans ht')
  obtain ⟨f, hf, hfinds⟩ := hfound k e hgives
  exact exists_did_before hf hfinds

theorem did_deletes (hd : Did p.turns i n (Deletes c)) :
    (∃ m, n < m ∧ Did p.turns i m (TakesOut c)) ∧
      ∀ e, c = .driver e → ∃ m < n, Did p.turns i m (Spares e) := by
  obtain ⟨t, ht, rfl, hdeletes⟩ := hd
  obtain ⟨op, x, -, hrole⟩ := exists_role h hrest ht
  obtain ⟨-, ⟨d, hd, htakes⟩, hspared⟩ := hrole.of_deletes hdeletes
  refine ⟨exists_did_after hd htakes, fun e hc => ?_⟩
  obtain ⟨f, hf, hspares⟩ := hspared e hc
  exact exists_did_before hf hspares

theorem did_sets (hd : Did p.turns i n (Sets c)) :
    (∃ m < n, Did p.turns i m (Puts c)) ∨
      (∃ op x, p.callers[i]? = some ⟨op, x⟩ ∧ op.IsCall) ∧ ∃ m < n, Did p.turns i m (Sees c) := by
  obtain ⟨t, ht, rfl, hsets⟩ := hd
  obtain ⟨op, x, hc, hrole⟩ := exists_role h hrest ht
  rcases hrole.of_sets hsets with ⟨-, d, hd, hputs⟩ | ⟨hcall, d, hd, hsees⟩
  · exact .inl (exists_did_before hd hputs)
  · exact .inr ⟨⟨op, _, hc, hcall⟩, exists_did_before hd hsees⟩

theorem did_takesOut (hd : Did p.turns i n (TakesOut c)) : ∃ m < n, Did p.turns i m (Deletes c) := by
  obtain ⟨t, ht, rfl, htakes⟩ := hd
  obtain ⟨op, x, -, hrole⟩ := exists_role h hrest ht
  obtain ⟨-, d, hd, hdeletes⟩ := hrole.of_takesOut htakes
  exact exists_did_before hd hdeletes

theorem places (ht : t ∈ p.turns) : HubAct.Places t.act := by
  obtain ⟨n, hn⟩ := List.mem_iff_getElem?.1 ht
  obtain ⟨op, x, -, hrole⟩ := exists_role h hrest hn
  exact hrole.places

/-! ### What is there -/

theorem not_takesOut_of_sets (c : ConfigTarget) (ht : t ∈ p.turns) (hd : Sets c t.deed) :
    ¬ TakesOut c t.deed := by
  have hstays : takesOut c t.act = false := (places h hrest ht).takesOut hd
  exact fun htakes => absurd (hstays.symm.trans htakes) nofun

theorem value?_turn (c : ConfigTarget) (ht : t ∈ p.turns) :
    t.after.singletons.value? c ≠ none ↔
      Sets c t.deed ∨ t.state.singletons.value? c ≠ none ∧ ¬ TakesOut c t.deed := by
  have hplaces := places h hrest ht c t.state
  rwa [← Bool.not_eq_true] at hplaces

theorem value?_iff (hl : l.singletons = {}) (c : ConfigTarget) :
    p.state.singletons.value? c ≠ none ↔ Lasts p.turns (Sets c) (TakesOut c) p.turns.length := by
  refine h.lasts (fun s _ => s.singletons.value? c ≠ none) (Sets c) (TakesOut c) ?_
    fun t ht _ _ _ => value?_turn h hrest c ht
  rw [hl]
  cases c <;> simp [Singletons.value?]

theorem lasts_of_sees (hl : l.singletons = {}) (hd : Did p.turns i n (Sees c)) :
    Lasts p.turns (Sets c) (TakesOut c) n := by
  obtain ⟨t, ht, -, hsees⟩ := hd
  have hfirst : ¬ l.singletons.value? c ≠ none := by
    rw [hl]
    cases c <;> simp [Singletons.value?]
  obtain ⟨-, -, -, hiff⟩ := h.lasts_at (fun s _ => s.singletons.value? c ≠ none) (Sets c) (TakesOut c)
    hfirst (fun t ht _ _ _ => value?_turn h hrest c ht) ht
  exact hiff.1 hsees.2

omit hrest

theorem holds_iff_lasts (c : ConfigTarget) :
    p.surroundings.Holds c ↔ Lasts p.turns (Puts c) (Deletes c) p.turns.length := by
  refine h.lasts (fun _ w => w.Holds c) (Puts c) (Deletes c) ?_ fun t _ w w' hw => holds_iff hw c
  cases c <;> simp [Records.Holds, Records.saved?]

theorem exists_holds_at (ht : p.turns[n]? = some t) (c : ConfigTarget) :
    ∃ w w', t.act.Answered host.Answers w w' ∧
      (w.Holds c ↔ Lasts p.turns (Puts c) (Deletes c) n) := by
  refine h.lasts_at (fun _ w => w.Holds c) (Puts c) (Deletes c) ?_
    (fun t _ w w' hw => holds_iff hw c) ht
  cases c <;> simp [Records.Holds, Records.saved?]

theorem not_lasts_of_misses (hd : Did p.turns i n (Misses c)) :
    ¬ Lasts p.turns (Puts c) (Deletes c) n := by
  obtain ⟨t, ht, -, hmisses⟩ := hd
  obtain ⟨w, w', hw, hiff⟩ := exists_holds_at h ht c
  exact fun hlasts => not_holds_of_misses hw hmisses (hiff.2 hlasts)

theorem lasts_of_findsDriver (hd : Did p.turns i n (FindsDriver e)) :
    Lasts p.turns (Puts (.driver e)) (Deletes (.driver e)) n := by
  obtain ⟨t, ht, -, hfinds⟩ := hd
  obtain ⟨w, w', hw, hiff⟩ := exists_holds_at h ht (.driver e)
  exact hiff.1 (holds_of_findsDriver hw hfinds)

/-- A device is of a driver if it was put into the records as one of it, and neither put there again
nor deleted since. -/
theorem owner?_iff_lasts (k : DeviceId) (e : DriverId) :
    p.surroundings.owner? k = some e ↔ 
      Lasts p.turns (Gives k e) (Alters (.device k)) p.turns.length :=
  h.lasts (fun _ w => w.owner? k = some e) (Gives k e) (Alters (.device k)) nofun
    fun _ _ _ _ hw => owner?_iff hw k e

theorem not_lasts_of_spares (hd : Did p.turns i n (Spares e)) (k : DeviceId) :
    ¬ Lasts p.turns (Gives k e) (Alters (.device k)) n := by
  obtain ⟨t, ht, -, hspares⟩ := hd
  obtain ⟨w, w', hw, hiff⟩ := h.lasts_at (fun _ w => w.owner? k = some e) (Gives k e)
    (Alters (.device k)) nofun
    (fun _ _ _ _ hw => owner?_iff hw k e) ht
  exact fun hlasts => owner?_ne_of_spares hw hspares (hiff.2 hlasts)

/-! ### At rest -/

include hrest

/-- A driver or device in memory is recorded, unless one of the two crossings has left it there. -/
theorem leftover_of_value? (hl : l.singletons = {}) (hthere : p.state.singletons.value? c ≠ none)
    (hgone : ¬ p.surroundings.Holds c) : p.Leftover c := by
  rw [holds_iff_lasts h] at hgone
  obtain ⟨set, -, hset, hstays, hfirst⟩ :=
    ((value?_iff h hrest hl c).1 hthere).first fun t ht => not_takesOut_of_sets h hrest c ht
  have hstays := not_at_after hstays
  obtain ⟨i, hset⟩ := hset.did
  rcases did_sets h hrest hset with
    ⟨put, hput_set, hput⟩ | ⟨⟨op, x, hcaller, hcall⟩, find, hfind_set, hfind⟩
  · obtain ⟨delete, hput_delete, -, hdelete⟩ := Lasts.lost_after hput.at hput.at.lt hgone
    obtain ⟨j, hdelete⟩ := hdelete.did
    obtain ⟨⟨remove, hdelete_remove, hremove⟩, -⟩ := did_deletes h hrest hdelete
    have hne : set ≠ remove :=
      hset.at.ne hremove.at fun t ht => not_takesOut_of_sets h hrest c ht
    have hle : remove ≤ set := Nat.le_of_not_lt fun hlt => hstays remove hlt hremove.at
    exact .creation ⟨hput_delete, hdelete_remove, by omega⟩ hput hdelete hremove hset hstays
  · -- the call has found an entry that is gone when it sets its own, since that is the first
    obtain ⟨remove, hfind_remove, hremove_set, hremove⟩ :=
      (lasts_of_sees h hrest hl hfind).lost (Nat.le_of_lt hfind_set) hfirst
    have hne : find ≠ remove := hfind.at.ne hremove fun _ _ hsees =>
      not_takesOut_of_silent (silent_of_sees hsees)
    obtain ⟨j, hremove⟩ := hremove.did
    obtain ⟨delete, hdelete_remove, hdelete⟩ := did_takesOut h hrest hremove
    exact .call hcaller hcall ⟨by omega, hdelete_remove, hremove_set⟩ hfind hdelete hremove hset
      hstays

/-- A recorded driver or device is in memory, unless a crossing has dropped it. -/
theorem dropped_of_holds (hl : l.singletons = {}) (hholds : p.surroundings.Holds c)
    (hgone : p.state.singletons.value? c = none) : p.Dropped c := by
  obtain ⟨put, -, hput, hstays⟩ := (holds_iff_lasts h c).1 hholds
  have hstays := not_at_after hstays
  have hgone : ¬ Lasts p.turns (Sets c) (TakesOut c) p.turns.length := fun hlasts =>
    (value?_iff h hrest hl c).2 hlasts hgone
  obtain ⟨i, hput⟩ := hput.did
  obtain ⟨-, ⟨set, hput_set, hset⟩, -⟩ := did_puts h hrest hput
  obtain ⟨remove, hset_remove, -, hremove⟩ := Lasts.lost_after hset.at hset.at.lt hgone
  obtain ⟨j, hremove⟩ := hremove.did
  obtain ⟨delete, hdelete_remove, hdelete⟩ := did_takesOut h hrest hremove
  have hle : delete ≤ put := Nat.le_of_not_lt fun hlt => hstays delete hlt hdelete.at
  have hne : put ≠ delete := hput.at.ne hdelete.at fun _ _ => not_deletes_of_puts
  exact .intro ⟨by omega, hput_set, hset_remove⟩ hdelete hput hset hremove hstays

/-- The driver of a recorded device is recorded, unless a crossing has stranded the device. -/
theorem stranded_of_owner? (howner : p.surroundings.owner? k = some e)
    (hgone : ¬ p.surroundings.Holds (.driver e)) : p.Stranded k e := by
  rw [holds_iff_lasts h] at hgone
  obtain ⟨put, -, hgives, hstays⟩ := (owner?_iff_lasts h k e).1 howner
  have hstays := not_at_after hstays
  obtain ⟨i, hgives⟩ := hgives.did
  have hput : Did p.turns i put (Puts (.device k)) := hgives.mono puts_of_gives
  obtain ⟨find, hfind_put, hfind⟩ := (did_puts h hrest hput).2.2 k e hgives
  obtain ⟨delete, hfind_delete, -, hdelete⟩ :=
    (lasts_of_findsDriver h hfind).lost (Nat.le_of_lt hfind.at.lt) hgone
  have hne : find ≠ delete := hfind.at.ne hdelete fun _ _ hfinds =>
    not_deletes_of_silent (silent_of_findsDriver hfinds)
  obtain ⟨j, hdelete⟩ := hdelete.did
  obtain ⟨look, hlook_delete, hspared⟩ := (did_deletes h hrest hdelete).2 e rfl
  -- after the device was recorded, the look would have found it
  have hle : look ≤ put := Nat.le_of_not_lt fun hlt => not_lasts_of_spares h hspared k
    ⟨put, hlt, hgives.at, fun m hm _ => hstays m hm⟩
  have hne' : look ≠ put := hspared.at.ne hgives.at fun _ _ hspares =>
    not_gives_of_silent (silent_of_spares hspares)
  exact .intro ⟨hlook_delete, by omega, by omega, hfind_put⟩ hspared hfind hdelete hgives hstays

omit hrest

theorem Creates.did_puts (hcreates : p.Creates c i) : ∃ m, Did p.turns i m (Puts c) := by
  obtain ⟨op, hcaller, hc⟩ := hcreates
  have hmanages : op.Manages := h.admitted _ (List.mem_of_getElem? hcaller)
  have htold : op.Told (.ok ()) (deeds p.turns i) :=
    h.told hcaller (Operation.does_work hmanages)
  obtain ⟨d, hd, hputs⟩ := htold.creates hc
  obtain ⟨m, hm⟩ := List.mem_iff_getElem?.1 (mem_deeds.1 hd)
  exact ⟨m, _, hm, rfl, hputs⟩

include hrest

theorem renewed_or_doubled {j m : Nat} (hm : Did p.turns i m (Puts c)) (hn : Did p.turns j n (Puts c))
    (hlt : m < n) : p.Renewed c i j ∨ p.Doubled c i j := by
  obtain ⟨⟨look, hlook, hmissed⟩, -⟩ := did_puts h hrest hn
  have hne : look ≠ m := hmissed.at.ne hm.at fun _ _ hmisses =>
    not_puts_of_silent (silent_of_misses hmisses)
  rcases Nat.lt_or_gt_of_ne hne with hearly | hlate
  · exact .inr (.intro ⟨hearly, hlt⟩ hmissed hm hn)
  · obtain ⟨delete, hm_delete, hdelete_look, hdelete⟩ :=
      Lasts.lost_after hm.at hlate (not_lasts_of_misses h hmissed)
    obtain ⟨k, hdelete⟩ := hdelete.did
    exact .inl (.intro ⟨hm_delete, Nat.lt_trans hdelete_look hlook⟩ hm hdelete hn)

theorem renewed_or_doubled_of_creates {j : Nat} (hij : i ≠ j) (hi : p.Creates c i)
    (hj : p.Creates c j) :
    (p.Renewed c i j ∨ p.Renewed c j i) ∨ p.Doubled c i j ∨ p.Doubled c j i := by
  obtain ⟨m, hm⟩ := hi.did_puts h
  obtain ⟨n, hn⟩ := hj.did_puts h
  have hne : m ≠ n := by
    rintro rfl
    exact hij (hm.caller_eq hn)
  rcases Nat.lt_or_gt_of_ne hne with hlt | hlt
  · exact (renewed_or_doubled h hrest hm hn hlt).imp .inl .inl
  · exact (renewed_or_doubled h hrest hn hm hlt).imp .inr .inr

end

/-- Drivers and devices come and go and are called, from nothing on, in any order of turns. Whenever
all operations have ended, what is in memory is recorded, what is recorded is in memory, the driver of
each device is recorded, and of two that have created the same the one has done so after what the
other had created was deleted; all this unless two operations have crossed in the way that is told
for each. -/
theorem presence_at_rest {host : Host} {l : LiveState} {p : HubSession}
    (h : (Operation.managing host).Leads l {} p) (hl : l.singletons = {}) (hrest : p.AtRest) :
    (∀ c, p.state.singletons.value? c ≠ none → p.surroundings.saved? c ≠ none ∨ p.Leftover c) ∧
      (∀ c, p.surroundings.saved? c ≠ none → p.state.singletons.value? c ≠ none ∨ p.Dropped c) ∧
      (∀ k e, p.surroundings.owner? k = some e →
        p.surroundings.saved? (.driver e) ≠ none ∨ p.Stranded k e) ∧
      ∀ c i j, i ≠ j → p.Creates c i → p.Creates c j →
        (p.Renewed c i j ∨ p.Renewed c j i) ∨ p.Doubled c i j ∨ p.Doubled c j i := by
  refine ⟨fun c hthere => or_iff_not_imp_left.2 fun hgone => ?_,
    fun c hholds => or_iff_not_imp_left.2 fun hgone => ?_,
    fun k e howner => or_iff_not_imp_left.2 fun hgone => ?_, fun c i j hij hi hj => ?_⟩
  · exact leftover_of_value? h hrest hl hthere hgone
  · exact dropped_of_holds h hrest hl hholds (not_not.1 hgone)
  · exact stranded_of_owner? h hrest howner hgone
  · exact renewed_or_doubled_of_creates h hrest hij hi hj

end HubSession

namespace Engine

def hallLamp : DeviceRecord where
  id := "hall"
  name := "Hall"
  room := "entrance"
  driver := lampDriver.id

/-- Nine operations that cross. The driver is created twice at once. The lamp on the desk is deleted
during a call. That in the hall is created by one who has found the driver, while another who has found
no devices of it deletes it, and is deleted and created again. -/
def crossing : HubSession :=
  let setting := Operation.managing lamp.host
  let calls : List Operation :=
    [.createDriver lampDriver, .createDriver lampDriver, .createDevice deskLamp,
      .invoke ⟨lampDriver.id, some "desk"⟩ (dim 5 ⟨7⟩) 0, .deleteDevice "desk",
      .deleteDriver lampDriver.id, .createDevice hallLamp, .deleteDevice "hall",
      .createDevice hallLamp]
  (Flow.Session.opened setting calls {} {}).turnsOf setting lamp.answer
    ([0] ++ List.replicate 7 1 ++ List.replicate 4 0 ++ List.replicate 6 2 ++
      List.replicate 9 3 ++ List.replicate 3 4 ++ List.replicate 4 3 ++
      [5] ++ List.replicate 6 6 ++ [7] ++ List.replicate 6 8 ++ List.replicate 2 7 ++
      List.replicate 4 5)

theorem leads_crossing : (Operation.managing lamp.host).Leads {} {} crossing := by
  refine (Flow.Setting.Leads.opened _ ?_).turnsOf lamp.answers_answer _
  intro op hop
  simp only [List.mem_cons, List.not_mem_nil, or_false] at hop
  rcases hop with rfl | rfl | rfl | rfl | rfl | rfl | rfl | rfl | rfl
  all_goals
    first
    | exact .inl (Option.some_ne_none _)
    | exact .inr (.inl (Option.some_ne_none _))
    | exact .inr (.inr trivial)

theorem rest_crossing : crossing.AtRest := by decide +kernel

theorem desk_crossing : crossing.state.singletons.value? (.device deskLamp.id) ≠ none ∧
    crossing.surroundings.saved? (.device deskLamp.id) = none := by decide +kernel

theorem hall_crossing : crossing.surroundings.saved? (.device hallLamp.id) ≠ none ∧
    crossing.state.singletons.value? (.device hallLamp.id) = none ∧
    crossing.surroundings.owner? hallLamp.id = some lampDriver.id ∧
    crossing.surroundings.saved? (.driver lampDriver.id) = none := by decide +kernel

set_option maxRecDepth 2000 in
theorem driver_crossing : crossing.Creates (.driver lampDriver.id) 0 ∧
    crossing.Creates (.driver lampDriver.id) 1 := ⟨⟨_, rfl, rfl⟩, ⟨_, rfl, rfl⟩⟩

theorem not_renewed_crossing {i j : Nat} : ¬ crossing.Renewed (.driver lampDriver.id) i j := by
  rintro ⟨⟨-, hlt⟩, -, ⟨t, ht, -, hdelete⟩, u, hu, -, hputs⟩
  have horder : crossing.turns.Pairwise fun t u =>
      Deletes (.driver lampDriver.id) t.deed → ¬ Puts (.driver lampDriver.id) u.deed := by
    decide +kernel
  obtain ⟨hm, rfl⟩ := List.getElem?_eq_some_iff.1 ht
  obtain ⟨hn, rfl⟩ := List.getElem?_eq_some_iff.1 hu
  exact List.pairwise_iff_getElem.1 horder _ _ hm hn hlt hdelete hputs

end Engine

namespace HubSession

open Engine

theorem presence_at_rest_lamps :
    crossing.AtRest ∧ crossing.Leftover (.device deskLamp.id) ∧ crossing.Dropped (.device hallLamp.id) ∧
      crossing.Stranded hallLamp.id lampDriver.id ∧
      (crossing.Doubled (.driver lampDriver.id) 0 1 ∨ crossing.Doubled (.driver lampDriver.id) 1 0) := by
  obtain ⟨hleftover, hdropped, hstranded, hcreated⟩ :=
    presence_at_rest leads_crossing rfl rest_crossing
  obtain ⟨hdesk, hdesk'⟩ := desk_crossing
  obtain ⟨hhall, hhall', howner, hdriver⟩ := hall_crossing
  refine ⟨rest_crossing, ?_, ?_, ?_, ?_⟩
  · exact (hleftover _ hdesk).resolve_left fun h => h hdesk'
  · exact (hdropped _ hhall).resolve_left fun h => h hhall'
  · exact (hstranded _ _ howner).resolve_left fun h => h hdriver
  · refine (hcreated _ 0 1 nofun driver_crossing.1 driver_crossing.2).resolve_left ?_
    exact not_or_intro not_renewed_crossing not_renewed_crossing

/-- So a device may be in memory that is not recorded when all operations have ended. -/
theorem presence_at_rest_not_of_records :
    ¬ ∀ (host : Host) (l : LiveState) (p : HubSession),
      (Operation.managing host).Leads l {} p → l.singletons = {} → p.AtRest →
      (∀ c, p.state.singletons.value? c ≠ none ↔ p.surroundings.saved? c ≠ none) ∧
        (∀ k e, p.surroundings.owner? k = some e → p.surroundings.saved? (.driver e) ≠ none) ∧
        ∀ c i j, i ≠ j → p.Creates c i → p.Creates c j → p.Renewed c i j ∨ p.Renewed c j i := by
  intro h
  obtain ⟨hpresent, -, -⟩ := h lamp.host {} crossing leads_crossing rfl rest_crossing
  obtain ⟨hdesk, hdesk'⟩ := desk_crossing
  exact (hpresent _).1 hdesk hdesk'

end HubSession

end DriverHub
