import DriverHub.Proofs.Hub.Calls

/-! Calls that overlap. Each saves before it keeps, but nothing holds the two together: between
them, another call may save and keep singletons of the same driver. So the records and the memory
may end up with the values of different calls, and here it is said exactly when they do. -/

namespace DriverHub

/-- The singleton of a driver or device in memory. -/
def Singletons.value? (s : Singletons) : ConfigTarget → Option Value
  | .driver id => Dict.find? id s.drivers
  | .device id => Dict.find? id s.devices

/-- What the record of a driver or device holds, if there is one. -/
def Records.saved? (r : Records) : ConfigTarget → Option (Option Json)
  | .driver id => (Dict.find? id r.drivers).map (·.singleton)
  | .device id => (Dict.find? id r.devices).map (·.singleton)

theorem Agree.saved? {s : Singletons} {r : Records} (h : Agree s r) (c : ConfigTarget) :
    r.saved? c = (s.value? c).map fun v => some v.toJson := by
  cases c with
  | driver id => exact h.drivers id
  | device id => exact h.devices id

/-- What an operation saves for a driver or device. -/
def RecordOp.saves? (c : ConfigTarget) : RecordOp → Option Json
  | .putSingletons key json other =>
    match c with
    | .driver id => if key = id then some json else none
    | .device id => other.bind fun (key, json) => if key = id then some json else none
  | _ => none

namespace Update

/-- The new singleton of a driver or device, if the update has one. -/
def value? (u : Update) : ConfigTarget → Option Value
  | .driver id => if u.driver = id then some u.value else none
  | .device id => u.device.bind fun (key, w) => if key = id then some w else none

theorem saves?_saving (u : Update) (c : ConfigTarget) :
    u.saving.saves? c = (u.value? c).map Value.toJson := by
  obtain ⟨driver, v, d⟩ := u
  cases c with
  | driver id =>
    simp only [RecordOp.saves?, value?]
    split <;> rfl
  | device id =>
    cases d with
    | none => rfl
    | some d =>
      simp only [RecordOp.saves?, value?, Option.map_some, Option.bind_some]
      split <;> rfl

theorem value?_keep (u : Update) (l : LiveState) (c : ConfigTarget) :
    (u.keep l).singletons.value? c = (u.value? c).or (l.singletons.value? c) := by
  obtain ⟨driver, v, d⟩ := u
  cases c with
  | driver id =>
    simp only [keep, Singletons.value?, value?, Singletons.find?_drivers_commit]
    split <;> rfl
  | device id =>
    cases d with
    | none => rfl
    | some d =>
      obtain ⟨key, w⟩ := d
      simp only [keep, Singletons.value?, value?, Singletons.find?_devices_commit, Option.bind_some]
      split <;> rfl

/-- Saving replaces the singletons of records that exist, and makes no new records. -/
theorem saved?_saving (u : Update) (r : Records) (c : ConfigTarget) :
    (u.saving.apply r).saved? c = (r.saved? c).map fun old => (u.saving.saves? c).or old := by
  obtain ⟨driver, v, d⟩ := u
  cases c with
  | driver id =>
    simp only [RecordOp.apply, Records.saved?, RecordOp.saves?, Records.find?_drivers_putSingletons]
    split
    · rw [Option.map_map, Option.map_map]
      rfl
    · simp only [Option.none_or, Option.map_id_fun', id_eq]
  | device id =>
    cases d with
    | none =>
      change r.saved? (.device id) = (r.saved? (.device id)).map fun old => old
      rw [Option.map_id']
    | some d =>
      simp only [RecordOp.apply, Records.saved?, RecordOp.saves?, Option.map_some, Option.bind_some,
        Records.find?_devices_putSingletons]
      split
      · rw [Option.map_map, Option.map_map]
        rfl
      · simp only [Option.none_or, Option.map_id_fun', id_eq]

end Update

/-! ### Steps -/

section

variable {α : Type} {host : Host} {r r' : Records}

theorem Service.Reads.eq_of_answers {q : Service} (h : q.Reads) {x : q.Answer}
    (hx : host.Answers r q x r') : r' = r := by
  cases q with
  | record op =>
    rcases hx with ⟨-, rfl⟩ | ⟨-, -, -, rfl⟩
    · exact Records.apply_of_isRead h
    · rfl
  | analyze | compile | run => exact hx.2
  | _ => exact hx

/-- The singleton of a driver or device that one step saves. -/
def CallStep.saves? (c : ConfigTarget) : Flow.Act services LiveState → Option Json
  | .asked (.record op) (.ok _) => op.saves? c
  | _ => none

/-- The singleton of a driver or device that one step keeps in memory: what it leaves there if
nothing was there before. -/
def CallStep.keeps? (c : ConfigTarget) : Flow.Act services LiveState → Option Value
  | .accessed update => (update {}).singletons.value? c
  | .asked .. => none

/-- The singleton of a driver or device that a flow keeps in its next step. -/
def CallStep.pending? (c : ConfigTarget) : Flow services LiveState α → Option Value
  | .access update _ => keeps? c (.accessed update)
  | _ => none

open CallStep

theorem Service.Reads.saves?_eq {q : Service} (h : q.Reads) (x : q.Answer) (c : ConfigTarget) :
    saves? c (.asked q x) = none := by
  cases q with
  | record op =>
    cases x with
    | error e => rfl
    | ok x =>
      cases op with
      | driver | drivers | device | devices | script => rfl
      | _ => cases h
  | _ => rfl

theorem keeps?_of_quiet {update : LiveState → LiveState}
    (quiet : ∀ l, (update l).singletons = l.singletons) (c : ConfigTarget) :
    keeps? c (.accessed update) = none := by
  change (update {}).singletons.value? c = none
  rw [quiet]
  cases c <;> rfl

theorem Update.keeps?_keep (u : Update) (c : ConfigTarget) :
    keeps? c (.accessed u.keep) = u.value? c := by
  change (u.keep {}).singletons.value? c = u.value? c
  rw [u.value?_keep]
  cases c <;> exact Option.or_none

theorem Calling.pending?_eq {owed : Option Update} {flow : Flow services LiveState α}
    (h : Calling owed flow) (c : ConfigTarget) : pending? c flow = owed.bind (·.value? c) := by
  cases h with
  | done => rfl
  | access quiet => exact keeps?_of_quiet quiet c
  | ask => rfl
  | save => rfl
  | keep => exact Update.keeps?_keep _ c

/-- What one step of a call does to the singleton of a driver or device. All that is saved or was
owed is now kept or still owed. -/
structure CallStep (c : ConfigTarget) (flow : Flow services LiveState α) (l : LiveState) (r : Records)
    (act : Flow.Act services LiveState) (flow' : Flow services LiveState α) (l' : LiveState)
    (r' : Records) : Prop where
  value : l'.singletons.value? c = (keeps? c act).or (l.singletons.value? c)
  saved : r'.saved? c = (r.saved? c).map fun old => (saves? c act).or old
  balance : (saves? c act).toList ++ (pending? c flow).toList.map Value.toJson =
    ((keeps? c act).toList ++ (pending? c flow').toList).map Value.toJson

theorem Calling.step {owed : Option Update} {flow flow' : Flow services LiveState α} {l l' : LiveState}
    {act : Flow.Act services LiveState} (h : Calling owed flow)
    (hstep : Flow.Step host.Answers flow l r act flow' l' r') :
    (∃ owed', Calling owed' flow') ∧ ∀ c, CallStep c flow l r act flow' l' r' := by
  have hsame : ∀ c, r.saved? c = (r.saved? c).map fun old => old := fun c => by rw [Option.map_id']
  have hpending := h.pending?_eq
  cases h with
  | done => cases hstep
  | access quiet rest =>
    cases hstep
    refine ⟨⟨none, rest l⟩, ?_⟩
    intro c
    have hkeeps := keeps?_of_quiet quiet c
    refine ⟨?_, hsame c, ?_⟩
    · rw [hkeeps, quiet]
      rfl
    · rw [hpending, (rest l).pending?_eq, hkeeps]
      rfl
  | ask reads rest =>
    cases hstep with
    | @ask _ _ _ _ x _ answered =>
    refine ⟨⟨none, rest x⟩, ?_⟩
    intro c
    have hsaves := reads.saves?_eq x c
    obtain rfl := reads.eq_of_answers answered
    refine ⟨rfl, ?_, ?_⟩
    · rw [hsaves]
      exact hsame c
    · rw [hpending, (rest x).pending?_eq, hsaves]
      rfl
  | @save u next saved failed =>
    cases hstep with
    | @ask _ _ _ _ x _ answered =>
    rcases answered with ⟨rfl, rfl⟩ | ⟨e, -, rfl, rfl⟩
    · refine ⟨⟨some u, saved⟩, ?_⟩
      intro c
      refine ⟨rfl, u.saved?_saving r c, ?_⟩
      have hsaves : saves? c (.asked (.record u.saving) (.ok ())) = (u.value? c).map Value.toJson :=
        u.saves?_saving c
      have howed : pending? c (next (.ok ())) = u.value? c := saved.pending?_eq c
      change (saves? c (.asked (.record u.saving) (.ok ()))).toList ++ [] =
        ([] ++ (pending? c (next (.ok ()))).toList).map Value.toJson
      rw [hsaves, howed]
      cases u.value? c <;> rfl
    · refine ⟨⟨none, failed e⟩, ?_⟩
      intro c
      refine ⟨rfl, hsame c, ?_⟩
      rw [hpending, (failed e).pending?_eq]
      rfl
  | @keep u next rest =>
    cases hstep
    refine ⟨⟨none, rest l⟩, ?_⟩
    intro c
    refine ⟨?_, hsame c, ?_⟩
    · rw [u.keeps?_keep, u.value?_keep]
    · rw [hpending, (rest l).pending?_eq, u.keeps?_keep]
      change (u.value? c).toList.map Value.toJson = ((u.value? c).toList ++ []).map Value.toJson
      rw [List.append_nil]

end

/-! ### Runs -/

/-- Calls that start at any time and take turns, and the hub and the records that they work on. -/
abbrev CallPool := Flow.Pool services LiveState Records (Except HubError Unit)

namespace CallPool

/-- All that was saved for a driver or device, in order. -/
def saves (c : ConfigTarget) (p : CallPool) : List Json := p.acts.filterMap (CallStep.saves? c)

/-- All that was kept in memory for a driver or device, in order. -/
def keeps (c : ConfigTarget) (p : CallPool) : List Value := p.acts.filterMap (CallStep.keeps? c)

/-- All that is saved for a driver or device and not yet kept. -/
def pending (c : ConfigTarget) (p : CallPool) : List Value := p.flows.filterMap (CallStep.pending? c)

/-- The pools that calls come to, from a hub and its records. -/
def Overlapping (host : Host) : LiveState → Records → CallPool → Prop :=
  Flow.Interleaved host.Answers fun flow => ∃ op : Operation, op.IsCall ∧ flow = op.work.run

variable {host : Host} {l l' : LiveState} {r r' : Records} {p : CallPool}

/-- The last value that was saved is in the record, the last that was kept is in memory, and what
was saved more than kept is about to be kept. -/
structure Traced (l : LiveState) (r : Records) (p : CallPool) : Prop where
  calling : ∀ flow ∈ p.flows, ∃ owed, Calling owed flow
  value : ∀ c, p.state.singletons.value? c = (p.keeps c).getLast?.or (l.singletons.value? c)
  saved : ∀ c, p.surroundings.saved? c = (r.saved? c).map fun old => (p.saves c).getLast?.or old
  balance : ∀ c, (p.saves c).Perm ((p.keeps c ++ p.pending c).map Value.toJson)

theorem getLast?_filterMap_append {A B : Type} (f : A → Option B) (as : List A) (a : A) :
    ((as ++ [a]).filterMap f).getLast? = (f a).or (as.filterMap f).getLast? := by
  rw [List.filterMap_append, List.getLast?_append]
  cases h : f a with
  | none => rw [List.filterMap_cons_none h]; rfl
  | some b => rw [List.filterMap_cons_some h]; rfl

theorem perm_of_balance {A : Type} {saves keeps left right saved owed kept owed' : List A}
    (h : saves.Perm (keeps ++ (left ++ (owed ++ right)))) (hstep : saved ++ owed = kept ++ owed') :
    (saves ++ saved).Perm (keeps ++ kept ++ (left ++ (owed' ++ right))) := by
  classical
  rw [List.perm_iff_count] at h ⊢
  intro j
  have hj := h j
  have hcount := congrArg (List.count j) hstep
  simp only [List.count_append] at hj hcount ⊢
  omega

namespace Traced

theorem nothing (l : LiveState) (r : Records) : Traced l r ⟨[], l, r, []⟩ := by
  refine ⟨nofun, fun c => rfl, ?_, fun c => .nil⟩
  intro c
  change r.saved? c = (r.saved? c).map fun old => old
  rw [Option.map_id']

theorem start {flow : Flow services LiveState (Except HubError Unit)} (h : Traced l r p)
    (hflow : Calling none flow) : Traced l r { p with flows := flow :: p.flows } := by
  refine { h with calling := ?_, balance := ?_ }
  · intro flow' hmem
    rcases List.mem_cons.1 hmem with rfl | hmem
    · exact ⟨none, hflow⟩
    · exact h.calling flow' hmem
  · intro c
    have hpending : CallPool.pending c { p with flows := flow :: p.flows } = p.pending c :=
      List.filterMap_cons_none (hflow.pending?_eq c)
    rw [hpending]
    exact h.balance c

theorem step {left right : List (Flow services LiveState (Except HubError Unit))}
    {flow flow' : Flow services LiveState (Except HubError Unit)} {s s' : LiveState} {w w' : Records}
    {act : Flow.Act services LiveState} {acts : List (Flow.Act services LiveState)}
    (h : Traced l r ⟨left ++ flow :: right, s, w, acts⟩)
    (hstep : Flow.Step host.Answers flow s w act flow' s' w') :
    Traced l r ⟨left ++ flow' :: right, s', w', acts ++ [act]⟩ := by
  obtain ⟨owed, hflow⟩ := h.calling flow (by simp)
  obtain ⟨hflow', hcall⟩ := hflow.step hstep
  refine ⟨?_, ?_, ?_, ?_⟩
  · intro other hmem
    simp only [List.mem_append, List.mem_cons] at hmem
    rcases hmem with hmem | rfl | hmem
    · exact h.calling other (by simp [hmem])
    · exact hflow'
    · exact h.calling other (by simp [hmem])
  · intro c
    have hvalue : s.singletons.value? c = _ := h.value c
    unfold keeps at hvalue ⊢
    rw [getLast?_filterMap_append, Option.or_assoc, ← hvalue]
    exact (hcall c).value
  · intro c
    have hsaved : w.saved? c = _ := h.saved c
    change w'.saved? c = _
    rw [(hcall c).saved, hsaved, Option.map_map]
    unfold saves
    simp only [getLast?_filterMap_append, Option.or_assoc]
    rfl
  · intro c
    have hbalance := h.balance c
    unfold saves keeps pending at hbalance ⊢
    simp only [List.filterMap_eq_flatMap_toList, List.flatMap_append, List.flatMap_cons,
      List.flatMap_nil, List.append_nil, List.map_append] at hbalance ⊢
    have hstep := (hcall c).balance
    rw [List.map_append] at hstep
    exact perm_of_balance hbalance hstep

end Traced

theorem Overlapping.traced (h : Overlapping host l r p) : Traced l r p := by
  induction h with
  | nothing => exact .nothing l r
  | start _ admitted ih =>
    obtain ⟨op, hop, rfl⟩ := admitted
    exact ih.start hop.calls
  | step _ hstep ih => exact ih.step hstep

/-- Where calls overlap and all have ended, each update that was saved was kept and the other way
round, and a record holds the singleton in memory just if the last update to be saved was also the
last to be kept. -/
theorem Overlapping.saved_iff_last_kept (h : Overlapping host l r p) (ha : Agree l.singletons r)
    (idle : p.Idle) (c : ConfigTarget) {saved : Option Json}
    (hc : p.surroundings.saved? c = some saved) :
    (p.saves c).Perm ((p.keeps c).map Value.toJson) ∧
    ∃ v, p.state.singletons.value? c = some v ∧
      (saved = some v.toJson ↔ (p.saves c).getLast? = (p.keeps c).getLast?.map Value.toJson) := by
  have ht := h.traced
  have hpending : p.pending c = [] := by
    refine List.filterMap_eq_nil_iff.2 ?_
    intro flow hflow
    obtain ⟨x, rfl⟩ := idle flow hflow
    rfl
  have hperm := ht.balance c
  rw [hpending, List.append_nil] at hperm
  refine ⟨hperm, ?_⟩
  -- what the record and the memory held when the first call started
  rw [ht.saved c, ha.saved?, Option.map_map] at hc
  obtain ⟨first, hfirst, hc⟩ := Option.map_eq_some_iff.1 hc
  have hvalue := ht.value c
  rw [hfirst] at hvalue
  cases hkeeps : (p.keeps c).getLast? with
  | none =>
    have hnone : p.saves c = [] := by
      rw [List.getLast?_eq_none_iff.1 hkeeps] at hperm
      exact List.perm_nil.1 hperm
    rw [hkeeps] at hvalue
    refine ⟨first, hvalue, ?_⟩
    rw [← hc, hnone]
    exact ⟨fun _ => rfl, fun _ => rfl⟩
  | some v =>
    have hsome : p.saves c ≠ [] := by
      intro hnil
      rw [hnil, List.nil_perm, List.map_eq_nil_iff] at hperm
      rw [hperm] at hkeeps
      cases hkeeps
    rw [hkeeps] at hvalue
    refine ⟨v, hvalue, ?_⟩
    rw [← hc, List.getLast?_eq_some_getLast hsome]
    rfl

theorem agree_lampHub : Agree Engine.lampHub.1.singletons Engine.lampHub.2 :=
  (Agree.empty.newDriver Engine.lampDriver (.object [("count", .int 0)])).putDevice
    (.object [("level", .float ⟨0⟩)]) rfl

/-- A call of the lamp's driver alone that counts to 1, and a call of the desk lamp that counts to 2.
The second starts and ends after the first has saved and before it has kept. -/
def crossing : CallPool :=
  let count (device : Option DeviceId) (n : Int64) : Operation :=
    .invoke ⟨Engine.lampDriver.id, device⟩ (Engine.dim n ⟨7⟩) 0
  Flow.Pool.turns Engine.lamp.answer (List.replicate 11 1 ++ List.replicate 13 0 ++ [1])
    ⟨[(count (some "desk") 2).work.run, (count none 1).work.run], Engine.lampHub.1,
      Engine.lampHub.2, []⟩

theorem overlapping_crossing :
    Overlapping Engine.lamp.host Engine.lampHub.1 Engine.lampHub.2 crossing := by
  refine Flow.Interleaved.turns Engine.lamp.answers_answer ?_ _
  exact .start (.start .nothing ⟨.invoke .., trivial, rfl⟩) ⟨.invoke .., trivial, rfl⟩

/-- No call is in progress then, but the record of the driver counts to 2 and the memory to 1. -/
theorem Overlapping.crossing_apart :
    let lamp : ConfigTarget := .driver Engine.lampDriver.id
    Overlapping Engine.lamp.host Engine.lampHub.1 Engine.lampHub.2 crossing ∧ crossing.Idle ∧
      ∃ saved v, crossing.surroundings.saved? lamp = some saved ∧
        crossing.state.singletons.value? lamp = some v ∧ saved ≠ some v.toJson := by
  intro lamp
  have hidle : crossing.Idle := by
    have hflows : crossing.flows = [.done (.ok ()), .done (.ok ())] := rfl
    intro flow hflow
    rw [hflows] at hflow
    exact ⟨.ok (), by simpa using hflow⟩
  let counted (n : Int64) : Value := .object [("count", .int n)]
  have hsaved : crossing.surroundings.saved? lamp = some (some (counted 2).toJson) := rfl
  obtain ⟨-, v, hv, hiff⟩ := overlapping_crossing.saved_iff_last_kept agree_lampHub hidle lamp hsaved
  refine ⟨overlapping_crossing, hidle, _, v, hsaved, hv, ?_⟩
  have hsaves : crossing.saves lamp = [(counted 1).toJson, (counted 2).toJson] := rfl
  have hkeeps : crossing.keeps lamp = [counted 2, counted 1] := rfl
  rw [Ne, hiff, hsaves, hkeeps]
  have hcount : (counted 2).toJson ≠ (counted 1).toJson := by
    intro h
    simp [counted, Value.toJson, Value.toJsonFields, Json.ofInt64, JsonInt.ofInt64] at h
  simpa using hcount

end CallPool

end DriverHub
