import DriverHub.Proofs.Hub.Courses
import DriverHub.Proofs.Hub.InvalidPeriod

/-! New code and calls that overlap. When all have ended, each singleton of the driver and its devices
has the shape that the recorded source declares, unless the last to keep it was a call that had read the
old source: new code does not wait for such calls, and they do not look again before they keep what
their runs left behind. -/

namespace DriverHub

open CallStep

abbrev HubSession := Flow.Session services LiveState Records fun _ : Operation => Except HubError Unit

abbrev HubTurn := Flow.Turn services LiveState

/-- Calls of drivers and scripts, and new code for one driver, in any order of turns. -/
def Operation.upgrading (host : Host) (id : DriverId) (source : String) :
    Flow.Setting services LiveState Records fun _ : Operation => Except HubError Unit where
  answers := host.Answers
  flow op := op.work.run
  admits op := op.IsCall ∨ op = .applyCode id source
  permits _ _ := True

instance (host : Host) (id : DriverId) (source : String) (p : HubSession) (t : HubTurn) :
    Decidable ((Operation.upgrading host id source).permits p t) :=
  inferInstanceAs (Decidable True)

/-- In this turn, the record of the driver was read, with the source. -/
def ReadsSource (id : DriverId) (source : String) (t : HubTurn) : Prop :=
  ∃ record : DriverRecord, record.source = source ∧
    t.act = .asked (.record (.driver id)) (.ok (some record))

/-- The last to keep the singleton in these turns was a caller that had read the source before. -/
def LastKept (id : DriverId) (source : String) (c : ConfigTarget) (caller : Nat)
    (turns : List HubTurn) : Prop :=
  ∃ before t after, turns = before ++ t :: after ∧ t.caller = caller ∧ keeps? c t.act ≠ none ∧
    (∀ u ∈ after, keeps? c u.act = none) ∧ ∃ u ∈ before, u.caller = caller ∧ ReadsSource id source u

/-- The last to keep the singleton was a call that had read the source before. -/
def HubSession.Overtaken (p : HubSession) (id : DriverId) (source : String) (c : ConfigTarget) : Prop :=
  ∃ i caller, p.callers[i]? = some caller ∧ caller.call.IsCall ∧ LastKept id source c i p.turns

theorem LastKept.append {id : DriverId} {source : String} {c : ConfigTarget} {i : Nat}
    {turns : List HubTurn} {t : HubTurn} (h : LastKept id source c i turns)
    (ht : keeps? c t.act = none) : LastKept id source c i (turns ++ [t]) := by
  obtain ⟨before, u, after, rfl, hi, hkeeps, hafter, hread⟩ := h
  refine ⟨before, u, after ++ [t], by simp, hi, hkeeps, ?_, hread⟩
  intro x hx
  rcases List.mem_append.1 hx with hx | hx
  · exact hafter x hx
  · rw [List.mem_singleton.1 hx, ht]

namespace Rollout

variable {ro : Rollout}

/-- How a singleton may come to have its value, by the courses of all callers and the turns so far. -/
inductive Status (ro : Rollout) (book : List Course) (w : Records) (turns : List HubTurn)
    (c : ConfigTarget) (v : Value) : Prop
  | current {source : String} (recorded : w.source? ro.id = some source) (fits : ro.Fits source c v)
  | due {i : Nat} {due : ConfigTarget → Prop} (recorded : w.source? ro.id = some ro.new)
      (fits : ro.Fits ro.old c v) (settling : book[i]? = some (.settling due)) (left : due c)
  | late {i : Nat} {source : Option String} (recorded : w.source? ro.id = some ro.new)
      (fits : ro.Fits ro.old c v) (calling : book[i]? = some (.calling source))
      (last : LastKept ro.id ro.old c i turns)

/-- What holds of all courses and the hub while calls and new code are under way. -/
structure Underway (ro : Rollout) (book : List Course) (s : LiveState) (w : Records)
    (turns : List HubTurn) : Prop where
  catalog : ro.E.In s.catalog
  stands : ro.Stands w
  learned : ∀ i source, book[i]? = some (.calling (some source)) →
    ro.Known source ∧ ∃ t ∈ turns, t.caller = i ∧ ReadsSource ro.id source t
  /-- While the old source is recorded, nobody has read the new one, or brings anything under it. -/
  early : w.source? ro.id = some ro.new ∨
    ∀ g ∈ book, g = .preparing ∨ g = .calling none ∨ g = .calling (some ro.old)
  values : ∀ c, ro.Owns c → ∃ v, s.singletons.value? c = some v ∧ ro.Status book w turns c v

variable {book left right : List Course} {g g' : Course} {s : LiveState} {w w' : Records}
  {turns : List HubTurn} {act : HubAct} {c : ConfigTarget} {v : Value}

theorem getElem?_self (g : Course) : (left ++ g :: right)[left.length]? = some g := by simp

theorem getElem?_of_other {x : Course} {i : Nat} (h : (left ++ g :: right)[i]? = some x) (hx : x ≠ g) :
    (left ++ g' :: right)[i]? = some x := by
  by_cases hi : left.length = i
  · subst hi
    rw [getElem?_self] at h
    exact absurd (Option.some.inj h).symm hx
  · rw [Flow.getElem?_other g' g hi, h]

/-- A turn that neither keeps the singleton nor changes the source leaves its status as it is. -/
theorem Status.step (h : ro.Status (left ++ g :: right) w turns c v)
    (hsource : w'.source? ro.id = w.source? ro.id) {t : HubTurn} (ht : keeps? c t.act = none)
    (hcalling : g.IsCall → g'.IsCall)
    (hdue : ∀ due, g = .settling due → due c → ∃ due', g' = .settling due' ∧ due' c) :
    ro.Status (left ++ g' :: right) w' (turns ++ [t]) c v := by
  cases h with
  | current recorded fits => exact .current (hsource.trans recorded) fits
  | @due i due recorded fits settling hleft =>
    by_cases hi : g = .settling due
    · obtain ⟨due', rfl, hleft'⟩ := hdue due hi hleft
      exact .due (hsource.trans recorded) fits (getElem?_self _) hleft'
    · exact .due (hsource.trans recorded) fits (getElem?_of_other settling (Ne.symm hi)) hleft
  | @late i source recorded fits calling last =>
    by_cases hi : left.length = i
    · subst hi
      rw [getElem?_self] at calling
      obtain ⟨source', rfl⟩ := hcalling ⟨source, Option.some.inj calling⟩
      exact .late (hsource.trans recorded) fits (getElem?_self _) (last.append ht)
    · rw [Flow.getElem?_other g g' hi] at calling
      exact .late (hsource.trans recorded) fits calling (last.append ht)

theorem source?_of_read {record : DriverRecord}
    (h : ro.host.Answers w (.record (.driver ro.id)) (.ok (some record)) w') :
    w.source? ro.id = some record.source := by
  rcases h with ⟨h, -⟩ | ⟨_, -, h, -⟩
  · exact Records.source?_of_find? (Except.ok.inj h).symm
  · cases h

theorem source?_of_record {record : DriverRecord} (hid : record.id = ro.id)
    (hsource : record.source = ro.new)
    (h : ro.host.Answers w (.record (.putDriver record)) (.ok ()) w') :
    w'.source? ro.id = some ro.new ∧ ∀ k, w'.owner? k = w.owner? k := by
  rcases h with ⟨-, rfl⟩ | ⟨_, -, h, -⟩
  · refine ⟨?_, fun _ => rfl⟩
    exact (Records.source?_putDriver record ro.id).trans (by rw [if_pos hid, hsource])
  · cases h

namespace Leads

variable {update : LiveState → LiveState}

theorem source? (h : ro.Leads g act g') (hw : act.Answered ro.host.Answers w w')
    (howners : ro.SameOwners w) : ro.SameOwners w' ∧ (w'.source? ro.id = w.source? ro.id ∨
      g = .preparing ∧ g' = .settling ro.Owns ∧ w'.source? ro.id = some ro.new) := by
  cases h with
  | aside aside =>
    obtain ⟨howners', hsource⟩ := aside.records w w' hw howners
    exact ⟨howners', .inl hsource⟩
  | learn =>
    have haside := @aside_of_reads ro (.record (.driver ro.id)) rfl
    obtain ⟨howners', hsource⟩ := (haside _).records w w' hw howners
    exact ⟨howners', .inl hsource⟩
  | keep | settle =>
    obtain rfl : w' = w := hw
    exact ⟨howners, .inl rfl⟩
  | record hid hsource =>
    obtain ⟨hnew, hsame⟩ := source?_of_record hid hsource hw
    exact ⟨fun k => (hsame k).trans (howners k), .inr ⟨rfl, rfl, hnew⟩⟩

theorem stands (h : ro.Leads g act g') (hw : act.Answered ro.host.Answers w w') (hs : ro.Stands w) :
    ro.Stands w' := by
  obtain ⟨howners, hsource⟩ := h.source? hw hs.owners
  refine ⟨?_, howners, ?_⟩
  · cases act with
    | accessed =>
      obtain rfl : w' = w := hw
      exact hs.keyed
    | asked q b => exact hs.keyed.of_answers hw
  · rcases hsource with hsame | ⟨-, -, hnew⟩
    · rw [hsame]
      exact hs.source
    · exact ⟨ro.new, .inr rfl, hnew⟩

theorem isCall (h : ro.Leads g act g') (hg' : g'.IsCall) : g.IsCall := by
  cases h with
  | aside => exact hg'
  | learn | keep => exact ⟨_, rfl⟩
  | record | settle =>
    obtain ⟨_, h⟩ := hg'
    cases h

theorem learned {source : String} (h : ro.Leads g act (.calling (some source))) :
    g = .calling (some source) ∨
      ∃ record : DriverRecord, record.source = source ∧
        act = .asked (.record (.driver ro.id)) (.ok (some record)) := by
  cases h with
  | aside | keep => exact .inl rfl
  | @learn _ record => exact .inr ⟨record, rfl, rfl⟩

end Leads

namespace Underway

theorem recorded_new (h : ro.Underway (left ++ g :: right) s w turns)
    (hg : ¬ (g = .preparing ∨ g = .calling none ∨ g = .calling (some ro.old))) :
    w.source? ro.id = some ro.new :=
  h.early.resolve_right fun hall => hg (hall g List.mem_append_cons_self)

theorem learned_turn (h : ro.Underway (left ++ g :: right) s w turns) (hg : ro.Leads g act g')
    (hw : act.Answered ro.host.Answers w w') (i : Nat) (source : String)
    (hi : (left ++ g' :: right)[i]? = some (.calling (some source))) :
    ro.Known source ∧ ∃ t ∈ turns ++ [⟨left.length, s, act⟩], t.caller = i ∧
      ReadsSource ro.id source t := by
  by_cases hself : left.length = i
  · subst hself
    rw [getElem?_self] at hi
    obtain rfl := Option.some.inj hi
    rcases hg.learned with rfl | ⟨record, rfl, rfl⟩
    · obtain ⟨hknown, t, ht, hread⟩ := h.learned _ _ (getElem?_self _)
      exact ⟨hknown, t, List.mem_append_left _ ht, hread⟩
    · obtain ⟨source, hknown, hsource⟩ := h.stands.source
      rw [source?_of_read hw] at hsource
      obtain rfl := Option.some.inj hsource
      exact ⟨hknown, _, List.mem_append_right _ List.mem_cons_self, rfl, record, rfl, rfl⟩
  · rw [Flow.getElem?_other g' g hself] at hi
    obtain ⟨hknown, t, ht, hread⟩ := h.learned i source hi
    exact ⟨hknown, t, List.mem_append_left _ ht, hread⟩

theorem early_turn (h : ro.Underway (left ++ g :: right) s w turns) (hg : ro.Leads g act g')
    (hw : act.Answered ro.host.Answers w w') : w'.source? ro.id = some ro.new ∨
      ∀ x ∈ left ++ g' :: right, x = .preparing ∨ x = .calling none ∨ x = .calling (some ro.old) := by
  by_cases hnew : w'.source? ro.id = some ro.new
  · exact .inl hnew
  obtain ⟨-, hsame | ⟨-, -, hnew'⟩⟩ := hg.source? hw h.stands.owners
  · rw [hsame] at hnew
    have hall := h.early.resolve_left hnew
    have hself := hall g List.mem_append_cons_self
    refine .inr fun x hx => ?_
    rcases Flow.eq_or_mem_others hx with rfl | hx
    · cases hg with
      | aside | keep => exact hself
      | learn =>
        obtain ⟨source, rfl | rfl, hsource⟩ := h.stands.source
        · rw [source?_of_read hw] at hsource
          rw [Option.some.inj hsource]
          exact .inr (.inr rfl)
        · exact absurd hsource hnew
      | record hid hsource => exact absurd (hsame ▸ (source?_of_record hid hsource hw).1) hnew
      | settle => rcases hself with h | h | h <;> cases h
    · exact hall x (Flow.mem_of_mem_others g hx)
  · exact absurd hnew' hnew

/-- The singletons after a turn. -/
theorem values_turn (h : ro.Underway (left ++ g :: right) s w turns) (hm : ro.Moves g s act g')
    (hw : act.Answered ro.host.Answers w w') (howns : ro.Owns c) :
    ∃ v, (act.after s).singletons.value? c = some v ∧
      ro.Status (left ++ g' :: right) w' (turns ++ [⟨left.length, s, act⟩]) c v := by
  obtain ⟨v, hv, hstatus⟩ := h.values c howns
  obtain ⟨-, hvalue, hg⟩ := hm
  rw [hvalue c]
  cases hkeeps : keeps? c act with
  | none =>
    refine ⟨v, hv, ?_⟩
    cases hg with
    | aside aside =>
      exact hstatus.step (aside.records w w' hw h.stands.owners).2 hkeeps (fun hcall => hcall)
        fun due hdue hc => ⟨due, hdue, hc⟩
    | learn =>
      have haside := @aside_of_reads ro (.record (.driver ro.id)) rfl
      exact hstatus.step ((haside _).records w w' hw h.stands.owners).2 hkeeps (fun _ => ⟨_, rfl⟩) nofun
    | keep =>
      obtain rfl : w' = w := hw
      exact hstatus.step rfl hkeeps (fun hcall => hcall) nofun
    | record hid hsource =>
      obtain ⟨hnew, -⟩ := source?_of_record hid hsource hw
      cases hstatus with
      | @current source recorded fits =>
        obtain ⟨source', hknown, hrecorded⟩ := h.stands.source
        obtain rfl := Option.some.inj (recorded.symm.trans hrecorded)
        rcases hknown with rfl | rfl
        · exact .due hnew fits (getElem?_self _) howns
        · exact .current hnew fits
      | due _ fits settling hleft => exact .due hnew fits (getElem?_of_other settling nofun) hleft
      | late _ fits calling last =>
        exact .late hnew fits (getElem?_of_other calling nofun) (last.append hkeeps)
    | settle =>
      obtain rfl : w' = w := hw
      refine hstatus.step rfl hkeeps nofun ?_
      rintro due ⟨⟩ hc
      exact ⟨_, rfl, hc, hkeeps⟩
  | some v' =>
    refine ⟨v', rfl, ?_⟩
    cases hg with
    | aside aside =>
      rw [aside.keeps c howns] at hkeeps
      cases hkeeps
    | learn => cases hkeeps
    | record => cases hkeeps
    | @keep source update fits =>
      obtain rfl : w' = w := hw
      have hfits := fits c v' howns hkeeps
      obtain ⟨hknown, t, ht, hcaller, hread⟩ := h.learned _ _ (getElem?_self _)
      obtain ⟨recorded, hknown', hrecorded⟩ := h.stands.source
      by_cases hsame : recorded = source
      · exact .current hrecorded (hsame ▸ hfits)
      · -- the call has read the old source, and the new one is recorded by now
        obtain rfl : source = ro.old := by
          by_contra hne
          have hnew := h.recorded_new (by simpa using hne)
          rw [hrecorded, ← hknown.resolve_left hne] at hnew
          exact hsame (Option.some.inj hnew)
        obtain rfl := hknown'.resolve_left hsame
        refine .late hrecorded hfits (getElem?_self _)
          ⟨turns, _, [], rfl, rfl, ?_, nofun, t, ht, hcaller, hread⟩
        rw [hkeeps]
        nofun
    | settle fits =>
      obtain rfl : w' = w := hw
      exact .current (h.recorded_new (by simp)) (fits c v' howns hkeeps)

theorem turn (h : ro.Underway (left ++ g :: right) s w turns) (hm : ro.Moves g s act g')
    (hw : act.Answered ro.host.Answers w w') :
    ro.Underway (left ++ g' :: right) (act.after s) w' (turns ++ [⟨left.length, s, act⟩]) where
  catalog := hm.catalog
  stands := hm.leads.stands hw h.stands
  learned := h.learned_turn hm.leads hw
  early := h.early_turn hm.leads hw
  values _ := h.values_turn hm hw

theorem call (h : ro.Underway book s w turns) (hg : g = .preparing ∨ g = .calling none) :
    ro.Underway (book ++ [g]) s w turns := by
  have hbefore {i : Nat} {x : Course} (hi : book[i]? = some x) : (book ++ [g])[i]? = some x := by
    rw [List.getElem?_append_left (List.getElem?_eq_some_iff.1 hi).1, hi]
  refine ⟨h.catalog, h.stands, ?_, ?_, ?_⟩
  · intro i source hi
    rw [List.getElem?_append] at hi
    split at hi
    · exact h.learned i source hi
    · have hmem := List.mem_of_getElem? hi
      obtain rfl := List.mem_singleton.1 hmem
      rcases hg with hg | hg <;> cases hg
  · refine h.early.imp_right fun hall x hx => ?_
    rcases List.mem_append.1 hx with hx | hx
    · exact hall x hx
    · obtain rfl := List.mem_singleton.1 hx
      exact hg.imp_right .inl
  · intro c howns
    obtain ⟨v, hv, hstatus⟩ := h.values c howns
    refine ⟨v, hv, ?_⟩
    cases hstatus with
    | current recorded fits => exact .current recorded fits
    | due recorded fits settling left => exact .due recorded fits (hbefore settling) left
    | late recorded fits calling last => exact .late recorded fits (hbefore calling) last

theorem relies (h : ro.Underway book s w turns) : ro.Relies s := by
  refine ⟨h.catalog, fun c howns => ?_⟩
  obtain ⟨v, hv, hstatus⟩ := h.values c howns
  cases hstatus with
  | @current source recorded fits =>
    obtain ⟨source', hknown, hrecorded⟩ := h.stands.source
    obtain rfl := Option.some.inj (recorded.symm.trans hrecorded)
    exact ⟨v, source, hv, hknown, fits⟩
  | due _ fits => exact ⟨v, ro.old, hv, .inl rfl, fits⟩
  | late _ fits => exact ⟨v, ro.old, hv, .inl rfl, fits⟩

end Underway

end Rollout

/-- Where an operation stands before its first turn. -/
def Operation.course : Operation → Course
  | .applyCode .. => .preparing
  | _ => .calling none

namespace HubSession

variable {ro : Rollout} {l : LiveState} {p : HubSession}

theorem finished_of_ended {e : Flow.Standing ro.protocol
    fun (_ : Operation) (_ : Except HubError Unit) g => g.Finished} (h : e.caller.ended = true) :
    e.value.Finished := by
  obtain ⟨⟨call, rest⟩, g, hkeeps⟩ := e
  cases rest with
  | done x => exact hkeeps
  | _ => cases h

theorem exists_underway (hro : ro.Regular) (hl : ro.E.In l.catalog) (hk : ro.first.Keyed)
    (hsource : ro.first.source? ro.id = some ro.old)
    (hvalues : ∀ c, ro.Owns c → ∃ v, l.singletons.value? c = some v ∧ ro.Fits ro.old c v)
    (h : (Operation.upgrading ro.host ro.id ro.new).Leads l ro.first p) :
    ∃ standings : List (Flow.Standing ro.protocol fun (_ : Operation) (_ : Except HubError Unit) g =>
        g.Finished),
      p.callers = standings.map (·.caller) ∧
      ro.Underway (standings.map (·.value)) p.state p.surroundings p.turns ∧
      ∀ e ∈ standings, e.value.IsCall → e.caller.call.IsCall := by
  refine h.invariant Operation.course ?_ (fun standings s w turns =>
    ro.Underway (standings.map (·.value)) s w turns ∧
      ∀ e ∈ standings, e.value.IsCall → e.caller.call.IsCall) ⟨?_, nofun⟩ ?_ ?_ ?_ ?_
  · rintro op (hop | rfl)
    · have hcourse : op.course = .calling none := by
        cases op with
        | applyCode => exact hop.elim
        | _ => rfl
      rw [hcourse]
      exact (hop.follows hro).mono fun _ _ hg => hg.finished
    · exact Work.keeps_drop (Work.follows_applyCode hro)
  · refine ⟨hl, ⟨hk, fun _ => rfl, ro.old, .inl rfl, hsource⟩, nofun, .inr nofun, ?_⟩
    intro c howns
    obtain ⟨v, hv, hfits⟩ := hvalues c howns
    exact ⟨v, hv, .current hsource hfits⟩
  · rintro standings s w turns q b v ⟨hinv, -⟩ hanswer
    exact ⟨w, v, hinv.stands, hanswer⟩
  · rintro left right e s w turns ⟨hinv, -⟩
    exact hinv.relies
  · rintro standings s w turns e hadmits hvalue ⟨hinv, hcalls⟩
    refine ⟨?_, ?_⟩
    · rw [List.map_append, List.map_singleton]
      refine hinv.call ?_
      rw [hvalue]
      cases e.caller.call with
      | applyCode => exact .inl rfl
      | _ => exact .inr rfl
    · intro x hx
      rcases List.mem_append.1 hx with hx | hx
      · exact hcalls x hx
      · obtain rfl := List.mem_singleton.1 hx
        rw [hvalue]
        rcases hadmits with hcall | hcode
        · exact fun _ => hcall
        · rw [hcode]
          rintro ⟨_, h⟩
          cases h
  · rintro left right e e' s w turns act w' ⟨hinv, hcalls⟩ hcall hmove hanswered -
    refine ⟨?_, ?_⟩
    · rw [List.map_append, List.map_cons] at hinv ⊢
      have hnext := hinv.turn hmove hanswered
      rwa [List.length_map] at hnext
    · intro x hx
      rcases Flow.eq_or_mem_others hx with rfl | hx
      · intro hx
        rw [hcall]
        exact hcalls e List.mem_append_cons_self (hmove.leads.isCall hx)
      · exact hcalls x (Flow.mem_of_mem_others e hx)

/-- However calls of a driver and its devices overlap with new code for it: when all have ended, every
singleton of the driver and its devices has the shape that the recorded source declares, unless the last
to keep it was a call that had read the old source. Such a call leaves it as the old source says, even
if the new one is recorded by then. -/
theorem shapes_at_rest {host : Host} {E : Findings} (hE : E.Of host) {id : DriverId}
    {old new : String} {declared : String → DriverInfo}
    (hdeclares : ∀ source, source = old ∨ source = new → E.Declares id source (declared source))
    {l : LiveState} {r : Records} (hl : E.In l.catalog) (hk : r.Keyed)
    (hsource : r.source? id = some old)
    (hvalues : ∀ c, r.Owns id c → ∃ v, l.singletons.value? c = some v ∧
      v.HasShape ((declared old).schemaOf c))
    (h : (Operation.upgrading host id new).Leads l r p) (hrest : p.AtRest) :
    ∃ source, p.surroundings.source? id = some source ∧ (source = old ∨ source = new) ∧
      ∀ c, (p.surroundings.Owns id c ↔ r.Owns id c) ∧ (r.Owns id c →
        ∃ v, p.state.singletons.value? c = some v ∧
          (v.HasShape ((declared source).schemaOf c) ∨
            source = new ∧ v.HasShape ((declared old).schemaOf c) ∧ p.Overtaken id old c)) := by
  let ro : Rollout := ⟨host, E, id, old, new, declared, r⟩
  have hro : ro.Regular := ⟨hE, hdeclares⟩
  obtain ⟨standings, hcallers, hunderway, hcalls⟩ :=
    @exists_underway ro l p hro hl hk hsource hvalues h
  obtain ⟨source, hknown, hrecorded⟩ := hunderway.stands.source
  refine ⟨source, hrecorded, hknown, fun c => ⟨?_, fun howns => ?_⟩⟩
  · cases c with
    | driver key => rfl
    | device k =>
      change p.surroundings.owner? k = some id ↔ r.owner? k = some id
      rw [hunderway.stands.owners k]
  obtain ⟨v, hv, hstatus⟩ := hunderway.values c howns
  refine ⟨v, hv, ?_⟩
  cases hstatus with
  | current recorded fits =>
    obtain rfl := Option.some.inj (recorded.symm.trans hrecorded)
    exact .inl fits
  | @due i due recorded fits settling left =>
    -- new code that has ended has nothing left to set
    rw [List.getElem?_map, Option.map_eq_some_iff] at settling
    obtain ⟨e, he, hvalue⟩ := settling
    have hended : e.caller.ended = true := by
      refine hrest e.caller ?_
      rw [hcallers]
      exact List.mem_map_of_mem (List.mem_of_getElem? he)
    exact absurd left (finished_of_ended hended due hvalue c)
  | @late i x recorded fits calling last =>
    obtain rfl := Option.some.inj (recorded.symm.trans hrecorded)
    rw [List.getElem?_map, Option.map_eq_some_iff] at calling
    obtain ⟨e, he, hvalue⟩ := calling
    refine .inr ⟨rfl, fits, i, e.caller, ?_, ?_, last⟩
    · rw [hcallers, List.getElem?_map, he, Option.map_some]
    · exact hcalls e (List.mem_of_getElem? he) ⟨x, hvalue⟩

end HubSession

namespace Engine

/-- What the sources of the switches declare. -/
def switchDeclared (source : String) : DriverInfo := if source = "dimmer" then dimmerInfo else switchInfo

theorem artifact_of_serves {unit : CompiledUnit} {program source : String}
    (hsource : source = "dimmer" ∨ source = "switch") (h : switches.findings.Serves unit program source) :
    unit.artifact = source := by
  obtain ⟨id, info, p, warnings, ⟨analysis, hanalysis, hfound⟩, -, hcompile⟩ := h
  rcases hsource with rfl | rfl
  all_goals
    cases hanalysis
    cases hfound
    cases hcompile
    rfl

theorem declares_switches {source : String} (h : source = "dimmer" ∨ source = "switch") :
    switches.findings.Declares switchDriver.id source (switchDeclared source) := by
  refine ⟨?_, ?_, ?_⟩
  · rintro e ⟨analysis, hanalysis, rfl⟩
    rcases h with rfl | rfl
    all_goals
      cases hanalysis
      exact ⟨_, _, rfl⟩
  · intro c
    rcases h with rfl | rfl
    all_goals
      cases c <;> simp [switchDeclared, dimmerInfo, switchInfo, DriverInfo.schemaOf, Schema.Plain,
        Schema.PlainFields]
  · rintro p warnings unit left - hserves ⟨call, injected, value, hrun⟩
    have hartifact := artifact_of_serves h hserves
    cases hrun
    constructor
    · rintro v ⟨⟩
      have hcount : Schema.Conforms (.struct [("count", .atom .int)]) (.object [("count", .int 1)]) :=
        Schema.conforms_single "count" .int trivial
      rcases h with rfl | rfl
      all_goals exact Schema.hasShape_of_conforms _ hcount
    · rintro v ⟨⟩
      rw [hartifact]
      rcases h with rfl | rfl
      · exact Schema.hasShape_of_conforms _ (Schema.conforms_of_decode dimmerInfo.deviceSchema
          (by simp [dimmerInfo, Schema.Distinct, Schema.DistinctFields])
          (show dimmerInfo.deviceSchema.decode
            (.obj [("label", .str "hall"), ("level", .float ⟨⟨7⟩, rfl⟩)]) = .ok _ from rfl))
      · exact Schema.hasShape_of_conforms _ (Schema.conforms_of_decode switchInfo.deviceSchema
          (by simp [switchInfo, Schema.Distinct, Schema.DistinctFields])
          (show switchInfo.deviceSchema.decode (.obj [("label", .str "hall")]) = .ok _ from rfl))

theorem owned_switchHub {c : ConfigTarget} (h : switchHub.2.Owns switchDriver.id c) :
    ∃ v, switchHub.1.singletons.value? c = some v ∧ v.HasShape ((switchDeclared "dimmer").schemaOf c) := by
  obtain ⟨-, -, ha⟩ := kept_after (Findings.anything_of switches.host) switchOperations
  have hvalue : ∃ v, switchHub.1.singletons.value? c = some v := by
    cases c with
    | driver key =>
      obtain rfl : key = switchDriver.id := h
      exact ⟨_, rfl⟩
    | device k =>
      obtain ⟨device, hdevice, -⟩ := Option.map_eq_some_iff.1 h
      obtain ⟨v, hv, -⟩ := ha.exists_device hdevice
      exact ⟨v, hv⟩
  obtain ⟨v, hv⟩ := hvalue
  exact ⟨v, hv, Schema.hasShape_of_conforms _ (conforms_switchHub hv)⟩

/-- New code for the switches, while the one in the hall is pressed. The call has come as far as its
run when the new code comes, and goes on when that has ended. -/
def pressing : HubSession :=
  let setting := Operation.upgrading switches.host switchDriver.id "switch"
  let calls : List Operation :=
    [.invoke ⟨switchDriver.id, some "hall"⟩ press 0, .applyCode switchDriver.id "switch"]
  (Flow.Session.opened setting calls switchHub.1 switchHub.2).turnsOf setting switches.answer
    (List.replicate 8 0 ++ List.replicate 24 1 ++ List.replicate 4 0)

theorem leads_pressing : (Operation.upgrading switches.host switchDriver.id "switch").Leads
    switchHub.1 switchHub.2 pressing := by
  refine (Flow.Setting.Leads.opened _ ?_).turnsOf switches.answers_answer _
  intro op hop
  rcases List.mem_cons.1 hop with rfl | hop
  · exact .inl trivial
  · exact .inr (List.mem_singleton.1 hop)

theorem rest_pressing : pressing.AtRest := by decide

theorem hall_pressing : pressing.state.singletons.value? (.device "hall") =
    some (.object [("label", .present (.str "hall")), ("level", .float ⟨7⟩)]) := by rfl

theorem source_pressing : pressing.surroundings.source? switchDriver.id = some "switch" := by rfl

theorem not_hasShape_hall : ¬ Value.HasShape
    (.object [("label", .present (.str "hall")), ("level", .float ⟨7⟩)])
    ((switchDeclared "switch").schemaOf (.device "hall")) := by
  intro h
  cases h with
  | struct _ names =>
    have hlevel := (names "level").1 rfl
    simp at hlevel

end Engine

namespace HubSession

open Engine

theorem shapes_at_rest_switches :
    let hall : ConfigTarget := .device "hall"
    pressing.AtRest ∧ pressing.surroundings.Owns switchDriver.id hall ∧
      pressing.surroundings.source? switchDriver.id = some "switch" ∧
      pressing.Overtaken switchDriver.id "dimmer" hall := by
  intro hall
  obtain ⟨hl, hk, -⟩ := kept_after switches.findings_of switchOperations
  obtain ⟨source, hsource, -, hvalues⟩ := shapes_at_rest switches.findings_of
    (fun _ => declares_switches) hl hk rfl (fun _ => owned_switchHub) leads_pressing rest_pressing
  rw [source_pressing] at hsource
  obtain rfl := Option.some.inj hsource
  obtain ⟨howns, hvalue⟩ := hvalues hall
  obtain ⟨v, hv, hfits⟩ := hvalue rfl
  rw [hall_pressing] at hv
  obtain rfl := Option.some.inj hv
  rcases hfits with hfits | ⟨-, -, hovertaken⟩
  · exact absurd hfits not_hasShape_hall
  · exact ⟨rest_pressing, howns.2 rfl, source_pressing, hovertaken⟩

/-- So singletons may not be what the recorded source declares when all calls have ended. -/
theorem shapes_at_rest_not_of_source :
    ¬ ∀ (host : Host) (E : Findings) (id : DriverId) (old new : String) (declared : String → DriverInfo)
      (l : LiveState) (r : Records) (p : HubSession),
      E.Of host → (∀ source, source = old ∨ source = new → E.Declares id source (declared source)) →
      E.In l.catalog → r.Keyed → r.source? id = some old →
      (∀ c, r.Owns id c → ∃ v, l.singletons.value? c = some v ∧
        v.HasShape ((declared old).schemaOf c)) →
      (Operation.upgrading host id new).Leads l r p → p.AtRest →
      ∀ c source v, p.surroundings.Owns id c → p.surroundings.source? id = some source →
        p.state.singletons.value? c = some v → v.HasShape ((declared source).schemaOf c) := by
  intro h
  obtain ⟨hl, hk, -⟩ := kept_after switches.findings_of switchOperations
  have hall := h switches.host switches.findings switchDriver.id "dimmer" "switch" switchDeclared _ _
    pressing switches.findings_of (fun _ => declares_switches) hl hk rfl (fun _ => owned_switchHub)
    leads_pressing rest_pressing (.device "hall") "switch" _ rfl source_pressing hall_pressing
  exact not_hasShape_hall hall

end HubSession

end DriverHub
