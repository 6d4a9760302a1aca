import DriverHub.Proofs.Flow.Protocol
import Mathlib.Data.List.Induction

/-! Sessions: calls come at any time and take turns, and it is written down who did what to which
state. A session is led to by its setting alone: how the surroundings answer, what each call does,
and perhaps a rule about whose turn it may be. If all calls keep to a protocol, an invariant of their
standings and the state holds in every session, as soon as no move breaks it. -/

namespace DriverHub.Flow

variable {I : Interface} {σ W κ G : Type} {Result : κ → Type}

/-- A call and what is left of it to do. -/
structure Caller (I : Interface) (σ : Type) {κ : Type} (Result : κ → Type) where
  call : κ
  rest : Flow I σ (Result call)

def Caller.ended (c : Caller I σ Result) : Bool :=
  match c.rest with
  | .done _ => true
  | _ => false

/-- One turn: the place of the caller whose turn it was, the state that it found, and what it did. -/
structure Turn (I : Interface) (σ : Type) where
  caller : Nat
  state : σ
  act : Act I σ

/-- The state after a turn. -/
def Turn.after (t : Turn I σ) : σ := t.act.after t.state

/-- The calls that have come so far, in their order, the state that they share, and all turns that
were taken, the first one first. -/
structure Session (I : Interface) (σ W : Type) {κ : Type} (Result : κ → Type) where
  callers : List (Caller I σ Result) := []
  state : σ
  surroundings : W
  turns : List (Turn I σ) := []

/-- No call is in progress. -/
def Session.AtRest (p : Session I σ W Result) : Prop := ∀ c ∈ p.callers, c.ended = true

instance (p : Session I σ W Result) : Decidable p.AtRest :=
  inferInstanceAs (Decidable (∀ c ∈ p.callers, c.ended = true))

structure Setting (I : Interface) (σ W : Type) {κ : Type} (Result : κ → Type) where
  answers : Surroundings I W
  flow : (call : κ) → Flow I σ (Result call)
  /-- The calls that may come. -/
  admits : κ → Prop
  /-- The turns that may be taken. -/
  permits : Session I σ W Result → Turn I σ → Prop

/-- The sessions that calls lead to, from a state and its surroundings. -/
inductive Setting.Leads (S : Setting I σ W Result) (s₀ : σ) (w₀ : W) : Session I σ W Result → Prop
  | nothing : Leads S s₀ w₀ ⟨[], s₀, w₀, []⟩
  | call {callers s w turns call} (before : Leads S s₀ w₀ ⟨callers, s, w, turns⟩)
      (admitted : S.admits call) :
    Leads S s₀ w₀ ⟨callers ++ [⟨call, S.flow call⟩], s, w, turns⟩
  | turn {left call rest right s w turns act rest' s' w'}
      (before : Leads S s₀ w₀ ⟨left ++ ⟨call, rest⟩ :: right, s, w, turns⟩)
      (step : Step S.answers rest s w act rest' s' w')
      (permitted : S.permits ⟨left ++ ⟨call, rest⟩ :: right, s, w, turns⟩ ⟨left.length, s, act⟩) :
    Leads S s₀ w₀ ⟨left ++ ⟨call, rest'⟩ :: right, s', w', turns ++ [⟨left.length, s, act⟩]⟩

/-! ### Invariants -/

theorem getElem?_other {A : Type} {left right : List A} {i : Nat} (a b : A) (h : left.length ≠ i) :
    (left ++ a :: right)[i]? = (left ++ b :: right)[i]? := by
  rcases Nat.lt_or_gt_of_ne h with hlt | hlt
  · obtain ⟨k, rfl⟩ := Nat.exists_eq_add_of_lt hlt
    simp [List.getElem?_append, Nat.add_assoc]
  · simp [List.getElem?_append, hlt]

theorem exists_getElem?_other {A : Type} {left right : List A} {x : A} (a : A)
    (hx : x ∈ left ++ right) : ∃ i, i ≠ left.length ∧ (left ++ a :: right)[i]? = some x := by
  rcases List.mem_append.1 hx with hx | hx
  · obtain ⟨i, hi, rfl⟩ := List.mem_iff_getElem.1 hx
    exact ⟨i, Nat.ne_of_lt hi, by simp [List.getElem?_append, hi]⟩
  · obtain ⟨i, hi, rfl⟩ := List.mem_iff_getElem.1 hx
    refine ⟨left.length + (i + 1), by omega, ?_⟩
    rw [List.getElem?_append_right (Nat.le_add_right _ _), Nat.add_sub_cancel_left,
      List.getElem?_cons_succ, List.getElem?_eq_getElem hi]

theorem eq_or_mem_others {A : Type} {left right : List A} {a x : A} (hx : x ∈ left ++ a :: right) :
    x = a ∨ x ∈ left ++ right := by
  rcases List.mem_append.1 hx with hx | hx
  · exact .inr (List.mem_append_left _ hx)
  · exact (List.mem_cons.1 hx).imp_right (List.mem_append_right _)

theorem mem_of_mem_others {A : Type} {left right : List A} {x : A} (a : A)
    (hx : x ∈ left ++ right) : x ∈ left ++ a :: right := by
  rcases List.mem_append.1 hx with hx | hx <;> simp [hx]

section

variable (P : Protocol I σ G) (Q : (call : κ) → Result call → G → Prop)

/-- A caller with its standing, from which the rest of its call keeps to the protocol. -/
structure Standing where
  caller : Caller I σ Result
  value : G
  keeps : caller.rest.Keeps P value (Q caller.call)

variable {P Q} {S : Setting I σ W Result} {s₀ : σ} {w₀ : W} {p : Session I σ W Result}

/-- An invariant of standings, state, surroundings and turns holds in every session, if it gives each
call what it relies on and the answers that it reckons with, and neither a new call nor a move breaks
it. -/
theorem Setting.Leads.invariant (h : S.Leads s₀ w₀ p) (g₀ : κ → G)
    (hkeeps : ∀ call, S.admits call → (S.flow call).Keeps P (g₀ call) (Q call))
    (Inv : List (Standing P Q) → σ → W → List (Turn I σ) → Prop)
    (hnothing : Inv [] s₀ w₀ [])
    (hanswers : ∀ {standings s w turns} q b v, Inv standings s w turns → S.answers w q b v →
      P.answers q b)
    (hrelies : ∀ {left right e s w turns}, Inv (left ++ e :: right) s w turns → P.relies e.value s)
    (hcall : ∀ {standings s w turns} e, S.admits e.caller.call → e.value = g₀ e.caller.call →
      Inv standings s w turns → Inv (standings ++ [e]) s w turns)
    (hturn : ∀ {left right} {e e' : Standing P Q} {s w turns act w'},
      Inv (left ++ e :: right) s w turns → e'.caller.call = e.caller.call →
      P.moves e.value s act e'.value → act.Answered S.answers w w' →
      S.permits ⟨(left ++ e :: right).map (·.caller), s, w, turns⟩ ⟨left.length, s, act⟩ →
      Inv (left ++ e' :: right) (act.after s) w' (turns ++ [⟨left.length, s, act⟩])) :
    ∃ standings : List (Standing P Q),
      p.callers = standings.map (·.caller) ∧ Inv standings p.state p.surroundings p.turns := by
  induction h with
  | nothing => exact ⟨[], rfl, hnothing⟩
  | @call _ _ _ _ c _ admitted ih =>
    obtain ⟨standings, hcallers, hinv⟩ := ih
    refine ⟨standings ++ [⟨⟨c, S.flow c⟩, g₀ c, hkeeps c admitted⟩], ?_, hcall _ admitted rfl hinv⟩
    simpa using hcallers
  | turn _ step permitted ih =>
    obtain ⟨standings, hcallers, hinv⟩ := ih
    obtain ⟨left, rest, rfl, rfl, hrest⟩ := List.map_eq_append_iff.1 hcallers.symm
    obtain ⟨e, right, rfl, he, rfl⟩ := List.map_eq_cons_iff.1 hrest
    obtain ⟨caller, g, hkeep⟩ := e
    cases he
    obtain ⟨rfl, hanswered, g', hmove, hkeep'⟩ := hkeep.step (fun q b v => hanswers q b v hinv) (hrelies hinv) step
    rw [List.length_map] at permitted ⊢
    refine ⟨left ++ ⟨⟨_, _⟩, g', hkeep'⟩ :: right, by simp, ?_⟩
    refine hturn hinv rfl hmove hanswered ?_
    simpa using permitted

end

theorem Setting.Leads.preserved {S : Setting I σ W Result} {s₀ : σ} {w₀ : W} {p : Session I σ W Result}
    {Inv : σ → Prop} (h : S.Leads s₀ w₀ p)
    (hkeeps : ∀ call, S.admits call → (S.flow call).Keeps (.preserving Inv) () fun _ _ => True)
    (hs : Inv s₀) : Inv p.state := by
  obtain ⟨-, -, hstate⟩ := h.invariant (P := .preserving Inv) (Q := fun _ _ _ => True) (fun _ => ())
    hkeeps (fun _ s _ _ => Inv s) hs (fun _ _ _ _ _ => trivial) id (fun _ _ _ h => h)
    (fun _ _ hmove _ _ => hmove)
  exact hstate

/-- Where every question is answered and every turn permitted, a call that has not ended may take its
next turn. -/
theorem Setting.Leads.exists_turn {S : Setting I σ W Result} {s₀ : σ} {w₀ : W}
    {p : Session I σ W Result} (h : S.Leads s₀ w₀ p) (total : ∀ w q, ∃ b v, S.answers w q b v)
    (hpermits : ∀ p t, S.permits p t) {i : Nat} {c : Caller I σ Result} (hc : p.callers[i]? = some c)
    (hended : c.ended = false) :
    ∃ p' t, S.Leads s₀ w₀ p' ∧ p'.callers.map (·.call) = p.callers.map (·.call) ∧
      p'.turns = p.turns ++ [t] ∧ t.caller = i := by
  obtain ⟨callers, s, w, turns⟩ := p
  obtain ⟨hi, rfl⟩ := List.getElem?_eq_some_iff.1 hc
  have hcallers : callers = callers.take i ++ callers[i] :: callers.drop (i + 1) := by
    rw [List.getElem_cons_drop, List.take_append_drop]
  have hlength : (callers.take i).length = i := List.length_take_of_le (Nat.le_of_lt hi)
  generalize callers.take i = left at hcallers hlength
  generalize callers.drop (i + 1) = right at hcallers
  generalize callers[i] = c at hcallers hended
  subst hcallers hlength
  obtain ⟨call, rest⟩ := c
  cases rest with
  | done => cases hended
  | access update next => exact ⟨_, _, h.turn .access (hpermits _ _), by simp, rfl, rfl⟩
  | ask q next =>
    obtain ⟨b, v, hb⟩ := total w q
    exact ⟨_, _, h.turn (.ask hb) (hpermits _ _), by simp, rfl, rfl⟩

/-- Where every turn is permitted, the last caller may come to its end before anybody else goes on. -/
theorem Setting.Leads.alone {S : Setting I σ W Result} {s₀ s s' : σ} {w₀ w w' : W}
    {left : List (Caller I σ Result)} {call : κ} {flow : Flow I σ (Result call)} {x : Result call}
    {turns : List (Turn I σ)} (h : S.Leads s₀ w₀ ⟨left ++ [⟨call, flow⟩], s, w, turns⟩)
    (hpermits : ∀ p t, S.permits p t) (hends : Ends S.answers flow s w x s' w') :
    ∃ more : List (Turn I σ), (∀ t ∈ more, t.caller = left.length) ∧
      S.Leads s₀ w₀ ⟨left ++ [⟨call, .done x⟩], s', w', turns ++ more⟩ := by
  have hturn {act : Act I σ} {more : List (Turn I σ)} (hmore : ∀ t ∈ more, t.caller = left.length)
      (s : σ) : ∀ t ∈ ⟨left.length, s, act⟩ :: more, t.caller = left.length := by
    intro t ht
    rcases List.mem_cons.1 ht with rfl | ht
    · rfl
    · exact hmore t ht
  induction hends generalizing turns with
  | done => exact ⟨[], nofun, by rwa [List.append_nil]⟩
  | access _ ih =>
    obtain ⟨more, hmore, hafter⟩ := ih (h.turn .access (hpermits _ _))
    exact ⟨_, hturn hmore _, by rwa [List.append_assoc] at hafter⟩
  | ask answered _ ih =>
    obtain ⟨more, hmore, hafter⟩ := ih (h.turn (.ask answered) (hpermits _ _))
    exact ⟨_, hturn hmore _, by rwa [List.append_assoc] at hafter⟩

/-- Calls that came one after another, each to its end. -/
structure Session.Sequential (p : Session I σ W Result) : Prop where
  rest : p.AtRest
  ordered : p.turns.Pairwise fun t u => t.caller ≤ u.caller

theorem Setting.Leads.caller_lt {S : Setting I σ W Result} {s₀ : σ} {w₀ : W} {p : Session I σ W Result}
    (h : S.Leads s₀ w₀ p) : ∀ t ∈ p.turns, t.caller < p.callers.length := by
  induction h with
  | nothing => nofun
  | call _ _ ih =>
    intro t ht
    rw [List.length_append]
    exact Nat.lt_add_right _ (ih t ht)
  | turn _ _ _ ih =>
    intro t ht
    simp only [List.length_append, List.length_cons] at ih ⊢
    rcases List.mem_append.1 ht with ht | ht
    · exact ih t ht
    · obtain rfl := List.mem_singleton.1 ht
      exact Nat.lt_add_of_pos_right (Nat.succ_pos _)

/-- Where every turn is permitted, one more call may come and go after the others. -/
theorem Setting.Leads.followed {S : Setting I σ W Result} {s₀ s s' : σ} {w₀ w w' : W}
    {p : Session I σ W Result} (h : S.Leads s₀ w₀ p) (hp : p.Sequential) (hstate : p.state = s)
    (hsurroundings : p.surroundings = w) (call : κ) {x : Result call} (admitted : S.admits call)
    (hpermits : ∀ p t, S.permits p t) (hends : Ends S.answers (S.flow call) s w x s' w') :
    ∃ p', S.Leads s₀ w₀ p' ∧ p'.Sequential ∧ p'.state = s' ∧ p'.surroundings = w' := by
  subst hstate hsurroundings
  obtain ⟨more, hmore, hafter⟩ := (h.call admitted).alone hpermits hends
  refine ⟨_, hafter, ⟨?_, ?_⟩, rfl, rfl⟩
  · intro c hc
    rcases List.mem_append.1 hc with hc | hc
    · exact hp.rest c hc
    · rw [List.mem_singleton.1 hc]
      rfl
  · refine List.pairwise_append.2 ⟨hp.ordered, ?_, ?_⟩
    · refine List.pairwise_of_forall_mem_list fun t ht u hu => ?_
      exact Nat.le_of_eq ((hmore t ht).trans (hmore u hu).symm)
    · intro t ht u hu
      rw [hmore u hu]
      exact Nat.le_of_lt (h.caller_lt t ht)

/-! ### Running a session -/

section

variable (S : Setting I σ W Result) (answer : W → (q : I.Question) → I.Answer q × W)

/-- A session in which the given calls have come and done nothing yet. -/
def Session.opened (calls : List κ) (s : σ) (w : W) : Session I σ W Result :=
  ⟨calls.map fun call => ⟨call, S.flow call⟩, s, w, []⟩

variable [∀ p t, Decidable (S.permits p t)]

/-- The caller at a place takes its turn, if it may. -/
def Session.turn (place : Nat) (p : Session I σ W Result) : Session I σ W Result :=
  match p.callers.drop place with
  | [] => p
  | c :: right =>
    match c.rest.advance answer p.state p.surroundings with
    | none => p
    | some (act, rest, s, w) =>
      let t : Turn I σ := ⟨(p.callers.take place).length, p.state, act⟩
      if S.permits p t then ⟨p.callers.take place ++ ⟨c.call, rest⟩ :: right, s, w, p.turns ++ [t]⟩
      else p

/-- The callers take their turns in a given order. -/
def Session.turnsOf (places : List Nat) (p : Session I σ W Result) : Session I σ W Result :=
  places.foldl (fun p place => p.turn S answer place) p

variable {S answer} {s₀ : σ} {w₀ : W} {p : Session I σ W Result}

omit [∀ p t, Decidable (S.permits p t)] in
theorem Setting.Leads.opened (calls : List κ) (hcalls : ∀ call ∈ calls, S.admits call) :
    S.Leads s₀ w₀ (.opened S calls s₀ w₀) := by
  induction calls using List.reverseRecOn with
  | nil => exact .nothing
  | append_singleton calls call ih =>
    have hbefore : S.Leads s₀ w₀ (.opened S calls s₀ w₀) :=
      ih fun c hc => hcalls c (List.mem_append_left _ hc)
    have hafter := hbefore.call (hcalls call (by simp))
    simpa [Session.opened] using hafter

theorem Setting.Leads.turn_of (hanswer : ∀ w q, S.answers w q (answer w q).1 (answer w q).2)
    (h : S.Leads s₀ w₀ p) (place : Nat) : S.Leads s₀ w₀ (p.turn S answer place) := by
  obtain ⟨callers, s, w, turns⟩ := p
  unfold Session.turn
  split
  · exact h
  · next c right hdrop =>
    have hcallers : callers = callers.take place ++ c :: right := by
      rw [← hdrop, List.take_append_drop]
    split
    · exact h
    · next act rest s' w' hadvance =>
      dsimp only
      split
      · next hpermits =>
        generalize callers.take place = left at hcallers hpermits ⊢
        subst hcallers
        exact h.turn (step_of_advance hanswer hadvance) hpermits
      · exact h

theorem Setting.Leads.turnsOf (hanswer : ∀ w q, S.answers w q (answer w q).1 (answer w q).2)
    (h : S.Leads s₀ w₀ p) (places : List Nat) : S.Leads s₀ w₀ (p.turnsOf S answer places) := by
  unfold Session.turnsOf
  induction places generalizing p with
  | nil => exact h
  | cons place places ih => exact ih (h.turn_of hanswer place)

end

end DriverHub.Flow
