import DriverHub.Proofs.Flow.Interleaving

/-! Protocols of flows. Where others may change the state between any two steps of a flow, what the
flow is entitled to do depends on what it did before: which number it has drawn, or which entry it
has taken out. This is kept in a value beside the flow, its standing. A protocol says what a flow may
rely on as long as it stands somewhere, and how each of its steps moves it on. -/

namespace DriverHub.Flow

variable {I : Interface} {σ τ G G' W α β : Type}

/-- The state after an act. -/
def Act.after : Act I σ → σ → σ
  | .accessed update, s => update s
  | .asked .., s => s

@[simp] theorem Act.after_accessed (update : σ → σ) (s : σ) :
    (Act.accessed update : Act I σ).after s = update s := rfl

@[simp] theorem Act.after_asked (q : I.Question) (b : I.Answer q) (s : σ) :
    (Act.asked q b : Act I σ).after s = s := rfl

/-- Whether the surroundings go along with an act in this way. -/
def Act.Answered (R : Surroundings I W) : Act I σ → W → W → Prop
  | .accessed _, w, v => v = w
  | .asked q b, w, v => R w q b v

structure Protocol (I : Interface) (σ G : Type) where
  /-- What a flow with this standing finds whenever its turn comes. -/
  relies : G → σ → Prop
  /-- The answers that are to be reckoned with. -/
  answers : (q : I.Question) → I.Answer q → Prop
  /-- The standing before, the state that is found, the act, and the standing after. -/
  moves : G → σ → Act I σ → G → Prop

/-- Both protocols at once. -/
def Protocol.and (P : Protocol I σ G) (P' : Protocol I σ G') : Protocol I σ (G × G') where
  relies g s := P.relies g.1 s ∧ P'.relies g.2 s
  answers q b := P.answers q b ∧ P'.answers q b
  moves g s act h := P.moves g.1 s act h.1 ∧ P'.moves g.2 s act h.2

/-- Every step keeps an invariant of the state, whatever the answers are. -/
def Protocol.preserving (Inv : σ → Prop) : Protocol I σ Unit where
  relies _ := Inv
  answers _ _ := True
  moves _ s act _ := Inv (act.after s)

/-- A flow keeps to a protocol: whatever it finds when its turn comes, its step is a move, and so on
until it ends, with a result and a standing as `Q` says. -/
def Keeps (P : Protocol I σ G) : Flow I σ α → G → (α → G → Prop) → Prop
  | .done a, g, Q => Q a g
  | .access update next, g, Q =>
    ∀ s, P.relies g s → ∃ h, P.moves g s (.accessed update) h ∧ (next s).Keeps P h Q
  | .ask q next, g, Q =>
    ∀ s b, P.relies g s → P.answers q b → ∃ h, P.moves g s (.asked q b) h ∧ (next b).Keeps P h Q

variable {P : Protocol I σ G} {P' : Protocol I σ G'} {g : G}

theorem Keeps.mono {flow : Flow I σ α} {Q Q' : α → G → Prop} (h : flow.Keeps P g Q)
    (hQ : ∀ a g, Q a g → Q' a g) : flow.Keeps P g Q' := by
  induction flow generalizing g with
  | done a => exact hQ a g h
  | access update next ih =>
    intro s hs
    obtain ⟨g', hmove, hnext⟩ := h s hs
    exact ⟨g', hmove, ih s hnext⟩
  | ask q next ih =>
    intro s b hs hb
    obtain ⟨g', hmove, hnext⟩ := h s b hs hb
    exact ⟨g', hmove, ih b hnext⟩

/-- A flow that goes on after another keeps to a protocol if the other does, and ends where it can go
on. -/
theorem keeps_bind {flow : Flow I σ α} {k : α → Flow I σ β} {Q : β → G → Prop} :
    (flow.bind k).Keeps P g Q ↔ flow.Keeps P g fun a g => (k a).Keeps P g Q := by
  induction flow generalizing g with
  | done a => rfl
  | access update next ih =>
    simp only [bind, Keeps]
    refine forall₂_congr fun s _ => exists_congr fun g' => and_congr_right fun _ => ?_
    exact ih s
  | ask q next ih =>
    simp only [bind, Keeps]
    refine forall₄_congr fun s b _ _ => exists_congr fun g' => and_congr_right fun _ => ?_
    exact ih b

/-- As part of a larger flow, a flow that keeps to one protocol keeps to another one, if what the other
relies on is enough for the first, and a move of the first is a move of the other. -/
theorem Keeps.embed {get : τ → σ} {set : σ → τ → τ} {P' : Protocol I τ G'} {flow : Flow I σ α} {g' : G'}
    {Q : α → G → Prop} (h : flow.Keeps P g Q) (lift : G → G' → Prop) (hlift : lift g g')
    (hrelies : ∀ g g' t, lift g g' → P'.relies g' t → P.relies g (get t))
    (hanswers : ∀ q b, P'.answers q b → P.answers q b)
    (haccess : ∀ g g' t update h, lift g g' → P'.relies g' t →
      P.moves g (get t) (.accessed update) h →
      ∃ h', lift h h' ∧ P'.moves g' t (.accessed fun t => set (update (get t)) t) h')
    (hask : ∀ g g' t q b h, lift g g' → P'.relies g' t → P.moves g (get t) (.asked q b) h →
      ∃ h', lift h h' ∧ P'.moves g' t (.asked q b) h') :
    (flow.embed get set fun q => .ask q .done).Keeps P' g' fun a g' => ∃ g, lift g g' ∧ Q a g := by
  induction flow generalizing g g' with
  | done a => exact ⟨g, hlift, h⟩
  | access update next ih =>
    intro t ht
    obtain ⟨x, hmove, hnext⟩ := h (get t) (hrelies g g' t hlift ht)
    obtain ⟨x', hlift', hmove'⟩ := haccess g g' t update x hlift ht hmove
    exact ⟨x', hmove', ih (get t) hnext hlift'⟩
  | ask q next ih =>
    intro t b ht hb
    obtain ⟨x, hmove, hnext⟩ := h (get t) b (hrelies g g' t hlift ht) (hanswers q b hb)
    obtain ⟨x', hlift', hmove'⟩ := hask g g' t q b x hlift ht hmove
    exact ⟨x', hmove', ih b hnext hlift'⟩

/-- A flow that keeps to one protocol keeps to another one that relies on more and allows more. -/
theorem Keeps.weaken {P' : Protocol I σ G} {flow : Flow I σ α} {Q : α → G → Prop}
    (h : flow.Keeps P g Q) (hrelies : ∀ g s, P'.relies g s → P.relies g s)
    (hanswers : ∀ q b, P'.answers q b → P.answers q b)
    (hmoves : ∀ g s act g', P'.relies g s → P.moves g s act g' → P'.moves g s act g') :
    flow.Keeps P' g Q := by
  induction flow generalizing g with
  | done a => exact h
  | access update next ih =>
    intro s hs
    obtain ⟨g', hmove, hnext⟩ := h s (hrelies g s hs)
    exact ⟨g', hmoves g s _ g' hs hmove, ih s hnext⟩
  | ask q next ih =>
    intro s b hs hb
    obtain ⟨g', hmove, hnext⟩ := h s b (hrelies g s hs) (hanswers q b hb)
    exact ⟨g', hmoves g s _ g' hs hmove, ih b hnext⟩

theorem Keeps.and {flow : Flow I σ α} {g' : G'} {Q : α → G → Prop} {Q' : α → G' → Prop}
    (h : flow.Keeps P g Q) (h' : flow.Keeps P' g' Q') :
    flow.Keeps (P.and P') (g, g') fun a g => Q a g.1 ∧ Q' a g.2 := by
  induction flow generalizing g g' with
  | done a => exact ⟨h, h'⟩
  | access update next ih =>
    intro s hs
    obtain ⟨x, hmove, hnext⟩ := h s hs.1
    obtain ⟨x', hmove', hnext'⟩ := h' s hs.2
    exact ⟨(x, x'), ⟨hmove, hmove'⟩, ih s hnext hnext'⟩
  | ask q next ih =>
    intro s b hs hb
    obtain ⟨x, hmove, hnext⟩ := h s b hs.1 hb.1
    obtain ⟨x', hmove', hnext'⟩ := h' s b hs.2 hb.2
    exact ⟨(x, x'), ⟨hmove, hmove'⟩, ih b hnext hnext'⟩

theorem Keeps.step {R : Surroundings I W} {flow flow' : Flow I σ α} {s s' : σ} {w w' : W}
    {act : Act I σ} {Q : α → G → Prop} (hR : ∀ q b v, R w q b v → P.answers q b)
    (h : flow.Keeps P g Q) (hs : P.relies g s) (hstep : Step R flow s w act flow' s' w') :
    s' = act.after s ∧ act.Answered R w w' ∧ ∃ g', P.moves g s act g' ∧ flow'.Keeps P g' Q := by
  cases hstep with
  | access => exact ⟨rfl, rfl, h s hs⟩
  | ask answered => exact ⟨rfl, answered, h s _ hs (hR _ _ _ answered)⟩

theorem Keeps.ends {R : Surroundings I W} {flow : Flow I σ α} {s s' : σ} {w w' : W} {a : α}
    {Q : α → G → Prop} (Inv : G → σ → Prop) (h : flow.Keeps P g Q)
    (hR : ∀ w q b v, R w q b v → P.answers q b) (hrelies : ∀ g s, Inv g s → P.relies g s)
    (hmoves : ∀ g s act g', Inv g s → P.moves g s act g' → Inv g' (act.after s)) (hs : Inv g s)
    (hends : Ends R flow s w a s' w') : ∃ g', Inv g' s' ∧ Q a g' := by
  induction hends generalizing g with
  | done => exact ⟨g, hs, h⟩
  | access _ ih =>
    obtain ⟨g', hmove, hnext⟩ := h _ (hrelies g _ hs)
    exact ih hnext (hmoves _ _ _ _ hs hmove)
  | ask answered _ ih =>
    obtain ⟨g', hmove, hnext⟩ := h _ _ (hrelies g _ hs) (hR _ _ _ _ answered)
    exact ih hnext (hmoves _ _ _ _ hs hmove)

end DriverHub.Flow

namespace DriverHub.Attempt

variable {I : Interface} {σ ε G α β : Type} {P : Flow.Protocol I σ G} {g : G}

theorem keeps_bind {attempt : Attempt I σ ε α} {k : α → Attempt I σ ε β}
    {Q : Except ε β → G → Prop} :
    (attempt >>= k).run.Keeps P g Q ↔ attempt.run.Keeps P g fun x g =>
      match x with
      | .ok a => (k a).run.Keeps P g Q
      | .error e => Q (.error e) g := by
  refine Flow.keeps_bind.trans ⟨fun h => h.mono ?_, fun h => h.mono ?_⟩
  all_goals rintro (e | a) g h <;> exact h

theorem keeps_lift {flow : Flow I σ α} {Q : Except ε α → G → Prop} :
    (lift flow : Attempt I σ ε α).run.Keeps P g Q ↔ flow.Keeps P g fun a g => Q (.ok a) g :=
  Flow.keeps_bind

theorem keeps_of {δ : Type} {wrap : ε → δ} {flow : Flow I σ (Except ε α)}
    {Q : Except δ α → G → Prop} :
    (of wrap flow).run.Keeps P g Q ↔ flow.Keeps P g fun x g => Q (x.mapError wrap) g :=
  Flow.keeps_bind

theorem keeps_look {f : σ → α} {Q : Except ε α → G → Prop}
    (h : ∀ s, P.relies g s → ∃ g', P.moves g s (.accessed id) g' ∧ Q (.ok (f s)) g') :
    (look f : Attempt I σ ε α).run.Keeps P g Q := h

theorem keeps_change {f : σ → σ} {Q : Except ε Unit → G → Prop}
    (h : ∀ s, P.relies g s → ∃ g', P.moves g s (.accessed f) g' ∧ Q (.ok ()) g') :
    (change f : Attempt I σ ε Unit).run.Keeps P g Q := h

theorem keeps_some {e : ε} {a : Option α} {Q : Except ε α → G → Prop} (hnone : Q (.error e) g)
    (hsome : ∀ x, a = Option.some x → Q (.ok x) g) :
    (Attempt.some e a : Attempt I σ ε α).run.Keeps P g Q := by
  cases a with
  | none => exact hnone
  | some x => exact hsome x rfl

end DriverHub.Attempt
