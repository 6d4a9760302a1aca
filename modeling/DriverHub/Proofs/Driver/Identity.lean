import DriverHub.Driver.Identity
import DriverHub.Proofs.Text.Split
import Mathlib.Data.Set.Function

/-! Which texts are program identifiers. A driver is read back from the identifier of its program if its
vendor and its model can be told apart there, and from no other text. -/

namespace DriverHub.DriverId

/-- A vendor or a model that can stand in a program identifier. -/
def IsName (name : String) : Prop := name ≠ "" ∧ ':' ∉ name.toList

instance (name : String) : Decidable (IsName name) :=
  inferInstanceAs (Decidable (name ≠ "" ∧ ':' ∉ name.toList))

/-- The identities that can be read off their program identifiers. -/
structure Legible (id : DriverId) : Prop where
  vendor : IsName id.vendor
  model : IsName id.model

theorem legible_iff {id : DriverId} : id.Legible ↔ IsName id.vendor ∧ IsName id.model :=
  ⟨fun h => ⟨h.vendor, h.model⟩, fun h => ⟨h.1, h.2⟩⟩

instance (id : DriverId) : Decidable id.Legible := decidable_of_iff _ legible_iff.symm

theorem toList_programId (id : DriverId) : id.programId.toList =
    programMark.toList ++ ':' :: (id.vendor.toList ++ ':' :: id.model.toList) := by
  simp [programId, text]

theorem split_programId (id : DriverId) : Text.split ':' id.programId.toList =
    programMark.toList :: (Text.split ':' id.vendor.toList ++ Text.split ':' id.model.toList) := by
  rw [toList_programId, Text.split_append, Text.split_append, Text.split_of_not_mem (by decide),
    List.singleton_append]

theorem ofProgramId?_eq_some {text : String} {id : DriverId} : ofProgramId? text = some id ↔
    Text.split ':' text.toList = [programMark.toList, id.vendor.toList, id.model.toList] ∧
      id.vendor ≠ "" ∧ id.model ≠ "" := by
  obtain ⟨vendor, model⟩ := id
  unfold ofProgramId?
  split
  · next mark v m hsplit =>
    rw [hsplit]
    constructor
    · intro h
      obtain ⟨⟨rfl, hvendor, hmodel⟩, hid⟩ := Option.ite_none_right_eq_some.1 h
      cases hid
      simpa using ⟨hvendor, hmodel⟩
    · rintro ⟨hparts, hvendor, hmodel⟩
      cases hparts
      simpa using ⟨hvendor, hmodel⟩
  · next hother =>
    refine iff_of_false nofun ?_
    rintro ⟨hsplit, -⟩
    exact hother _ _ _ hsplit

theorem ofProgramId?_eq_some_iff {text : String} {id : DriverId} :
    ofProgramId? text = some id ↔ text = id.programId ∧ id.Legible := by
  rw [ofProgramId?_eq_some, Text.split_eq_three_iff, ← toList_programId, String.toList_inj, legible_iff]
  have hmark : ':' ∉ programMark.toList := by decide
  constructor
  · rintro ⟨⟨htext, -, hvendor, hmodel⟩, hvendorNe, hmodelNe⟩
    exact ⟨htext, ⟨hvendorNe, hvendor⟩, hmodelNe, hmodel⟩
  · rintro ⟨htext, ⟨hvendorNe, hvendor⟩, hmodelNe, hmodel⟩
    exact ⟨⟨htext, hmark, hvendor, hmodel⟩, hvendorNe, hmodelNe⟩

/-- No other driver, whatever its vendor and model, has the same program identifier. -/
theorem Legible.eq_of_programId_eq {id other : DriverId} (h : id.Legible)
    (heq : other.programId = id.programId) : other = id := by
  have hself : ofProgramId? id.programId = some id := ofProgramId?_eq_some_iff.2 ⟨rfl, h⟩
  have hsplit := (ofProgramId?_eq_some.1 hself).1
  rw [← heq, split_programId] at hsplit
  obtain ⟨hvendor, hmodel⟩ := Text.eq_of_split_append_split (List.cons.inj hsplit).2
  cases id
  cases other
  rw [mk.injEq, ← String.toList_inj, ← String.toList_inj]
  exact ⟨hvendor, hmodel⟩

/-- Writing and reading program identifiers are inverse: a text is read as a driver just if it is the
identifier of that driver, and vendor and model can be told apart in it. These drivers have identifiers that
differ, and the identifier of any other driver is rejected. -/
theorem programId_inverse :
    (∀ text id, ofProgramId? text = some id ↔ text = id.programId ∧ id.Legible) ∧
      Set.InjOn programId {id | id.Legible} ∧
      ∀ id : DriverId, ofProgramId? id.programId = none ↔ ¬ id.Legible := by
  refine ⟨fun _ _ => ofProgramId?_eq_some_iff, fun id h other _ heq => ?_, fun id => ?_⟩
  · exact (h.eq_of_programId_eq heq.symm).symm
  · rw [Option.eq_none_iff_forall_ne_some]
    constructor
    · intro hnone hlegible
      exact hnone id (ofProgramId?_eq_some_iff.2 ⟨rfl, hlegible⟩)
    · intro hillegible other hother
      obtain ⟨heq, hlegible⟩ := ofProgramId?_eq_some_iff.1 hother
      exact hillegible (hlegible.eq_of_programId_eq heq ▸ hlegible)

/-- A colon that belongs to a name is taken for one between names. -/
theorem programId_inverse_plug :
    Legible ⟨"shelly", "plug-s"⟩ ∧
      ofProgramId? "@driver:shelly:plug-s" = some ⟨"shelly", "plug-s"⟩ ∧
      programId ⟨"shelly", "plug"⟩ ≠ programId ⟨"shelly", "plug-s"⟩ ∧
      ofProgramId? (programId ⟨"shelly", "plug:s"⟩) = none := by
  have hlegible : Legible ⟨"shelly", "plug-s"⟩ := by decide
  have hplug : Legible ⟨"shelly", "plug"⟩ := by decide
  refine ⟨hlegible, (programId_inverse.1 _ _).2 ⟨rfl, hlegible⟩, fun heq => ?_,
    (programId_inverse.2.2 _).2 (by decide)⟩
  exact absurd (programId_inverse.2.1 hplug hlegible heq) (by decide)

end DriverHub.DriverId
