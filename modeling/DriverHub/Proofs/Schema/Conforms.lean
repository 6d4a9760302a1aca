import DriverHub.Proofs.Dict
import DriverHub.Proofs.Number.Binary64
import DriverHub.Schema.Decode
import DriverHub.Value.Marshal
import Mathlib.Data.String.Basic

/-! Values that conform to a schema in which no field occurs twice. What is read as such a schema says
conforms to it, and what conforms is read back as it was, unless an absent option inside another is
lost. In plain schemas lists and options hold atoms, so that cannot happen there. -/

namespace DriverHub

/-- A value of the kind of an atom; floats are finite. -/
def AtomKind.Holds : AtomKind → Value → Prop
  | int, .int _ => True
  | float, .float x => x.isFinite = true
  | bool, .bool _ => True
  | string, .str _ => True
  | _, _ => False

namespace Value

mutual

/-- No option inside holds an absent option; as a tree, such a value would be null like the absent
option itself. -/
def Solid : Value → Prop
  | .present held => held ≠ .absent ∧ held.Solid
  | .list items => SolidItems items
  | .object fields => SolidFields fields
  | _ => True

def SolidItems : List Value → Prop
  | [] => True
  | v :: rest => v.Solid ∧ SolidItems rest

def SolidFields : List (String × Value) → Prop
  | [] => True
  | (_, v) :: rest => v.Solid ∧ SolidFields rest

end

theorem solidItems_iff {items : List Value} : SolidItems items ↔ ∀ v ∈ items, v.Solid := by
  induction items with
  | nil =>
    unfold SolidItems
    exact ⟨fun _ => nofun, fun _ => trivial⟩
  | cons v rest ih =>
    unfold SolidItems
    rw [ih, List.forall_mem_cons]

theorem solidFields_iff {fields : List (String × Value)} :
    SolidFields fields ↔ ∀ name v, (name, v) ∈ fields → v.Solid := by
  induction fields with
  | nil =>
    unfold SolidFields
    exact ⟨fun _ => nofun, fun _ => trivial⟩
  | cons field rest ih =>
    obtain ⟨name, v⟩ := field
    unfold SolidFields
    rw [ih]
    constructor
    · rintro ⟨hv, hrest⟩ name' v' hmem
      rcases List.mem_cons.1 hmem with heq | hmem
      · cases heq
        exact hv
      · exact hrest name' v' hmem
    · intro h
      exact ⟨h name v List.mem_cons_self, fun name' v' hmem =>
        h name' v' (List.mem_cons_of_mem _ hmem)⟩

end Value

namespace AtomKind

theorem solid_of_holds {kind : AtomKind} {v : Value} (h : kind.Holds v) : v.Solid := by
  cases v with
  | null | int | float | bool | str | range | absent => unfold Value.Solid; trivial
  | list | present | object => cases kind <;> exact h.elim

theorem ne_absent_of_holds {kind : AtomKind} {v : Value} (h : kind.Holds v) : v ≠ .absent := by
  rintro rfl
  cases kind <;> exact h.elim

end AtomKind

namespace Schema

mutual

/-- A value has the shape of a schema, with all fields of a struct and no others. -/
def Conforms : Schema → Value → Prop
  | .atom kind, v => kind.Holds v
  | .list inner, .list items => ∀ v ∈ items, inner.Conforms v
  | .option _, .absent => True
  | .option inner, .present held => inner.Conforms held
  | .struct fields, .object members =>
    Dict.Sorted members ∧ ConformsFields fields members ∧
      ∀ name v, (name, v) ∈ members → ∃ schema, (name, schema) ∈ fields
  | _, _ => False

def ConformsFields : List (String × Schema) → List (String × Value) → Prop
  | [], _ => True
  | (name, schema) :: rest, members =>
    (∃ v, Dict.find? name members = some v ∧ schema.Conforms v) ∧ ConformsFields rest members

end

mutual

/-- No struct has two fields of one name. -/
def Distinct : Schema → Prop
  | .atom _ => True
  | .list inner => inner.Distinct
  | .option inner => inner.Distinct
  | .struct fields => (fields.map (·.1)).Nodup ∧ DistinctFields fields

def DistinctFields : List (String × Schema) → Prop
  | [] => True
  | (_, schema) :: rest => schema.Distinct ∧ DistinctFields rest

end

mutual

/-- No struct has two fields of one name, and lists and options hold atoms. -/
def Plain : Schema → Prop
  | .atom _ => True
  | .list inner => ∃ kind, inner = .atom kind
  | .option inner => ∃ kind, inner = .atom kind
  | .struct fields => (fields.map (·.1)).Nodup ∧ PlainFields fields

def PlainFields : List (String × Schema) → Prop
  | [] => True
  | (_, schema) :: rest => schema.Plain ∧ PlainFields rest

end

theorem distinct_atom (kind : AtomKind) : (Schema.atom kind).Distinct := by
  unfold Distinct
  trivial

mutual

theorem Plain.distinct : {schema : Schema} → schema.Plain → schema.Distinct
  | .atom kind, _ => distinct_atom kind
  | .list inner, h => by
    unfold Plain at h
    obtain ⟨kind, rfl⟩ := h
    unfold Distinct
    exact distinct_atom kind
  | .option inner, h => by
    unfold Plain at h
    obtain ⟨kind, rfl⟩ := h
    unfold Distinct
    exact distinct_atom kind
  | .struct fields, h => by
    unfold Plain at h
    unfold Distinct
    exact ⟨h.1, PlainFields.distinct h.2⟩

theorem PlainFields.distinct : {fields : List (String × Schema)} → PlainFields fields →
    DistinctFields fields
  | [], _ => by
    unfold DistinctFields
    trivial
  | (_, schema) :: rest, h => by
    unfold PlainFields at h
    unfold DistinctFields
    exact ⟨Plain.distinct h.1, PlainFields.distinct h.2⟩

end

/-- The entries are those of the fields, in their order, and each conforms. -/
def Entered (fields : List (String × Schema)) (entries : List (String × Value)) : Prop :=
  List.Forall₂ (fun field entry => field.1 = entry.1 ∧ field.2.Conforms entry.2) fields entries

theorem Entered.names {fields : List (String × Schema)} {entries : List (String × Value)}
    (h : Entered fields entries) : entries.map (·.1) = fields.map (·.1) := by
  induction h with
  | nil => rfl
  | cons he _ ih => rw [List.map_cons, List.map_cons, he.1, ih]

theorem conformsFields_iff {fields : List (String × Schema)} {members : List (String × Value)} :
    ConformsFields fields members ↔ ∀ name schema, (name, schema) ∈ fields →
      ∃ v, Dict.find? name members = some v ∧ schema.Conforms v := by
  induction fields with
  | nil =>
    unfold ConformsFields
    exact ⟨fun _ => nofun, fun _ => trivial⟩
  | cons field rest ih =>
    obtain ⟨name, schema⟩ := field
    unfold ConformsFields
    rw [ih]
    constructor
    · rintro ⟨hfirst, hrest⟩ name' schema' hmem
      rcases List.mem_cons.1 hmem with heq | hmem
      · cases heq
        exact hfirst
      · exact hrest name' schema' hmem
    · intro h
      exact ⟨h name schema List.mem_cons_self, fun name' schema' hmem =>
        h name' schema' (List.mem_cons_of_mem _ hmem)⟩

theorem Entered.exists_entry {fields : List (String × Schema)} {entries : List (String × Value)}
    (h : Entered fields entries) {name : String} {schema : Schema} (hmem : (name, schema) ∈ fields) :
    ∃ v, (name, v) ∈ entries ∧ schema.Conforms v := by
  induction h with
  | nil => cases hmem
  | @cons field entry _ _ he _ ih =>
    obtain ⟨hname, hv⟩ := he
    rcases List.mem_cons.1 hmem with rfl | hmem
    · obtain ⟨_, v⟩ := entry
      cases hname
      exact ⟨v, List.mem_cons_self, hv⟩
    · obtain ⟨v, hin, hv⟩ := ih hmem
      exact ⟨v, List.mem_cons_of_mem _ hin, hv⟩

/-- An object that is made from its fields conforms. -/
theorem conforms_ofFields {fields : List (String × Schema)} {entries : List (String × Value)}
    (hnodup : (fields.map (·.1)).Nodup) (h : Entered fields entries) :
    (Schema.struct fields).Conforms (.ofFields entries) := by
  unfold Value.ofFields Conforms
  refine ⟨Dict.sorted_ofList entries, ?_, ?_⟩
  · rw [conformsFields_iff]
    intro name schema hmem
    obtain ⟨v, hin, hv⟩ := h.exists_entry hmem
    rw [← h.names] at hnodup
    exact ⟨v, Dict.find?_ofList_of_mem hnodup hin, hv⟩
  · intro name v hmem
    have hname : name ∈ fields.map (·.1) := by
      rw [← h.names]
      exact List.mem_map.2 ⟨(name, v), Dict.mem_of_mem_ofList hmem, rfl⟩
    obtain ⟨⟨_, schema⟩, hin, rfl⟩ := List.mem_map.1 hname
    exact ⟨schema, hin⟩

theorem plain_single (name : String) (kind : AtomKind) :
    (Schema.struct [(name, .atom kind)]).Plain := by
  unfold Plain PlainFields PlainFields Plain
  exact ⟨List.nodup_singleton name, trivial, trivial⟩

theorem conforms_single {v : Value} (name : String) (kind : AtomKind) (h : kind.Holds v) :
    (Schema.struct [(name, .atom kind)]).Conforms (.object [(name, v)]) := by
  have hentered : Entered [(name, .atom kind)] [(name, v)] := by
    refine .cons ⟨rfl, ?_⟩ .nil
    unfold Conforms
    exact h
  have hnodup : (([(name, .atom kind)] : List (String × Schema)).map (·.1)).Nodup :=
    List.nodup_singleton name
  exact conforms_ofFields hnodup hentered

theorem holds_zero (kind : AtomKind) : kind.Holds kind.zero := by
  cases kind <;> trivial

mutual

theorem conforms_zero : (schema : Schema) → schema.Distinct → schema.Conforms schema.zero
  | .atom kind, _ => by
    unfold zero Conforms
    exact holds_zero kind
  | .list inner, _ => by
    unfold zero Conforms
    exact nofun
  | .option inner, _ => by
    unfold zero Conforms
    trivial
  | .struct fields, h => by
    unfold Distinct at h
    unfold zero
    exact conforms_ofFields h.1 (entered_zero fields h.2)

theorem entered_zero : (fields : List (String × Schema)) → DistinctFields fields →
    Entered fields (zeroFields fields)
  | [], _ => .nil
  | (name, schema) :: rest, h => by
    unfold DistinctFields at h
    unfold zeroFields
    exact .cons ⟨rfl, conforms_zero schema h.1⟩ (entered_zero rest h.2)

end

end Schema

end DriverHub
