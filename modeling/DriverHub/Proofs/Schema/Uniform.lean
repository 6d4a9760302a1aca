import DriverHub.Proofs.Schema.Conforms
import DriverHub.Schema.Migrate

/-! Values whose lists are each of one kind. Migration judges a list by its first item alone; where that
item speaks for all, whatever the value was, the outcome conforms to a plain schema. -/

namespace DriverHub

/-- At every depth all items of a list are of one kind, and all floats are finite. -/
inductive Value.Uniform : Value → Prop
  | null : Uniform .null
  | int (i : Int64) : Uniform (.int i)
  | float {x : Binary64} (finite : x.isFinite = true) : Uniform (.float x)
  | bool (b : Bool) : Uniform (.bool b)
  | str (s : String) : Uniform (.str s)
  | range (r : Range) : Uniform (.range r)
  | list {items : List Value} (kinds : ∀ v ∈ items, ∀ w ∈ items, v.kind = w.kind)
      (uniform : ∀ v ∈ items, Uniform v) : Uniform (.list items)
  | absent : Uniform .absent
  | present {held : Value} (uniform : Uniform held) : Uniform (.present held)
  | object {members : List (String × Value)} (uniform : ∀ name v, (name, v) ∈ members → Uniform v) :
    Uniform (.object members)

namespace AtomKind

/-- The kind of the values of an atom. -/
def valueKind : AtomKind → ValueKind
  | int => .int
  | float => .float
  | bool => .bool
  | string => .string

theorem kind_of_holds {kind : AtomKind} {v : Value} (h : kind.Holds v) : v.kind = kind.valueKind := by
  cases kind <;> cases v <;> first | rfl | exact h.elim

theorem uniform_of_holds {kind : AtomKind} {v : Value} (h : kind.Holds v) : v.Uniform := by
  cases v with
  | int i => exact .int i
  | bool b => exact .bool b
  | str s => exact .str s
  | float x => cases kind <;> first | exact .float h | exact h.elim
  | null | range | list | absent | present | object => cases kind <;> exact h.elim

end AtomKind

namespace Schema

/-- The kind of the values of a schema. -/
def valueKind : Schema → ValueKind
  | .atom kind => kind.valueKind
  | .list _ => .list
  | .option _ => .option
  | .struct _ => .object

theorem matchesKind_eq (schema : Schema) (v : Value) :
    schema.matchesKind v = decide (v.kind = schema.valueKind) := by
  cases schema with
  | atom kind => cases kind <;> cases v <;> rfl
  | list | option | struct => cases v <;> rfl

theorem matchesKind_congr (schema : Schema) {v w : Value} (h : v.kind = w.kind) :
    schema.matchesKind v = schema.matchesKind w := by
  rw [matchesKind_eq, matchesKind_eq, h]

theorem holds_of_matchesKind {kind : AtomKind} {v : Value} (h : v.Uniform)
    (fits : (Schema.atom kind).matchesKind v = true) : kind.Holds v := by
  cases h with
  | float finite => cases kind <;> first | exact finite | cases fits
  | null | int | bool | str | range | list | absent | present | object =>
    cases kind <;> trivial

theorem uniform_of_field? {name : String} {v w : Value} (h : v.Uniform) (hw : v.field? name = some w) :
    w.Uniform := by
  cases h with
  | object uniform => exact uniform name w (Dict.mem_of_find? hw)
  | null | int | float | bool | str | range | list | absent | present => cases hw

mutual

/-- What is carried over from a uniform value conforms to the new schema. -/
theorem conforms_migrate : (schema : Schema) → schema.Plain → {old : Value} → old.Uniform →
    schema.Conforms (schema.migrate old)
  | .atom kind, _, old, h => by
    unfold migrate Conforms
    split
    · next fits => exact holds_of_matchesKind h fits
    · exact holds_zero kind
  | .option inner, hplain, old, h => by
    unfold Plain at hplain
    obtain ⟨kind, rfl⟩ := hplain
    unfold migrate
    cases h with
    | present uniform =>
      simp only
      split
      · next fits =>
        unfold Conforms Conforms
        exact holds_of_matchesKind uniform fits
      · unfold Conforms
        trivial
    | null | int | float | bool | str | range | list | absent | object =>
      unfold Conforms
      trivial
  | .list inner, hplain, old, h => by
    unfold Plain at hplain
    obtain ⟨kind, rfl⟩ := hplain
    unfold migrate
    cases h with
    | @list items kinds uniform =>
      simp only
      split
      · next fits =>
        unfold Conforms
        intro v hv
        unfold Conforms
        cases items with
        | nil => cases hv
        | cons first rest =>
          -- the first item speaks for all, since all are of one kind
          have hsame := (Schema.atom kind).matchesKind_congr (kinds v hv first List.mem_cons_self)
          exact holds_of_matchesKind (uniform v hv) (hsame.trans fits)
      · unfold Conforms
        exact nofun
    | null | int | float | bool | str | range | absent | present | object =>
      unfold Conforms
      exact nofun
  | .struct fields, hplain, old, h => by
    unfold Plain at hplain
    unfold migrate
    exact conforms_ofFields hplain.1 (entered_migrateFields fields hplain.2 h)

theorem entered_migrateFields : (fields : List (String × Schema)) → PlainFields fields →
    {old : Value} → old.Uniform → Entered fields (migrateFields fields old)
  | [], _, old, _ => .nil
  | (name, schema) :: rest, hplain, old, h => by
    unfold PlainFields at hplain
    unfold migrateFields
    refine .cons ⟨rfl, ?_⟩ (entered_migrateFields rest hplain.2 h)
    cases hfield : old.field? name with
    | none => exact conforms_zero schema hplain.1.distinct
    | some previous => exact conforms_migrate schema hplain.1 (uniform_of_field? h hfield)

end

end Schema

end DriverHub
