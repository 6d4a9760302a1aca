import DriverHub.Proofs.Dict
import DriverHub.Schema.Migrate
import Mathlib.Data.String.Basic

/-! Values that migration leaves as they are. Whatever a value was and whatever the schema is, be it one
in which names repeat, what migration makes of the value is left as it is by the next one. -/

namespace DriverHub

/-- A value with which migration to a schema has nothing left to do. The items of a list are not looked
into, and of the fields of a struct under one name the last counts. -/
inductive Value.Settled : Value → Schema → Prop
  | atom {kind : AtomKind} {v : Value} (fits : (Schema.atom kind).matchesKind v = true) :
    Settled v (.atom kind)
  | list {inner : Schema} {items : List Value} (fits : inner.fitsHead items = true) :
    Settled (.list items) (.list inner)
  | absent {inner : Schema} : Settled .absent (.option inner)
  | present {inner : Schema} {held : Value} (fits : inner.matchesKind held = true) :
    Settled (.present held) (.option inner)
  | struct {fields : List (String × Schema)} {members : List (String × Value)}
      (sorted : Dict.Sorted members)
      (names : ∀ name, (Dict.find? name members).isSome ↔ (Dict.find? name (Dict.ofList fields)).isSome)
      (settled : ∀ name schema v, Dict.find? name (Dict.ofList fields) = some schema →
        Dict.find? name members = some v → Settled v schema) :
    Settled (.object members) (.struct fields)

namespace Schema

/-- The value that a singleton goes on with, where there may be nothing to carry over. -/
def renew (schema : Schema) : Option Value → Value
  | some old => schema.migrate old
  | none => schema.zero

theorem zeroFields_eq_map (fields : List (String × Schema)) :
    zeroFields fields = fields.map fun field => (field.1, field.2.zero) := by
  induction fields with
  | nil => rfl
  | cons field rest ih => simp [zeroFields, ih]

theorem migrateFields_eq_map (fields : List (String × Schema)) (old : Value) :
    migrateFields fields old = fields.map fun field => (field.1, field.2.renew (old.field? field.1)) := by
  induction fields with
  | nil => rfl
  | cons field rest ih =>
    simp only [migrateFields, ih, List.map_cons]
    cases old.field? field.1 <;> rfl

theorem renew_struct (fields : List (String × Schema)) (old : Option Value) :
    (Schema.struct fields).renew old =
      .ofFields (fields.map fun field => (field.1, field.2.renew (old.bind (Value.field? field.1)))) := by
  cases old with
  | none => simp [renew, zero, zeroFields_eq_map]
  | some v => simp [renew, migrate, migrateFields_eq_map]

theorem renew_struct_eq_object (fields : List (String × Schema)) (old : Option Value) :
    (Schema.struct fields).renew old = .object ((Dict.ofList fields).map fun field =>
      (field.1, field.2.renew (old.bind (Value.field? field.1)))) := by
  rw [renew_struct]
  exact congrArg Value.object (Dict.ofList_map
    (fun name (schema : Schema) => schema.renew (old.bind (Value.field? name))) fields)

theorem migrate_of_settled {schema : Schema} {v : Value} (h : v.Settled schema) :
    schema.migrate v = v := by
  induction h with
  | atom fits => simp [migrate, fits]
  | list fits => simp [migrate, fits]
  | absent => simp [migrate]
  | present fits => simp [migrate, fits]
  | @struct fields members sorted names _ ih =>
    change (Schema.struct fields).renew (some (.object members)) = _
    rw [renew_struct_eq_object]
    -- both are sorted, so it is enough that each field stays
    have hsorted : Dict.Sorted ((Dict.ofList fields).map fun field =>
        (field.1, field.2.renew ((some (Value.object members)).bind (Value.field? field.1)))) :=
      List.Pairwise.map _ (fun _ _ hlt => hlt) (Dict.sorted_ofList fields)
    refine congrArg Value.object (Dict.ext_of_sorted hsorted sorted fun name => ?_)
    rw [Dict.find?_map fun name (schema : Schema) =>
      schema.renew ((some (Value.object members)).bind (Value.field? name))]
    cases hfield : Dict.find? name (Dict.ofList fields) with
    | none =>
      have hnone := names name
      rw [hfield] at hnone
      exact (Option.not_isSome_iff_eq_none.1 fun hsome => absurd (hnone.1 hsome) nofun).symm
    | some schema =>
      obtain ⟨w, hw⟩ := Option.isSome_iff_exists.1 ((names name).2 (by rw [hfield]; rfl))
      have hsame : schema.migrate w = w := ih name schema w hfield hw
      simp [Value.field?, hw, renew, hsame]

mutual

/-- Whatever there was before, a singleton goes on with a settled value. -/
theorem settled_renew : (schema : Schema) → (old : Option Value) → (schema.renew old).Settled schema
  | .atom kind, old => by
    have hzero : kind.zero.Settled (.atom kind) := by cases kind <;> exact .atom rfl
    cases old with
    | none => exact hzero
    | some v =>
      change ((Schema.atom kind).migrate v).Settled _
      unfold migrate
      split
      · next fits => exact .atom fits
      · exact hzero
  | .list inner, old => by
    cases old with
    | none => exact .list rfl
    | some v =>
      change ((Schema.list inner).migrate v).Settled _
      unfold migrate
      split
      · split
        · next fits => exact .list fits
        · exact .list rfl
      · exact .list rfl
  | .option inner, old => by
    cases old with
    | none => exact .absent
    | some v =>
      change ((Schema.option inner).migrate v).Settled _
      unfold migrate
      split
      · split
        · next fits => exact .present fits
        · exact .absent
      · exact .absent
  | .struct fields, old => by
    have hfind (name : String) : Dict.find? name ((Dict.ofList fields).map fun field =>
        (field.1, field.2.renew (old.bind (Value.field? field.1)))) =
        (Dict.find? name (Dict.ofList fields)).map fun schema =>
          schema.renew (old.bind (Value.field? name)) :=
      Dict.find?_map (fun name (schema : Schema) => schema.renew (old.bind (Value.field? name))) name _
    rw [renew_struct_eq_object]
    refine .struct (List.Pairwise.map _ (fun _ _ hlt => hlt) (Dict.sorted_ofList fields)) ?_ ?_
    · intro name
      rw [hfind, Option.isSome_map]
    · intro name schema v hfield hv
      rw [hfind, hfield] at hv
      obtain rfl := Option.some.inj hv
      exact settled_renewField fields (Dict.mem_of_mem_ofList (Dict.mem_of_find? hfield)) _

theorem settled_renewField : (fields : List (String × Schema)) → {name : String} → {schema : Schema} →
    (name, schema) ∈ fields → (old : Option Value) → (schema.renew old).Settled schema
  | (name, schema) :: rest, name', schema', hmem, old => by
    rcases List.mem_cons.1 hmem with heq | hmem
    · cases heq
      exact settled_renew schema old
    · exact settled_renewField rest hmem old

end

theorem migrate_eq_self_iff {schema : Schema} {v : Value} : schema.migrate v = v ↔ v.Settled schema := by
  refine ⟨fun h => ?_, migrate_of_settled⟩
  rw [← h]
  exact settled_renew schema (some v)

/-- To migrate a value twice is to migrate it once. -/
theorem migrate_migrate (schema : Schema) (v : Value) :
    schema.migrate (schema.migrate v) = schema.migrate v :=
  migrate_of_settled (settled_renew schema (some v))

/-- Of two fields of one name the last counts, and a list is kept for the sake of its first item. -/
example :
    let schema : Schema := .struct [("at", .atom .int), ("at", .list (.atom .bool))]
    let settled : Value := .object [("at", .list [.bool true, .null])]
    schema.migrate (.object [("at", .list [.bool true, .null]), ("on", .bool true)]) = settled ∧
      schema.migrate settled = settled := ⟨rfl, rfl⟩

end Schema

end DriverHub
