import DriverHub.Schema.Lower
import Mathlib.Tactic.Common

/-! Which types have a schema: those in which, at every depth, there are only data types. The schema
mirrors the type field by field, and of all other types the first one inside is named. -/

namespace DriverHub

/-- The first item of a list with a property. -/
def IsFirst {α : Type} (p : α → Prop) (items : List α) (item : α) : Prop :=
  ∃ before after, items = before ++ item :: after ∧ p item ∧ ∀ earlier ∈ before, ¬ p earlier

theorem find?_eq_some_iff_isFirst {α : Type} {p : α → Prop} [DecidablePred p] {items : List α}
    {item : α} : items.find? (fun a => decide (p a)) = some item ↔ IsFirst p items item := by
  rw [List.find?_eq_some_iff_append]
  constructor
  · rintro ⟨hitem, before, after, heq, hbefore⟩
    refine ⟨before, after, heq, of_decide_eq_true hitem, fun earlier hearlier hp => ?_⟩
    have hfalse := hbefore earlier hearlier
    simp [hp] at hfalse
  · rintro ⟨before, after, heq, hitem, hbefore⟩
    refine ⟨decide_eq_true hitem, before, after, heq, fun earlier hearlier => ?_⟩
    simpa using hbefore earlier hearlier

namespace ScriptType

/-- The types that data may be made of, whatever is inside them. -/
inductive Plain : ScriptType → Prop
  | int : Plain .int
  | float : Plain .float
  | bool : Plain .bool
  | str : Plain .str
  | list (inner : ScriptType) : Plain (.list inner)
  | option (inner : ScriptType) : Plain (.option inner)
  | object (fields : List (String × ScriptType)) : Plain (.object fields)

instance decidablePlain : DecidablePred Plain
  | .int => isTrue .int
  | .float => isTrue .float
  | .bool => isTrue .bool
  | .str => isTrue .str
  | .list inner => isTrue (.list inner)
  | .option inner => isTrue (.option inner)
  | .object fields => isTrue (.object fields)
  | .null | .range | .any | .never | .unknown | .function _ _ | .union _ => isFalse nofun

mutual

/-- A type and all types inside it, in the order in which they are written. -/
def parts : ScriptType → List ScriptType
  | .list inner => .list inner :: inner.parts
  | .option inner => .option inner :: inner.parts
  | .object fields => .object fields :: fieldParts fields
  | other => [other]

def fieldParts : List (String × ScriptType) → List ScriptType
  | [] => []
  | (_, type) :: rest => type.parts ++ fieldParts rest

end

/-- At every depth there are only plain types. -/
def IsData (type : ScriptType) : Prop := ∀ part ∈ type.parts, part.Plain

/-- The first type inside that is not plain. -/
def Culprit (type culprit : ScriptType) : Prop := IsFirst (fun part => ¬ part.Plain) type.parts culprit

mutual

/-- The schema is the type over again, with the same fields in the same order. -/
inductive Mirrors : ScriptType → Schema → Prop
  | int : Mirrors .int (.atom .int)
  | float : Mirrors .float (.atom .float)
  | bool : Mirrors .bool (.atom .bool)
  | str : Mirrors .str (.atom .string)
  | list {inner : ScriptType} {schema : Schema} (h : Mirrors inner schema) :
    Mirrors (.list inner) (.list schema)
  | option {inner : ScriptType} {schema : Schema} (h : Mirrors inner schema) :
    Mirrors (.option inner) (.option schema)
  | object {fields : List (String × ScriptType)} {schemas : List (String × Schema)}
    (h : MirrorsEach fields schemas) : Mirrors (.object fields) (.struct schemas)

inductive MirrorsEach : List (String × ScriptType) → List (String × Schema) → Prop
  | nil : MirrorsEach [] []
  | cons {name : String} {type : ScriptType} {schema : Schema} {fields : List (String × ScriptType)}
    {schemas : List (String × Schema)} (h : Mirrors type schema) (rest : MirrorsEach fields schemas) :
    MirrorsEach ((name, type) :: fields) ((name, schema) :: schemas)

end

/-- The first type inside that is not plain, if there is one. -/
def culprit? (type : ScriptType) : Option ScriptType :=
  type.parts.find? fun part => decide (¬ part.Plain)

theorem culprit?_eq_some_iff {type culprit : ScriptType} :
    type.culprit? = some culprit ↔ type.Culprit culprit :=
  find?_eq_some_iff_isFirst

theorem culprit?_eq_none_iff {type : ScriptType} : type.culprit? = none ↔ type.IsData := by
  unfold culprit? IsData
  simp

mutual

/-- A type without a culprit is mirrored by its schema; otherwise the culprit is named. -/
theorem lower_cases : ∀ type : ScriptType,
    (∃ schema, type.lower = .ok schema ∧ type.Mirrors schema ∧ type.culprit? = none) ∨
      ∃ culprit, type.lower = .error culprit ∧ type.culprit? = some culprit
  | .int => .inl ⟨_, rfl, .int, rfl⟩
  | .float => .inl ⟨_, rfl, .float, rfl⟩
  | .bool => .inl ⟨_, rfl, .bool, rfl⟩
  | .str => .inl ⟨_, rfl, .str, rfl⟩
  | .list inner => by
    rcases lower_cases inner with ⟨schema, hlower, hmirrors, hnone⟩ | ⟨culprit, hlower, hsome⟩
    · refine .inl ⟨.list schema, ?_, .list hmirrors, hnone⟩
      simp only [lower, hlower]
    · refine .inr ⟨culprit, ?_, hsome⟩
      simp only [lower, hlower]
  | .option inner => by
    rcases lower_cases inner with ⟨schema, hlower, hmirrors, hnone⟩ | ⟨culprit, hlower, hsome⟩
    · refine .inl ⟨.option schema, ?_, .option hmirrors, hnone⟩
      simp only [lower, hlower]
    · refine .inr ⟨culprit, ?_, hsome⟩
      simp only [lower, hlower]
  | .object fields => by
    rcases lowerFields_cases fields with ⟨schemas, hlower, hmirrors, hnone⟩ | ⟨culprit, hlower, hsome⟩
    · refine .inl ⟨.struct schemas, ?_, .object hmirrors, hnone⟩
      simp only [lower, hlower]
    · refine .inr ⟨culprit, ?_, hsome⟩
      simp only [lower, hlower]
  | .null | .range | .any | .never | .unknown | .function _ _ | .union _ => .inr ⟨_, rfl, rfl⟩

theorem lowerFields_cases : ∀ fields : List (String × ScriptType),
    (∃ schemas, lowerFields fields = .ok schemas ∧ MirrorsEach fields schemas ∧
        (fieldParts fields).find? (fun part => decide (¬ part.Plain)) = none) ∨
      ∃ culprit, lowerFields fields = .error culprit ∧
        (fieldParts fields).find? (fun part => decide (¬ part.Plain)) = some culprit
  | [] => .inl ⟨[], rfl, .nil, rfl⟩
  | (name, type) :: rest => by
    simp only [fieldParts, List.find?_append, lowerFields]
    rcases lower_cases type with ⟨schema, hlower, hmirrors, hnone⟩ | ⟨culprit, hlower, hsome⟩
    · rw [hlower, show type.parts.find? _ = none from hnone]
      rcases lowerFields_cases rest with ⟨schemas, hrest, heach, hnone⟩ | ⟨culprit, hrest, hsome⟩
      · rw [hrest]
        exact .inl ⟨(name, schema) :: schemas, rfl, .cons hmirrors heach, hnone⟩
      · rw [hrest]
        exact .inr ⟨culprit, rfl, hsome⟩
    · rw [hlower, show type.parts.find? _ = some culprit from hsome]
      exact .inr ⟨culprit, rfl, rfl⟩

end

theorem mirrors_of_lower {type : ScriptType} {schema : Schema} (h : type.lower = .ok schema) :
    type.Mirrors schema := by
  rcases lower_cases type with ⟨found, hlower, hmirrors, -⟩ | ⟨culprit, hlower, -⟩
  · rw [h] at hlower
    cases hlower
    exact hmirrors
  · rw [h] at hlower
    cases hlower

theorem exists_lower_iff {type : ScriptType} : (∃ schema, type.lower = .ok schema) ↔ type.IsData := by
  rw [← culprit?_eq_none_iff]
  rcases lower_cases type with ⟨schema, hlower, -, hnone⟩ | ⟨culprit, hlower, hsome⟩
  · exact iff_of_true ⟨schema, hlower⟩ hnone
  · refine iff_of_false ?_ ?_
    · rintro ⟨schema, hok⟩
      rw [hlower] at hok
      cases hok
    · rw [hsome]
      nofun

theorem lower_eq_error_iff {type culprit : ScriptType} :
    type.lower = .error culprit ↔ type.Culprit culprit := by
  rw [← culprit?_eq_some_iff]
  rcases lower_cases type with ⟨schema, hlower, -, hnone⟩ | ⟨found, hlower, hsome⟩
  · rw [hlower, hnone]
    exact iff_of_false nofun nofun
  · rw [hlower, hsome, Except.error.injEq, Option.some_inj]

theorem Mirrors.isObject_iff {type : ScriptType} {schema : Schema} (h : type.Mirrors schema) :
    (∃ fields, type = .object fields) ↔ ∃ schemas, schema = .struct schemas := by
  cases h with
  | object => exact iff_of_true ⟨_, rfl⟩ ⟨_, rfl⟩
  | int | float | bool | str | list | option => exact iff_of_false nofun nofun

end ScriptType

end DriverHub
