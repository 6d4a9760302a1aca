import DriverHub.Proofs.Dict
import DriverHub.Proofs.Number.Rational
import DriverHub.Schema.Decode
import Mathlib.Data.Int.Cast.Lemmas

/-! What a schema accepts, said as a grammar of trees that knows nothing of how trees are read.
Reading succeeds on exactly the trees of the grammar, and an integer is read as the number that the
tree stands for, however it is written. -/

namespace DriverHub

/-- The number that a JSON number stands for. -/
def Json.number? : Json → Option ℚ
  | .int i => some i.val
  | .float x => some x.val.toRat
  | _ => none

/-- The trees of an atom. Every number is a float; an integer is a number without a fractional part
that fits a signed word. -/
def AtomKind.Matches (kind : AtomKind) (j : Json) : Prop :=
  match kind with
  | .string => ∃ s, j = .str s
  | .bool => ∃ b, j = .bool b
  | .float => ∃ q, j.number? = some q
  | .int => ∃ i : ℤ, -2 ^ 63 ≤ i ∧ i < 2 ^ 63 ∧ j.number? = some (i : ℚ)

namespace Schema

mutual

/-- The trees of a schema. The keys of an object are the names of the fields, and what is under a key
is of the schema of its field. -/
def Matches : Schema → Json → Prop
  | .atom kind, j => kind.Matches j
  | .option inner, j => j = .null ∨ inner.Matches j
  | .list inner, .arr items => ∀ j ∈ items, inner.Matches j
  | .struct fields, .obj members =>
    (∀ name, name ∈ Dict.keys members ↔ name ∈ fields.map (·.1)) ∧ MatchesFields fields members
  | _, _ => False

def MatchesFields : List (String × Schema) → List (String × Json) → Prop
  | [], _ => True
  | (name, schema) :: rest, members =>
    (∀ j, Dict.find? name members = some j → schema.Matches j) ∧ MatchesFields rest members

end

end Schema

/-! ### Atoms -/

namespace Json

theorem integral?_int (n : JsonInt) (i : Int64) :
    integral? (.int n) = some i ↔ n.val = i.toInt := by
  have hlower := n.lower
  have hi : i.toInt < 0x8000000000000000 := i.toInt_lt
  unfold integral?
  simp only
  split
  · next hlt =>
    have hword : (Int64.ofInt n.val).toInt = n.val := Int64.toInt_ofInt_of_le hlower hlt
    rw [Option.some_inj, ← Int64.toInt_inj, hword]
  · next hlt =>
    refine iff_of_false nofun fun h => ?_
    omega

theorem integral?_float (x : JsonFloat) (i : Int64) :
    integral? (.float x) = some i ↔ x.val.integer? = some i.toInt := by
  have hlower : -0x8000000000000000 ≤ i.toInt := i.le_toInt
  have hupper : i.toInt < 0x8000000000000000 := i.toInt_lt
  unfold integral?
  simp only [Option.bind_eq_some_iff]
  constructor
  · rintro ⟨k, hk, h⟩
    split at h
    · next hrange =>
      cases h
      rw [Int64.toInt_ofInt_of_le hrange.1 hrange.2]
      exact hk
    · cases h
  · intro h
    refine ⟨i.toInt, h, ?_⟩
    rw [if_pos ⟨hlower, hupper⟩, Int64.ofInt_toInt]

theorem integral?_eq_some_iff (j : Json) (i : Int64) :
    j.integral? = some i ↔ j.number? = some (i.toInt : ℚ) := by
  cases j with
  | int n =>
    rw [integral?_int]
    unfold number?
    rw [Option.some_inj, Int.cast_inj]
  | float x =>
    rw [integral?_float, Binary64.integer?_eq_some_iff x.finite]
    unfold number?
    rw [Option.some_inj]
  | null | bool | str | arr | obj => exact iff_of_false nofun nofun

theorem exists_double?_iff (j : Json) : (∃ x, j.double? = some x) ↔ ∃ q, j.number? = some q := by
  cases j with
  | int | float => exact iff_of_true ⟨_, rfl⟩ ⟨_, rfl⟩
  | null | bool | str | arr | obj => exact iff_of_false nofun nofun

end Json

namespace AtomKind

theorem matches_int_iff (j : Json) :
    AtomKind.int.Matches j ↔ ∃ i : Int64, j.number? = some (i.toInt : ℚ) := by
  constructor
  · rintro ⟨i, hlower, hupper, hj⟩
    refine ⟨Int64.ofInt i, ?_⟩
    rw [Int64.toInt_ofInt_of_le hlower hupper]
    exact hj
  · rintro ⟨i, hj⟩
    exact ⟨i.toInt, i.le_toInt, i.toInt_lt, hj⟩

theorem exists_decodeAtom_iff (kind : AtomKind) (j : Json) :
    (∃ v, Schema.decodeAtom kind j = some v) ↔ kind.Matches j := by
  cases kind with
  | string =>
    cases j with
    | str s => exact iff_of_true ⟨_, rfl⟩ ⟨s, rfl⟩
    | null | bool | int | float | arr | obj => exact iff_of_false nofun nofun
  | bool =>
    cases j with
    | bool b => exact iff_of_true ⟨_, rfl⟩ ⟨b, rfl⟩
    | null | str | int | float | arr | obj => exact iff_of_false nofun nofun
  | float =>
    change (∃ v, j.double?.map Value.float = some v) ↔ ∃ q, j.number? = some q
    rw [← j.exists_double?_iff]
    simp only [Option.map_eq_some_iff]
    exact ⟨fun ⟨_, x, hx, _⟩ => ⟨x, hx⟩, fun ⟨x, hx⟩ => ⟨_, x, hx, rfl⟩⟩
  | int =>
    rw [matches_int_iff]
    simp only [← Json.integral?_eq_some_iff]
    change (∃ v, j.integral?.map Value.int = some v) ↔ _
    simp only [Option.map_eq_some_iff]
    exact ⟨fun ⟨_, i, hi, _⟩ => ⟨i, hi⟩, fun ⟨i, hi⟩ => ⟨_, i, hi, rfl⟩⟩

end AtomKind

/-! ### Trees -/

namespace Schema

theorem exists_decodeItems_iff (decode : Json → Except ConfigError Value) (start : Nat)
    (items : List Json) :
    (∃ vs, decodeItems decode start items = .ok vs) ↔ ∀ j ∈ items, ∃ v, decode j = .ok v := by
  induction items generalizing start with
  | nil => exact iff_of_true ⟨_, rfl⟩ nofun
  | cons j rest ih =>
    unfold decodeItems
    rw [List.forall_mem_cons, ← ih (start + 1)]
    cases decode j with
    | error e => simp
    | ok v =>
      cases decodeItems decode (start + 1) rest with
      | error e => simp
      | ok vs => simp

/-- No key is refused as extra just if all keys are names of fields. -/
theorem find?_extra_eq_none_iff (fields : List (String × Schema)) (members : List (String × Json)) :
    members.find? (fun m => !(Dict.contains m.1 fields)) = none ↔
      ∀ name ∈ Dict.keys members, name ∈ fields.map (·.1) := by
  rw [List.find?_eq_none]
  simp only [Dict.keys, List.mem_map, Bool.not_eq_true', Bool.not_eq_false,
    forall_exists_index, and_imp, forall_apply_eq_imp_iff₂, Dict.contains_eq,
    Option.isSome_iff_exists]
  refine forall_congr' fun m => imp_congr_right fun _ => ?_
  constructor
  · rintro ⟨schema, h⟩
    exact ⟨_, Dict.mem_of_find? h, rfl⟩
  · rintro ⟨⟨_, schema⟩, hmem, rfl⟩
    exact Dict.exists_find? hmem

theorem mem_keys_iff {name : String} {members : List (String × Json)} :
    name ∈ Dict.keys members ↔ ∃ j, Dict.find? name members = some j := by
  constructor
  · intro h
    obtain ⟨⟨_, j⟩, hmem, rfl⟩ := List.mem_map.1 h
    exact Dict.exists_find? hmem
  · rintro ⟨j, h⟩
    exact List.mem_map.2 ⟨_, Dict.mem_of_find? h, rfl⟩

mutual

theorem exists_decode_iff : (schema : Schema) → (j : Json) →
    ((∃ v, schema.decode j = .ok v) ↔ schema.Matches j)
  | .atom kind, j => by
    unfold decode Matches
    rw [← kind.exists_decodeAtom_iff]
    cases decodeAtom kind j with
    | none => exact iff_of_false nofun nofun
    | some v => exact iff_of_true ⟨v, rfl⟩ ⟨v, rfl⟩
  | .option inner, j => by
    unfold Matches decode
    rw [← exists_decode_iff inner j]
    split
    · exact iff_of_true ⟨.absent, rfl⟩ (.inl rfl)
    · next hnull =>
      cases inner.decode j with
      | error e => simpa using hnull
      | ok v => simp
  | .list inner, j => by
    cases j with
    | arr items =>
      unfold Matches decode
      have hitems : (∀ j ∈ items, inner.Matches j) ↔ ∀ j ∈ items, ∃ v, inner.decode j = .ok v :=
        forall₂_congr fun j _ => (exists_decode_iff inner j).symm
      rw [hitems, ← exists_decodeItems_iff inner.decode 0]
      cases hitems : decodeItems inner.decode 0 items with
      | error e => simp [hitems]
      | ok vs => simp [hitems]
    | null | bool | int | float | str | obj =>
      unfold Matches
      exact iff_of_false nofun nofun
  | .struct fields, j => by
    cases j with
    | obj members =>
      unfold Matches decode
      have hfields := exists_decodeFields_iff fields members
      have hextra := find?_extra_eq_none_iff fields members
      -- the two passes, over the fields and over the keys, make up the equality of the key sets
      have hkeys : (∀ name, name ∈ Dict.keys members ↔ name ∈ fields.map (·.1)) ∧
          MatchesFields fields members ↔
          (∃ entries, decodeFields fields members = .ok entries) ∧
            members.find? (fun m => !(Dict.contains m.1 fields)) = none := by
        rw [hfields, hextra]
        constructor
        · rintro ⟨hsame, hmatch⟩
          exact ⟨⟨fun name h => (hsame name).2 h, hmatch⟩, fun name h => (hsame name).1 h⟩
        · rintro ⟨⟨hthere, hmatch⟩, honly⟩
          exact ⟨fun name => ⟨honly name, hthere name⟩, hmatch⟩
      rw [hkeys]
      cases hdecoded : decodeFields fields members with
      | error e => simp [hdecoded]
      | ok entries =>
        cases hfound : members.find? (fun m => !(Dict.contains m.1 fields)) with
        | some extra => simp [hdecoded, hfound]
        | none => simp [hdecoded, hfound]
    | null | bool | int | float | str | arr =>
      unfold Matches
      exact iff_of_false nofun nofun

theorem exists_decodeFields_iff : (fields : List (String × Schema)) → (members : List (String × Json)) →
    ((∃ entries, decodeFields fields members = .ok entries) ↔
      (∀ name ∈ fields.map (·.1), name ∈ Dict.keys members) ∧ MatchesFields fields members)
  | [], members => by
    unfold MatchesFields
    exact iff_of_true ⟨[], rfl⟩ ⟨nofun, trivial⟩
  | (name, schema) :: rest, members => by
    have hrest := exists_decodeFields_iff rest members
    unfold MatchesFields decodeFields
    rw [List.map_cons, List.forall_mem_cons, mem_keys_iff, and_and_and_comm, ← hrest]
    cases Dict.find? name members with
    | none => simp
    | some j =>
      have hhead : ((∃ j', some j = some j') ∧ ∀ j', some j = some j' → schema.Matches j') ↔
          schema.Matches j :=
        ⟨fun h => h.2 j rfl, fun h => ⟨⟨j, rfl⟩, fun _ heq => Option.some.inj heq ▸ h⟩⟩
      rw [hhead, ← exists_decode_iff schema j]
      cases hread : schema.decode j with
      | error e => simp [hread]
      | ok v =>
        cases hdecoded : decodeFields rest members with
        | error e => simp [hread]
        | ok entries => simp [hread]

end

/-- Reading accepts exactly the trees of the grammar, whatever the schema, and an integer that is
accepted is the number that was written. -/
theorem accepts_iff_matches (schema : Schema) (j : Json) :
    ((∃ v, schema.decode j = .ok v) ↔ schema.Matches j) ∧
      ∀ v, (Schema.atom .int).decode j = .ok v →
        ∃ i : Int64, v = .int i ∧ j.number? = some (i.toInt : ℚ) := by
  refine ⟨exists_decode_iff schema j, ?_⟩
  intro v h
  unfold decode at h
  split at h
  · next w hw =>
    cases h
    have hint : j.integral?.map Value.int = some v := hw
    obtain ⟨i, hi, rfl⟩ := Option.map_eq_some_iff.1 hint
    exact ⟨i, rfl, (j.integral?_eq_some_iff i).1 hi⟩
  · cases h

end Schema

end DriverHub
