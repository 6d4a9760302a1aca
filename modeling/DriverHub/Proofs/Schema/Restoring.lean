import DriverHub.Proofs.Schema.Grammar
import DriverHub.Proofs.Schema.Migration

/-! What is kept of a saved tree. A tree that its schema accepts is read as the schema says. Of any other
tree each field is read without the schema first and then carried over to it, and the two readings of
one member differ: without a schema nothing is an option, and a number is an integer or a float as it is
written. So a member that its own field accepts may be lost because of another one. -/

namespace DriverHub

/-- A tree of the atom that reads the same without the schema: an integer is written as one, and a float
is not, unless it is beyond the signed words. -/
def AtomKind.ReadsAlike (kind : AtomKind) (j : Json) : Prop :=
  match kind with
  | .int => ∃ i, j = .int i
  | .float => (∃ x, j = .float x) ∨ ∃ i, j = .int i ∧ 2 ^ 63 ≤ i.val
  | .bool | .string => True

namespace Schema

mutual

/-- Of the trees of a schema, those that read the same without it. No tree of an option does. -/
def ReadsAlike : Schema → Json → Prop
  | .atom kind, j => kind.ReadsAlike j
  | .list inner, .arr items => ∀ j ∈ items, inner.ReadsAlike j
  | .struct fields, .obj members => Dict.Sorted members ∧ ReadsAlikeFields fields members
  | _, _ => False

def ReadsAlikeFields : List (String × Schema) → List (String × Json) → Prop
  | [], _ => True
  | (name, schema) :: rest, members =>
    (∀ j, Dict.find? name members = some j → schema.ReadsAlike j) ∧ ReadsAlikeFields rest members

end

mutual

/-- Of the trees of a schema, those that are kept where another one is refused. What is lost goes back to
zero, so a zero is never lost; nor is an absent option, while everything that an option holds is. -/
def Survives : Schema → Json → Prop
  | .atom kind, j => kind.ReadsAlike j ∨ j.number? = some 0
  | .option _, j => j = .null
  | .list inner, .arr items => ∀ j ∈ items, inner.ReadsAlike j
  | .struct fields, .obj members => SurvivesFields fields members
  | _, _ => False

def SurvivesFields : List (String × Schema) → List (String × Json) → Prop
  | [], _ => True
  | (name, schema) :: rest, members =>
    (∀ j, Dict.find? name members = some j → schema.Survives j) ∧ SurvivesFields rest members

end

/-! ### What reading as a schema says leaves -/

theorem decodeAtom_of_decode {kind : AtomKind} {j : Json} {v : Value}
    (h : (Schema.atom kind).decode j = .ok v) : decodeAtom kind j = some v := by
  unfold decode at h
  cases hread : decodeAtom kind j <;> simp_all

theorem decode_option_cases {inner : Schema} {j : Json} {v : Value}
    (h : (Schema.option inner).decode j = .ok v) :
    (j = .null ∧ v = .absent) ∨ (j ≠ .null ∧ ∃ held, v = .present held) := by
  unfold decode at h
  split at h
  · simp_all
  · next hnull =>
    cases hread : inner.decode j with
    | error e => simp [hread] at h
    | ok held =>
      simp only [hread, Except.ok.injEq] at h
      exact .inr ⟨hnull, held, h.symm⟩

theorem forall₂_of_decodeItems {decode : Json → Except ConfigError Value} {start : Nat}
    {items : List Json} {vs : List Value} (h : decodeItems decode start items = .ok vs) :
    List.Forall₂ (fun j v => decode j = .ok v) items vs := by
  induction items generalizing start vs with
  | nil =>
    cases h
    exact .nil
  | cons j rest ih =>
    unfold decodeItems at h
    cases hread : decode j with
    | error e => simp [hread] at h
    | ok v =>
      cases hrest : decodeItems decode (start + 1) rest with
      | error e => simp [hread, hrest] at h
      | ok ws =>
        simp only [hread, hrest, Except.ok.injEq] at h
        subst h
        exact .cons hread (ih hrest)

theorem exists_of_decode_list {inner : Schema} {j : Json} {v : Value}
    (h : (Schema.list inner).decode j = .ok v) :
    ∃ items vs, j = .arr items ∧ v = .list vs ∧
      List.Forall₂ (fun j v => inner.decode j = .ok v) items vs := by
  unfold decode at h
  split at h
  · next items =>
    cases hread : decodeItems inner.decode 0 items with
    | error e => simp [hread] at h
    | ok vs =>
      simp only [hread, Except.ok.injEq] at h
      exact ⟨items, vs, rfl, h.symm, forall₂_of_decodeItems hread⟩
  · cases h

/-- Each field is read from the member of its name and is then found under that name. -/
def ReadInto (fields : List (String × Schema)) (members : List (String × Json))
    (decoded : List (String × Value)) : Prop :=
  ∀ name schema, (name, schema) ∈ fields → ∃ j v, Dict.find? name members = some j ∧
    schema.decode j = .ok v ∧ Dict.find? name decoded = some v

theorem exists_entry_of_decodeFields {fields : List (String × Schema)} {members : List (String × Json)}
    {entries : List (String × Value)} (h : decodeFields fields members = .ok entries) :
    ∀ name schema, (name, schema) ∈ fields → ∃ j v, Dict.find? name members = some j ∧
      schema.decode j = .ok v ∧ (name, v) ∈ entries := by
  induction fields generalizing entries with
  | nil => nofun
  | cons field rest ih =>
    obtain ⟨name, schema⟩ := field
    unfold decodeFields at h
    cases hfind : Dict.find? name members with
    | none => simp [hfind] at h
    | some j =>
      cases hread : schema.decode j with
      | error e => simp [hfind, hread] at h
      | ok v =>
        cases hrest : decodeFields rest members with
        | error e => simp [hfind, hread, hrest] at h
        | ok decoded =>
          simp only [hfind, hread, hrest, Except.ok.injEq] at h
          subst h
          intro name' schema' hmem
          rcases List.mem_cons.1 hmem with heq | hmem
          · cases heq
            exact ⟨j, v, hfind, hread, List.mem_cons_self⟩
          · obtain ⟨j', v', hj, hv, hentry⟩ := ih hrest name' schema' hmem
            exact ⟨j', v', hj, hv, List.mem_cons_of_mem _ hentry⟩

theorem exists_of_decode_struct {fields : List (String × Schema)} (h : (Schema.struct fields).Distinct)
    {j : Json} {v : Value} (hread : (Schema.struct fields).decode j = .ok v) :
    ∃ members decoded, j = .obj members ∧ v = .object decoded ∧ Dict.Sorted decoded ∧
      (∀ name, (Dict.find? name decoded).isSome ↔ name ∈ fields.map (·.1)) ∧
      (∀ name, (Dict.find? name members).isSome → name ∈ fields.map (·.1)) ∧
      ReadInto fields members decoded := by
  have hshape := hasShape_of_conforms _ (conforms_of_decode _ h hread)
  have hmatches := (exists_decode_iff _ j).1 ⟨v, hread⟩
  have hdistinct := h
  unfold Distinct at hdistinct
  unfold decode at hread
  split at hread
  · next members =>
    cases hfields : decodeFields fields members with
    | error e => simp [hfields] at hread
    | ok entries =>
      have hentered := entered_of_decodeFields fields hdistinct.2 hfields
      unfold Matches at hmatches
      simp only [hfields] at hread
      split at hread
      · cases hread
      · cases hread
        cases hshape with
        | struct sorted names _ =>
          refine ⟨members, _, rfl, rfl, sorted, names, ?_, ?_⟩
          · intro name hsome
            obtain ⟨j, hj⟩ := Option.isSome_iff_exists.1 hsome
            exact (hmatches.1 name).1 (mem_keys_iff.2 ⟨j, hj⟩)
          · intro name schema hmem
            obtain ⟨j, v, hj, hv, hentry⟩ := exists_entry_of_decodeFields hfields name schema hmem
            have hnodup : (entries.map (·.1)).Nodup := hentered.names ▸ hdistinct.1
            exact ⟨j, v, hj, hv, Dict.find?_ofList_of_mem hnodup hentry⟩
  · cases hread

end Schema

/-! ### Reading without a schema -/

namespace Value

theorem ofJsonFields_eq_map (members : List (String × Json)) :
    ofJsonFields members = members.map fun e => (e.1, ofJson e.2) := by
  induction members with
  | nil => rfl
  | cons e rest ih => simp [ofJsonFields, ih]

theorem field?_ofJson (name : String) (members : List (String × Json)) :
    (ofJson (.obj members)).field? name = (Dict.find? name members).map ofJson := by
  unfold ofJson field?
  simp only [ofJsonFields_eq_map]
  exact Dict.find?_map (fun _ => ofJson) name members

theorem sorted_ofJsonFields {members : List (String × Json)} :
    Dict.Sorted (ofJsonFields members) ↔ Dict.Sorted members := by
  rw [ofJsonFields_eq_map]
  exact List.pairwise_map

theorem ofJson_kind (j : Json) : (ofJson j).kind ≠ .option := by
  cases j with
  | int i =>
    unfold ofJson ofJsonInt
    split <;> simp [kind]
  | null | bool | float | str | arr | obj => simp [ofJson, kind]

theorem ofJson_ne_absent (j : Json) : ofJson j ≠ .absent := by
  intro h
  apply ofJson_kind j
  rw [h]
  rfl

theorem ofJson_ne_present (j : Json) (held : Value) : ofJson j ≠ .present held := by
  intro h
  apply ofJson_kind j
  rw [h]
  rfl

end Value

theorem Value.ofJsonItems_eq_iff {P : Json → Prop} {items : List Json} {vs : List Value}
    (h : List.Forall₂ (fun j v => ofJson j = v ↔ P j) items vs) :
    ofJsonItems items = vs ↔ ∀ j ∈ items, P j := by
  induction h with
  | nil => simp [ofJsonItems]
  | cons hhead _ ih => simp [ofJsonItems, hhead, ih]

/-- An object is read without a schema as this one just if its members are in order and each of them is
read as the field of its name. -/
theorem Value.ofJsonFields_eq_iff {fields : List (String × Schema)} {members : List (String × Json)}
    {decoded : List (String × Value)} (hsorted : Dict.Sorted decoded)
    (hdecoded : ∀ name, (Dict.find? name decoded).isSome ↔ name ∈ fields.map (·.1))
    (hmembers : ∀ name, (Dict.find? name members).isSome → name ∈ fields.map (·.1)) :
    ofJsonFields members = decoded ↔ Dict.Sorted members ∧
      ∀ name ∈ fields.map (·.1), (Dict.find? name members).map ofJson = Dict.find? name decoded := by
  have hfind : ∀ name, Dict.find? name (ofJsonFields members) = (Dict.find? name members).map ofJson :=
    fun name => field?_ofJson name members
  constructor
  · intro heq
    subst heq
    refine ⟨sorted_ofJsonFields.1 hsorted, ?_⟩
    intro name _
    exact (hfind name).symm
  · rintro ⟨hordered, hsame⟩
    apply Dict.ext_of_keys (sorted_ofJsonFields.2 hordered) hsorted
    · intro name hsome
      rw [hfind, Option.isSome_map] at hsome
      exact hmembers name hsome
    · intro name hsome
      exact (hdecoded name).1 hsome
    · intro name hname
      rw [hfind]
      exact hsame name hname

namespace Schema

/-! ### The two readings of one tree -/

theorem ofJson_eq_iff_of_decodeAtom {kind : AtomKind} {j : Json} {v : Value}
    (h : decodeAtom kind j = some v) : Value.ofJson j = v ↔ kind.ReadsAlike j := by
  cases kind with
  | bool | string => cases j <;> simp_all [decodeAtom, Value.ofJson, AtomKind.ReadsAlike]
  | int =>
    obtain ⟨i, hi, rfl⟩ := Option.map_eq_some_iff.1 (show j.integral?.map Value.int = some v from h)
    cases j with
    | int n =>
      have hn : n.val = i.toInt := (Json.integral?_int n i).1 hi
      have hsmall : i.toInt < 0x8000000000000000 := i.toInt_lt
      refine iff_of_true ?_ ⟨n, rfl⟩
      unfold Value.ofJson Value.ofJsonInt
      rw [hn, if_pos hsmall, Int64.ofInt_toInt]
    | float x => simp [Value.ofJson, AtomKind.ReadsAlike]
    | null | bool | str | arr | obj => cases hi
  | float =>
    obtain ⟨x, hx, rfl⟩ := Option.map_eq_some_iff.1 (show j.double?.map Value.float = some v from h)
    cases j with
    | int n =>
      cases hx
      unfold Value.ofJson Value.ofJsonInt
      split
      · next hsmall =>
        refine iff_of_false nofun ?_
        rintro (⟨x, hx⟩ | ⟨m, hm, hlarge⟩)
        · cases hx
        · cases hm
          omega
      · next hlarge => exact iff_of_true rfl (.inr ⟨n, rfl, by omega⟩)
    | float x =>
      cases hx
      exact iff_of_true rfl (.inl ⟨x, rfl⟩)
    | null | bool | str | arr | obj => cases hx

mutual

/-- A tree that the schema accepts reads the same without it just if it is of those told. -/
theorem ofJson_eq_iff : (schema : Schema) → schema.Distinct → {j : Json} → {v : Value} →
    schema.decode j = .ok v → (Value.ofJson j = v ↔ schema.ReadsAlike j)
  | .atom kind, _, j, v, h => by
    unfold ReadsAlike
    exact ofJson_eq_iff_of_decodeAtom (decodeAtom_of_decode h)
  | .option inner, _, j, v, h => by
    unfold ReadsAlike
    rcases decode_option_cases h with ⟨-, rfl⟩ | ⟨-, held, rfl⟩
    · exact iff_of_false (Value.ofJson_ne_absent j) id
    · exact iff_of_false (Value.ofJson_ne_present j held) id
  | .list inner, hdistinct, j, v, h => by
    unfold Distinct at hdistinct
    obtain ⟨items, vs, rfl, rfl, hread⟩ := exists_of_decode_list h
    have hitems : Value.ofJsonItems items = vs ↔ ∀ j ∈ items, inner.ReadsAlike j :=
      Value.ofJsonItems_eq_iff (hread.imp fun _ _ hone => ofJson_eq_iff inner hdistinct hone)
    unfold ReadsAlike Value.ofJson
    simp [hitems]
  | .struct fields, hdistinct, j, v, h => by
    obtain ⟨members, decoded, rfl, rfl, hsorted, hdecoded, hmembers, hread⟩ :=
      exists_of_decode_struct hdistinct h
    unfold Distinct at hdistinct
    have hfields := Value.ofJsonFields_eq_iff hsorted hdecoded hmembers
    rw [← readsAlikeFields_iff fields hdistinct.2 hread] at hfields
    unfold ReadsAlike Value.ofJson
    simp [hfields]

theorem readsAlikeFields_iff : (fields : List (String × Schema)) → DistinctFields fields →
    {members : List (String × Json)} → {decoded : List (String × Value)} →
    ReadInto fields members decoded →
    (ReadsAlikeFields fields members ↔ ∀ name ∈ fields.map (·.1),
      (Dict.find? name members).map Value.ofJson = Dict.find? name decoded)
  | [], _, members, decoded, _ => by
    unfold ReadsAlikeFields
    simp
  | (name, schema) :: rest, hdistinct, members, decoded, h => by
    unfold DistinctFields at hdistinct
    obtain ⟨j, v, hj, hread, hv⟩ := h name schema List.mem_cons_self
    have hrest := readsAlikeFields_iff rest hdistinct.2 fun name' schema' hmem =>
      h name' schema' (List.mem_cons_of_mem _ hmem)
    unfold ReadsAlikeFields
    simp [hj, hv, hrest, ofJson_eq_iff schema hdistinct.1 hread]

end

/-! ### What is left of a tree that is migrated -/

theorem migrate_ofJson_eq_iff_of_decodeAtom {kind : AtomKind} {j : Json} {v : Value}
    (h : decodeAtom kind j = some v) :
    (Schema.atom kind).migrate (Value.ofJson j) = v ↔ kind.ReadsAlike j ∨ j.number? = some 0 := by
  by_cases halike : kind.ReadsAlike j
  · refine iff_of_true ?_ (.inl halike)
    have hfits := matchesKind_of_holds (holds_of_decodeAtom h)
    rw [(ofJson_eq_iff_of_decodeAtom h).2 halike]
    simp [migrate, hfits]
  · simp only [halike, false_or]
    cases kind with
    | bool | string => exact absurd trivial halike
    | int =>
      obtain ⟨i, hi, rfl⟩ := Option.map_eq_some_iff.1 (show j.integral?.map Value.int = some v from h)
      cases j with
      | int n => exact absurd ⟨n, rfl⟩ halike
      | float x =>
        have hzero := Json.integral?_eq_some_iff (.float x) 0
        rw [hi] at hzero
        simpa [migrate, matchesKind, Value.ofJson, AtomKind.zero, eq_comm] using hzero
      | null | bool | str | arr | obj => cases hi
    | float =>
      obtain ⟨x, hx, rfl⟩ := Option.map_eq_some_iff.1 (show j.double?.map Value.float = some v from h)
      cases j with
      | int n =>
        cases hx
        have hsmall : n.val < 0x8000000000000000 := by
          by_contra hlarge
          exact halike (.inr ⟨n, rfl, by omega⟩)
        have hplain : Value.ofJson (.int n) = .int (Int64.ofInt n.val) := by
          unfold Value.ofJson Value.ofJsonInt
          rw [if_pos hsmall]
        have hzero : Binary64.zero = Binary64.ofInt n.val ↔ n.val = 0 :=
          eq_comm.trans (Binary64.ofInt_eq_zero_iff n.val)
        rw [hplain]
        simp [migrate, matchesKind, AtomKind.zero, Json.number?, hzero]
      | float x => exact absurd (.inl ⟨x, rfl⟩) halike
      | null | bool | str | arr | obj => cases hx

theorem migrate_list_eq_iff {inner : Schema} (hdistinct : inner.Distinct) {items : List Json}
    {vs : List Value} (hread : List.Forall₂ (fun j v => inner.decode j = .ok v) items vs) :
    (Schema.list inner).migrate (Value.ofJson (.arr items)) = .list vs ↔
      ∀ j ∈ items, inner.ReadsAlike j := by
  have hitems : Value.ofJsonItems items = vs ↔ ∀ j ∈ items, inner.ReadsAlike j :=
    Value.ofJsonItems_eq_iff (hread.imp fun _ _ hone => ofJson_eq_iff inner hdistinct hone)
  rw [← hitems]
  unfold Value.ofJson
  constructor
  · intro h
    unfold migrate at h
    simp only at h
    split at h
    · simpa using h
    · -- a list that is given up was empty if it has come back
      cases hread with
      | nil => rfl
      | cons => cases h
  · intro h
    rw [h]
    have hshapes : ∀ v ∈ vs, v.HasShape inner := by
      intro v hv
      obtain ⟨i, hi, rfl⟩ := List.getElem_of_mem hv
      have hone := hread.get (by rw [hread.length_eq]; exact hi) hi
      exact hasShape_of_conforms inner (conforms_of_decode inner hdistinct hone)
    refine migrate_of_hasShape (.list hshapes) ?_
    unfold Distinct
    exact hdistinct

mutual

/-- Of a tree that the schema accepts nothing is lost by migration just if it is of those told. -/
theorem migrate_ofJson_eq_iff : (schema : Schema) → schema.Distinct → {j : Json} → {v : Value} →
    schema.decode j = .ok v → (schema.migrate (Value.ofJson j) = v ↔ schema.Survives j)
  | .atom kind, _, j, v, h => by
    unfold Survives
    exact migrate_ofJson_eq_iff_of_decodeAtom (decodeAtom_of_decode h)
  | .option inner, _, j, v, h => by
    have hgone : (Schema.option inner).migrate (Value.ofJson j) = .absent := by
      unfold migrate
      split
      · next held heq => exact absurd heq (Value.ofJson_ne_present j held)
      · rfl
    unfold Survives
    rw [hgone]
    rcases decode_option_cases h with ⟨hnull, rfl⟩ | ⟨hnull, held, rfl⟩
    · exact iff_of_true rfl hnull
    · exact iff_of_false nofun hnull
  | .list inner, hdistinct, j, v, h => by
    unfold Distinct at hdistinct
    obtain ⟨items, vs, rfl, rfl, hread⟩ := exists_of_decode_list h
    unfold Survives
    exact migrate_list_eq_iff hdistinct hread
  | .struct fields, hdistinct, j, v, h => by
    obtain ⟨members, decoded, rfl, rfl, hsorted, hdecoded, -, hread⟩ :=
      exists_of_decode_struct hdistinct h
    unfold Distinct at hdistinct
    have hfields := survivesFields_iff fields hdistinct.2 hread
    obtain ⟨left, hleft, hleftSorted, hleftNames⟩ :=
      exists_renew_struct hdistinct.1 (some (Value.ofJson (.obj members)))
    have hfind := field?_renew hdistinct.1 (some (Value.ofJson (.obj members)))
    rw [hleft] at hfind
    have hrenewed : ∀ name schema, (name, schema) ∈ fields →
        Dict.find? name left = some (schema.renew ((Dict.find? name members).map Value.ofJson)) := by
      intro name schema hmem
      have hname := hfind name
      rw [Dict.find?_of_nodup hdistinct.1 hmem, Option.map_some, Option.bind_some,
        Value.field?_ofJson] at hname
      exact hname
    change (Schema.struct fields).renew (some _) = _ ↔ _
    unfold Survives
    rw [hleft, hfields, Value.object.injEq]
    constructor
    · intro heq name schema hmem
      subst heq
      exact (hrenewed name schema hmem).symm
    · intro h
      apply Dict.ext_of_keys hleftSorted hsorted (fun name => (hleftNames name).1)
        (fun name => (hdecoded name).1)
      intro name hname
      obtain ⟨⟨name, schema⟩, hmem, rfl⟩ := List.mem_map.1 hname
      exact (hrenewed name schema hmem).trans (h name schema hmem)

theorem survivesFields_iff : (fields : List (String × Schema)) → DistinctFields fields →
    {members : List (String × Json)} → {decoded : List (String × Value)} →
    ReadInto fields members decoded →
    (SurvivesFields fields members ↔ ∀ name schema, (name, schema) ∈ fields →
      some (schema.renew ((Dict.find? name members).map Value.ofJson)) = Dict.find? name decoded)
  | [], _, members, decoded, _ => by
    unfold SurvivesFields
    simp
  | (name, schema) :: rest, hdistinct, members, decoded, h => by
    unfold DistinctFields at hdistinct
    obtain ⟨j, v, hj, hread, hv⟩ := h name schema List.mem_cons_self
    have hrest := survivesFields_iff rest hdistinct.2 fun name' schema' hmem =>
      h name' schema' (List.mem_cons_of_mem _ hmem)
    have hhead := migrate_ofJson_eq_iff schema hdistinct.1 hread
    unfold SurvivesFields
    rw [hrest]
    constructor
    · rintro ⟨hfirst, hothers⟩ name' schema' hmem
      rcases List.mem_cons.1 hmem with heq | hmem
      · cases heq
        rw [hj, hv, ← hhead.2 (hfirst j hj)]
        rfl
      · exact hothers name' schema' hmem
    · intro hall
      refine ⟨?_, fun name' schema' hmem => hall name' schema' (List.mem_cons_of_mem _ hmem)⟩
      intro j' hj'
      have hfirst := hall name schema List.mem_cons_self
      rw [hj] at hj'
      cases hj'
      rw [hj, hv] at hfirst
      exact hhead.1 (Option.some.inj hfirst)

end

/-! ### A saved tree brought back -/

theorem restored_of_decode {fields : List (String × Schema)} (h : (Schema.struct fields).Distinct)
    {members : List (String × Json)} {w : Value}
    (hread : (Schema.struct fields).decode (.obj members) = .ok w) {name : String} {schema : Schema}
    (hfield : (name, schema) ∈ fields) {j : Json} (hj : Dict.find? name members = some j) {v : Value}
    (hv : schema.decode j = .ok v) :
    ((Schema.struct fields).restore (some (.obj members))).1.field? name = some v := by
  obtain ⟨members', decoded, heq, rfl, -, -, -, hall⟩ := exists_of_decode_struct h hread
  cases heq
  obtain ⟨j', v', hj', hv', hfound⟩ := hall name schema hfield
  rw [hj] at hj'
  cases hj'
  rw [hv] at hv'
  cases hv'
  simp only [restore, recover, hread]
  exact hfound

theorem restored_of_refused {fields : List (String × Schema)} (h : (Schema.struct fields).Distinct)
    {members : List (String × Json)} {e : ConfigError}
    (hread : (Schema.struct fields).decode (.obj members) = .error e) {name : String} {schema : Schema}
    (hfield : (name, schema) ∈ fields) {j : Json} (hj : Dict.find? name members = some j) :
    ((Schema.struct fields).restore (some (.obj members))).1.field? name =
      some (schema.migrate (Value.ofJson j)) := by
  unfold Distinct at h
  have hfound := field?_renew h.1 (some (Value.ofJson (.obj members))) name
  rw [Dict.find?_of_nodup h.1 hfield, Option.map_some, Option.bind_some, Value.field?_ofJson, hj] at hfound
  simp only [restore, recover, hread]
  exact hfound

/-- A member of a saved object that its own field accepts is brought back as it is read just if the whole
object is accepted, or the member is one that survives the refusal of another: what an option holds does
not, nor does a number that is written as another kind. -/
theorem restore_keeps_iff {fields : List (String × Schema)} (h : (Schema.struct fields).Distinct)
    (members : List (String × Json)) {name : String} {schema : Schema} (hfield : (name, schema) ∈ fields)
    {j : Json} (hj : Dict.find? name members = some j) {v : Value} (hv : schema.decode j = .ok v) :
    ((Schema.struct fields).restore (some (.obj members))).1.field? name = some v ↔
      (Schema.struct fields).Matches (.obj members) ∨ schema.Survives j := by
  rw [← exists_decode_iff]
  cases hread : (Schema.struct fields).decode (.obj members) with
  | ok w =>
    refine iff_of_true ?_ (.inl ⟨w, rfl⟩)
    exact restored_of_decode h hread hfield hj hv
  | error e =>
    have hpart : schema.Distinct := by
      unfold Distinct at h
      exact h.2.of_mem hfield
    rw [restored_of_refused h hread hfield hj, Option.some_inj, migrate_ofJson_eq_iff schema hpart hv]
    simp

/-- The settings of a switch: a label that may be unset, a level, and whether it is on. -/
def switchSettings : List (String × Schema) :=
  [("label", .option (.atom .string)), ("level", .atom .float), ("on", .atom .bool)]

/-- Settings that an earlier version has saved, with one that is no longer there. -/
def hallSettings : List (String × Json) :=
  [("label", .str "hall"), ("level", .float ⟨.zero, rfl⟩), ("on", .bool true), ("stale", .bool true)]

theorem distinct_switchSettings : (Schema.struct switchSettings).Distinct := by
  simp [switchSettings, Distinct, DistinctFields]

/-- The setting that is no longer there takes the label with it, and leaves the switch on. -/
theorem restore_keeps_iff_switch :
    (Schema.struct switchSettings).Distinct ∧
    ¬ (Schema.struct switchSettings).Matches (.obj hallSettings) ∧
    ((Schema.struct switchSettings).restore (some (.obj hallSettings))).1.field? "label" ≠
      some (.present (.str "hall")) ∧
    ((Schema.struct switchSettings).restore (some (.obj hallSettings))).1.field? "on" =
      some (.bool true) := by
  have hrefused : ¬ (Schema.struct switchSettings).Matches (.obj hallSettings) := by
    rw [← exists_decode_iff]
    rintro ⟨v, hv⟩
    cases hv
  have hlabel : ("label", Schema.option (.atom .string)) ∈ switchSettings := by simp [switchSettings]
  have hon : ("on", Schema.atom .bool) ∈ switchSettings := by simp [switchSettings]
  refine ⟨distinct_switchSettings, hrefused, ?_, ?_⟩
  · rw [Ne, restore_keeps_iff distinct_switchSettings hallSettings hlabel rfl rfl]
    rintro (hmatches | hnull)
    · exact hrefused hmatches
    · cases hnull
  · rw [restore_keeps_iff distinct_switchSettings hallSettings hon rfl rfl]
    right
    unfold Survives
    exact .inl trivial

/-- So it is not true that a field is kept whenever its own member is accepted. -/
theorem restore_not_keeps_accepted :
    ¬ ∀ (fields : List (String × Schema)) (members : List (String × Json)) (name : String)
      (schema : Schema) (j : Json) (v : Value), (Schema.struct fields).Distinct →
      (name, schema) ∈ fields → Dict.find? name members = some j → schema.decode j = .ok v →
      ((Schema.struct fields).restore (some (.obj members))).1.field? name = some v := by
  intro h
  have hlabel := h switchSettings hallSettings "label" (.option (.atom .string)) (.str "hall")
    (.present (.str "hall")) distinct_switchSettings (by simp [switchSettings]) rfl rfl
  cases hlabel

end Schema

end DriverHub
