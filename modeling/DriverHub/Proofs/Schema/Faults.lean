import DriverHub.Json.Parser
import DriverHub.Proofs.Schema.Conforms

/-! Where a tree is refused. The path of an error leads, in the tree and in the schema alike, to a part
that is refused by itself with the same words. All that is read before that part is accepted, and a key
is refused as extra only when all fields are accepted. -/

namespace DriverHub

/-! ### Ways into trees and schemas -/

namespace Json

/-- The part of a tree that one step leads to. -/
def step? : PathStep → Json → Option Json
  | .member name, .obj members => Dict.find? name members
  | .index i, .arr items => items[i]?
  | _, _ => none

def follow? : List PathStep → Json → Option Json
  | [], j => some j
  | step :: rest, j => (j.step? step).bind (follow? rest)

/-- All objects in a tree are kept in the order of their keys. -/
def Ordered (j : Json) : Prop :=
  ∀ path members, j.follow? path = some (.obj members) → Dict.Sorted members

theorem canonicalItems_eq_map (items : List Json) : canonicalItems items = items.map canonical := by
  induction items with
  | nil => rfl
  | cons j rest ih => rw [canonicalItems, ih, List.map_cons]

theorem mem_canonicalMembers {name : String} {j : Json} {members : List (String × Json)}
    (h : (name, j) ∈ canonicalMembers members) : ∃ part : Json, j = part.canonical := by
  induction members with
  | nil => cases h
  | cons member rest ih =>
    obtain ⟨k, part⟩ := member
    rw [canonicalMembers, List.mem_cons] at h
    rcases h with heq | hrest
    · exact ⟨part, congrArg Prod.snd heq⟩
    · exact ih hrest

theorem step?_canonical {j part : Json} {step : PathStep} (h : j.canonical.step? step = some part) :
    ∃ original : Json, part = original.canonical := by
  cases j with
  | arr items =>
    cases step with
    | member name => cases h
    | index i =>
      change (canonicalItems items)[i]? = some part at h
      rw [canonicalItems_eq_map, List.getElem?_map, Option.map_eq_some_iff] at h
      obtain ⟨original, -, heq⟩ := h
      exact ⟨original, heq.symm⟩
  | obj members =>
    cases step with
    | member name => exact mem_canonicalMembers (Dict.mem_of_mem_ofList (Dict.mem_of_find? h))
    | index i => cases h
  | null | bool | int | float | str => cases step <;> cases h

theorem ordered_canonical (j : Json) : j.canonical.Ordered := by
  intro path members h
  induction path generalizing j with
  | nil =>
    cases j with
    | obj entries =>
      cases h
      exact Dict.sorted_ofList _
    | null | bool | int | float | str | arr => cases h
  | cons step rest ih =>
    obtain ⟨part, hstep, hrest⟩ := Option.bind_eq_some_iff.1 h
    obtain ⟨original, rfl⟩ := step?_canonical hstep
    exact ih original hrest

theorem ordered_of_parse? {text : String} {j : Json} (h : parse? text = some j) : j.Ordered := by
  obtain ⟨read, -, rfl⟩ := Option.map_eq_some_iff.1 h
  exact ordered_canonical read

end Json

namespace Json.Ordered

theorem step {j part : Json} (h : j.Ordered) {step : PathStep} (hstep : j.step? step = some part) :
    part.Ordered := by
  intro path members hpath
  exact h (step :: path) members (Option.bind_eq_some_iff.2 ⟨part, hstep, hpath⟩)

theorem item {items : List Json} (h : (Json.arr items).Ordered) : ∀ item ∈ items, item.Ordered := by
  intro item hitem
  obtain ⟨i, hi⟩ := List.getElem?_of_mem hitem
  have hstep : (Json.arr items).step? (.index i) = some item := hi
  exact h.step hstep

theorem sorted {members : List (String × Json)} (h : (Json.obj members).Ordered) :
    Dict.Sorted members :=
  h [] members rfl

end Json.Ordered

namespace Schema

/-- A schema without the options around it. -/
def bare : Schema → Schema
  | .option inner => inner.bare
  | schema => schema

/-- The part of a schema that one step leads to, past the options around it. -/
def step? (step : PathStep) (schema : Schema) : Option Schema :=
  match step, schema.bare with
  | .member name, .struct fields => Dict.find? name fields
  | .index _, .list inner => some inner
  | _, _ => none

/-- The part of a schema that a path leads to, without the options around it. -/
def follow? : List PathStep → Schema → Option Schema
  | [], schema => some schema.bare
  | step :: rest, schema => (schema.step? step).bind (follow? rest)

/-- Whether a tree is read without error. -/
def Reads (schema : Schema) (j : Json) : Prop := ∃ v, schema.decode j = .ok v

/-- Whether a field is there and is read without error. -/
def ReadsField (members : List (String × Json)) (field : String × Schema) : Prop :=
  ∃ j, Dict.find? field.1 members = some j ∧ field.2.Reads j

/-- All that is read before a step is taken is read without error: the items before one, or the fields
that are declared before one. -/
def ReadsBefore : PathStep → Schema → Json → Prop
  | .index i, .list inner, .arr items => ∀ item ∈ items.take i, inner.Reads item
  | .member name, .struct fields, .obj members =>
    ∀ field ∈ fields.takeWhile (·.1 ≠ name), ReadsField members field
  | _, _, _ => False

/-- The key is the smallest that is no field, and all fields are read without error. -/
def ExtraOnly (name : String) : Schema → Json → Prop
  | .struct fields, .obj members =>
    (∀ field ∈ fields, ReadsField members field) ∧
    name ∈ Dict.keys members ∧ name ∉ Dict.keys fields ∧
    ∀ key ∈ Dict.keys members, key ∉ Dict.keys fields → name ≤ key
  | _, _ => False

/-- What is said of an error: it points at the first fault in reading order. -/
structure PointsAtFault (schema : Schema) (j : Json) (e : ConfigError) : Prop where
  refused : ∃ part faulty, j.follow? e.path = some part ∧ schema.follow? e.path = some faulty ∧
    faulty.decode part = .error { problem := e.problem } ∧
    ∀ name, e.problem = .extra name → faulty.ExtraOnly name part
  before : ∀ above step below, e.path = above ++ step :: below →
    ∃ part around, j.follow? above = some part ∧ schema.follow? above = some around ∧
      around.ReadsBefore step part

/-! ### What is read before an error -/

theorem decodeItems_eq_error {decode : Json → Except ConfigError Value} {start : Nat}
    {items : List Json} {e : ConfigError} (h : decodeItems decode start items = .error e) :
    ∃ earlier item later e', items = earlier ++ item :: later ∧
      (∀ j ∈ earlier, ∃ v, decode j = .ok v) ∧ decode item = .error e' ∧
      e = e'.under (.index (start + earlier.length)) := by
  induction items generalizing start with
  | nil => cases h
  | cons j rest ih =>
    unfold decodeItems at h
    cases hj : decode j with
    | error e' =>
      rw [hj] at h
      cases h
      exact ⟨[], j, rest, e', rfl, by simp, hj, rfl⟩
    | ok v =>
      rw [hj] at h
      cases hrest : decodeItems decode (start + 1) rest with
      | ok vs =>
        rw [hrest] at h
        cases h
      | error e₁ =>
        rw [hrest] at h
        cases h
        obtain ⟨earlier, item, later, e', rfl, hearlier, hitem, rfl⟩ := ih hrest
        refine ⟨j :: earlier, item, later, e', rfl, ?_, hitem, ?_⟩
        · simpa using ⟨⟨v, hj⟩, hearlier⟩
        · rw [List.length_cons, show start + (earlier.length + 1) = start + 1 + earlier.length by omega]

theorem decodeFields_eq_error {fields : List (String × Schema)} {members : List (String × Json)}
    {e : ConfigError} (h : decodeFields fields members = .error e) :
    ∃ earlier name schema later, fields = earlier ++ (name, schema) :: later ∧
      (∀ field ∈ earlier, ReadsField members field) ∧
      ((Dict.find? name members = none ∧ e = { problem := .missing name }) ∨
        ∃ j e', Dict.find? name members = some j ∧ schema.decode j = .error e' ∧
          e = e'.under (.member name)) := by
  induction fields with
  | nil => cases h
  | cons field rest ih =>
    obtain ⟨name, schema⟩ := field
    unfold decodeFields at h
    cases hfind : Dict.find? name members with
    | none =>
      rw [hfind] at h
      cases h
      exact ⟨[], name, schema, rest, rfl, by simp, .inl ⟨hfind, rfl⟩⟩
    | some j =>
      rw [hfind] at h
      dsimp only at h
      cases hj : schema.decode j with
      | error e' =>
        rw [hj] at h
        cases h
        exact ⟨[], name, schema, rest, rfl, by simp, .inr ⟨j, e', hfind, hj, rfl⟩⟩
      | ok v =>
        rw [hj] at h
        cases hrest : decodeFields rest members with
        | ok decoded =>
          rw [hrest] at h
          cases h
        | error e₁ =>
          rw [hrest] at h
          cases h
          obtain ⟨earlier, name', schema', later, rfl, hearlier, hfault⟩ := ih hrest
          refine ⟨(name, schema) :: earlier, name', schema', later, rfl, ?_, hfault⟩
          exact List.forall_mem_cons.2 ⟨⟨j, hfind, v, hj⟩, hearlier⟩

theorem readsField_of_decodeFields {fields : List (String × Schema)} {members : List (String × Json)}
    {decoded : List (String × Value)} (h : decodeFields fields members = .ok decoded) :
    ∀ field ∈ fields, ReadsField members field := by
  induction fields generalizing decoded with
  | nil => simp
  | cons field rest ih =>
    obtain ⟨name, schema⟩ := field
    unfold decodeFields at h
    split at h
    · cases h
    · next j hfind =>
      split at h
      · cases h
      · next v hv =>
        split at h
        · cases h
        · next others hothers => exact List.forall_mem_cons.2 ⟨⟨j, hfind, v, hv⟩, ih hothers⟩

/-- Of keys that are kept in order, the first that is refused is the smallest. -/
theorem extraOnly_of_find? {fields : List (String × Schema)} {members : List (String × Json)}
    (hsorted : Dict.Sorted members) (hfields : ∀ field ∈ fields, ReadsField members field)
    {extra : String × Json} (h : members.find? (fun m => !(Dict.contains m.1 fields)) = some extra) :
    (Schema.struct fields).ExtraOnly extra.1 (.obj members) := by
  obtain ⟨hrefused, earlier, later, rfl, hearlier⟩ := List.find?_eq_some_iff_append.1 h
  have hkeys : ∀ name, Dict.contains name fields = true ↔ name ∈ Dict.keys fields := fun name => by
    rw [Dict.contains_eq, Dict.find?_isSome_iff, Dict.keys]
  simp only [Bool.not_eq_true', ← Bool.not_eq_true, hkeys] at hrefused
  refine ⟨hfields, ?_, hrefused, ?_⟩
  · simp [Dict.keys]
  · intro key hkey hnone
    obtain ⟨member, hmem, rfl⟩ := List.mem_map.1 hkey
    rcases List.mem_append.1 hmem with hbefore | hafter
    · have hfield := hearlier member hbefore
      rw [Bool.not_not, hkeys] at hfield
      exact absurd hfield hnone
    · rcases List.mem_cons.1 hafter with rfl | hlater
      · exact le_rfl
      · have hordered := (List.pairwise_append.1 hsorted).2.1
        exact le_of_lt ((List.pairwise_cons.1 hordered).1 member hlater)

/-! ### One step of the path -/

namespace PointsAtFault

variable {schema inner : Schema} {j part : Json} {e : ConfigError} {step : PathStep}

theorem here {problem : ConfigProblem} (hbare : schema.bare = schema)
    (h : schema.decode j = .error { problem })
    (hextra : ∀ name, problem = .extra name → schema.ExtraOnly name j) :
    schema.PointsAtFault j { problem } where
  refused := ⟨j, schema, rfl, congrArg some hbare, h, hextra⟩
  before above step below hpath := by simp at hpath

/-- A fault of a part is one step further below. -/
theorem under (h : inner.PointsAtFault part e) (hbare : schema.bare = schema)
    (hj : j.step? step = some part) (hschema : schema.step? step = some inner)
    (hbefore : schema.ReadsBefore step j) : schema.PointsAtFault j (e.under step) where
  refused := by
    obtain ⟨fault, faulty, hfault, hfaulty, hrefused⟩ := h.refused
    refine ⟨fault, faulty, ?_, ?_, hrefused⟩
    · exact Option.bind_eq_some_iff.2 ⟨part, hj, hfault⟩
    · exact Option.bind_eq_some_iff.2 ⟨inner, hschema, hfaulty⟩
  before above step' below hpath := by
    cases above with
    | nil =>
      obtain ⟨rfl, -⟩ := List.cons.inj hpath
      exact ⟨j, schema, rfl, congrArg some hbare, hbefore⟩
    | cons first rest =>
      obtain ⟨rfl, hrest⟩ := List.cons.inj hpath
      obtain ⟨at', around, hat, haround, hreads⟩ := h.before rest step' below hrest
      refine ⟨at', around, ?_, ?_, hreads⟩
      · exact Option.bind_eq_some_iff.2 ⟨part, hj, hat⟩
      · exact Option.bind_eq_some_iff.2 ⟨inner, hschema, haround⟩

theorem follow?_option (path : List PathStep) (inner : Schema) :
    (Schema.option inner).follow? path = inner.follow? path := by
  cases path <;> rfl

theorem option (h : inner.PointsAtFault j e) : (Schema.option inner).PointsAtFault j e where
  refused := by
    simp only [follow?_option]
    exact h.refused
  before := by
    simp only [follow?_option]
    exact h.before

end PointsAtFault

theorem pointsAtFault_items {inner : Schema} {items : List Json} {e : ConfigError}
    (hinner : ∀ item ∈ items, ∀ e, inner.decode item = .error e → inner.PointsAtFault item e)
    (h : decodeItems inner.decode 0 items = .error e) :
    (Schema.list inner).PointsAtFault (.arr items) e := by
  obtain ⟨earlier, item, later, e', rfl, hearlier, hitem, rfl⟩ := decodeItems_eq_error h
  rw [Nat.zero_add]
  refine (hinner item (by simp) e' hitem).under rfl ?_ rfl ?_
  · simp [Json.step?]
  · simpa [ReadsBefore, Reads] using hearlier

theorem pointsAtFault_fields {fields : List (String × Schema)} {members : List (String × Json)}
    {e : ConfigError} (hnodup : (fields.map (·.1)).Nodup)
    (hinner : ∀ field ∈ fields, ∀ j, Dict.find? field.1 members = some j →
      ∀ e, field.2.decode j = .error e → field.2.PointsAtFault j e)
    (h : decodeFields fields members = .error e) :
    (Schema.struct fields).PointsAtFault (.obj members) e := by
  obtain ⟨earlier, name, schema, later, heq, hearlier, hfault⟩ := decodeFields_eq_error h
  have hmem : (name, schema) ∈ fields := by simp [heq]
  rcases hfault with ⟨-, rfl⟩ | ⟨j, e', hj, hdecode, rfl⟩
  · refine .here rfl ?_ (by simp)
    simp only [decode, h]
  · refine (hinner _ hmem j hj e' hdecode).under rfl hj ?_ ?_
    · exact Dict.find?_of_nodup hnodup hmem
    · -- as no field occurs twice, those before the first of that name are the earlier ones
      have hnames : ∀ field ∈ earlier, field.1 ≠ name := by
        intro field hfield hname
        rw [heq, List.map_append, List.nodup_append] at hnodup
        exact hnodup.2.2 _ (List.mem_map_of_mem hfield) name (by simp) hname
      have htake : fields.takeWhile (·.1 ≠ name) = earlier := by
        rw [heq, List.takeWhile_append_of_pos (by simpa using hnames)]
        simp
      intro field hfield
      rw [htake] at hfield
      exact hearlier field hfield

mutual

theorem pointsAtFault : (schema : Schema) → schema.Distinct → {j : Json} → j.Ordered →
    {e : ConfigError} → schema.decode j = .error e → schema.PointsAtFault j e
  | .atom kind, _, j, _, e, h => by
    have hroot : e = mismatch (.atom kind) j := by
      unfold decode at h
      split at h
      · cases h
      · exact (Except.error.inj h).symm
    subst hroot
    exact .here rfl h (by simp)
  | .option inner, hdistinct, j, hordered, e, h => by
    unfold Distinct at hdistinct
    have hinner : inner.decode j = .error e := by
      unfold decode at h
      split at h
      · cases h
      · split at h
        · next hinner =>
          cases h
          exact hinner
        · cases h
    exact (pointsAtFault inner hdistinct hordered hinner).option
  | .list inner, hdistinct, j, hordered, e, h => by
    unfold Distinct at hdistinct
    cases j with
    | arr items =>
      have hitems : decodeItems inner.decode 0 items = .error e := by
        unfold decode at h
        dsimp only at h
        split at h
        · next hitems =>
          cases h
          exact hitems
        · cases h
      apply pointsAtFault_items _ hitems
      intro item hitem e he
      exact pointsAtFault inner hdistinct (hordered.item item hitem) he
    | null | bool | int | float | str | obj =>
      cases h
      exact .here rfl rfl (by simp)
  | .struct fields, hdistinct, j, hordered, e, h => by
    unfold Distinct at hdistinct
    cases j with
    | obj members =>
      cases hdecoded : decodeFields fields members with
      | error e' =>
        obtain rfl : e' = e := by simpa [decode, hdecoded] using h
        apply pointsAtFault_fields hdistinct.1 _ hdecoded
        intro field hfield j hj e he
        have hstep : (Json.obj members).step? (.member field.1) = some j := hj
        exact pointsAtFault_field fields hdistinct.2 field hfield (hordered.step hstep) he
      | ok decoded =>
        cases hfind : members.find? (fun m => !(Dict.contains m.1 fields)) with
        | none => simp [decode, hdecoded, hfind] at h
        | some extra =>
          obtain rfl : { problem := .extra extra.1 } = e := by simpa [decode, hdecoded, hfind] using h
          have hfields := readsField_of_decodeFields hdecoded
          have hextra := extraOnly_of_find? hordered.sorted hfields hfind
          apply PointsAtFault.here rfl h
          intro name hname
          cases hname
          exact hextra
    | null | bool | int | float | str | arr =>
      cases h
      exact .here rfl rfl (by simp)

theorem pointsAtFault_field : (fields : List (String × Schema)) → DistinctFields fields →
    ∀ field ∈ fields, ∀ {j : Json}, j.Ordered → ∀ {e : ConfigError}, field.2.decode j = .error e →
      field.2.PointsAtFault j e
  | (name, schema) :: rest, hdistinct, field, hfield, j, hordered, e, h => by
    unfold DistinctFields at hdistinct
    rcases List.mem_cons.1 hfield with rfl | hrest
    · exact pointsAtFault schema hdistinct.1 hordered h
    · exact pointsAtFault_field rest hdistinct.2 field hrest hordered h

end

/-- Following the path of an error, in the tree and in the schema, leads to a part that is refused with
the same problem and no path. If the problem is an extra key, all fields of the part are read without
error, and the key is the smallest that is no field. Before each step of the path, all items before the
one, or all fields declared before the one, are read without error. -/
theorem decode_error_first_fault {schema : Schema} (hdistinct : schema.Distinct) {j : Json}
    (hordered : j.Ordered) {e : ConfigError} (h : schema.decode j = .error e) :
    (∃ part faulty, j.follow? e.path = some part ∧ schema.follow? e.path = some faulty ∧
      faulty.decode part = .error { problem := e.problem } ∧
      ∀ name, e.problem = .extra name → faulty.ExtraOnly name part) ∧
    ∀ above step below, e.path = above ++ step :: below →
      ∃ part around, j.follow? above = some part ∧ schema.follow? above = some around ∧
        around.ReadsBefore step part := by
  have hfault := pointsAtFault schema hdistinct hordered h
  exact ⟨hfault.refused, hfault.before⟩

/-- A panel may show rows, each with a label and a level. -/
def panelRow : List (String × Schema) := [("label", .atom .string), ("level", .atom .int)]

def panelSchema : Schema :=
  .struct [("title", .atom .string), ("rows", .option (.list (.struct panelRow)))]

/-- The second row of this panel has two keys too many, and the third is no row. -/
def panelTree : Json :=
  .obj [("rows", .arr [.obj [("label", .str "hall"), ("level", .int ⟨3, by decide, by decide⟩)],
      .obj [("dim", .null), ("label", .str "porch"), ("level", .int ⟨4, by decide, by decide⟩),
        ("old", .null)],
      .null]),
    ("title", .str "ground floor")]

/-- The error names the smaller of the two, in its row, and the row before is accepted. -/
theorem decode_error_first_fault_panel :
    panelSchema.Distinct ∧ panelTree.Ordered ∧
    panelSchema.decode panelTree =
      .error { path := [.member "rows", .index 1], problem := .extra "dim" } ∧
    (∃ part, panelTree.follow? [.member "rows", .index 1] = some part ∧
      (Schema.struct panelRow).decode part = .error { problem := .extra "dim" } ∧
      (Schema.struct panelRow).ExtraOnly "dim" part) ∧
    ∃ part, panelTree.follow? [.member "rows"] = some part ∧
      (Schema.list (.struct panelRow)).ReadsBefore (.index 1) part := by
  have hdistinct : panelSchema.Distinct := by
    simp [panelSchema, panelRow, Distinct, DistinctFields]
  have hordered : panelTree.Ordered := Json.ordered_canonical panelTree
  have herror : panelSchema.decode panelTree =
      .error { path := [.member "rows", .index 1], problem := .extra "dim" } := rfl
  obtain ⟨⟨part, faulty, hpart, hfaulty, hrefused, hextra⟩, hbefore⟩ :=
    decode_error_first_fault hdistinct hordered herror
  obtain ⟨rows, around, hrows, haround, hreads⟩ := hbefore [.member "rows"] (.index 1) [] rfl
  cases hfaulty
  cases haround
  exact ⟨hdistinct, hordered, herror, ⟨part, hpart, hrefused, hextra _ rfl⟩, rows, hrows, hreads⟩

end Schema

end DriverHub
