import DriverHub.Proofs.Schema.CarryOver
import DriverHub.Proofs.Schema.Settled

/-! What a value keeps under another schema. A path through structs leads to a part of a schema, and to
the field of a value that is in its place; migration is described by what it leaves at the end of each
path. -/

namespace DriverHub

/-- A value of the shape of a schema, down to every item of a list; floats need not be finite. -/
inductive Value.HasShape : Value → Schema → Prop
  | atom {kind : AtomKind} {v : Value} (fits : (Schema.atom kind).matchesKind v = true) :
    HasShape v (.atom kind)
  | list {inner : Schema} {items : List Value} (shapes : ∀ v ∈ items, HasShape v inner) :
    HasShape (.list items) (.list inner)
  | absent {inner : Schema} : HasShape .absent (.option inner)
  | present {inner : Schema} {held : Value} (shape : HasShape held inner) :
    HasShape (.present held) (.option inner)
  | struct {fields : List (String × Schema)} {members : List (String × Value)}
      (sorted : Dict.Sorted members)
      (names : ∀ name, (Dict.find? name members).isSome ↔ name ∈ fields.map (·.1))
      (shapes : ∀ name schema v, (name, schema) ∈ fields → Dict.find? name members = some v →
        HasShape v schema) :
    HasShape (.object members) (.struct fields)

/-- The field of a value at the end of a path through objects. -/
def Value.at? : List String → Value → Option Value
  | [], v => some v
  | name :: path, v => (v.field? name).bind (at? path)

@[simp] theorem Value.at?_nil (v : Value) : v.at? [] = some v := rfl

@[simp] theorem Value.at?_cons (name : String) (path : List String) (v : Value) :
    v.at? (name :: path) = (v.field? name).bind (Value.at? path) := rfl

namespace Schema

/-- The part of a schema at the end of a path through structs. -/
def at? : List String → Schema → Option Schema
  | [], schema => some schema
  | name :: path, schema => (schema.field? name).bind (at? path)

/-! ### Shapes -/

theorem matchesKind_of_holds {kind : AtomKind} {v : Value} (h : kind.Holds v) :
    (Schema.atom kind).matchesKind v = true := by
  cases kind <;> cases v <;> first | rfl | exact h.elim

mutual

/-- What conforms has the shape. -/
theorem hasShape_of_conforms : (schema : Schema) → {v : Value} → schema.Conforms v → v.HasShape schema
  | .atom kind, v, h => by
    unfold Conforms at h
    exact .atom (matchesKind_of_holds h)
  | .list inner, v, h => by
    cases v with
    | list items =>
      unfold Conforms at h
      exact .list fun w hw => hasShape_of_conforms inner (h w hw)
    | null | int | float | bool | str | range | absent | present | object =>
      unfold Conforms at h
      exact h.elim
  | .option inner, v, h => by
    cases v with
    | absent => exact .absent
    | present held =>
      unfold Conforms at h
      exact .present (hasShape_of_conforms inner h)
    | null | int | float | bool | str | range | list | object =>
      unfold Conforms at h
      exact h.elim
  | .struct fields, v, h => by
    cases v with
    | object members =>
      unfold Conforms at h
      obtain ⟨hsorted, hfields, honly⟩ := h
      refine .struct hsorted (fun name => ?_) (hasShape_of_conformsFields fields hfields)
      constructor
      · intro hsome
        obtain ⟨v, hv⟩ := Option.isSome_iff_exists.1 hsome
        obtain ⟨schema, hfield⟩ := honly name v (Dict.mem_of_find? hv)
        exact List.mem_map.2 ⟨(name, schema), hfield, rfl⟩
      · intro hname
        obtain ⟨⟨name, schema⟩, hfield, rfl⟩ := List.mem_map.1 hname
        obtain ⟨v, hv, -⟩ := conformsFields_iff.1 hfields name schema hfield
        simp [hv]
    | null | int | float | bool | str | range | list | absent | present =>
      unfold Conforms at h
      exact h.elim

theorem hasShape_of_conformsFields : (fields : List (String × Schema)) →
    {members : List (String × Value)} → ConformsFields fields members → ∀ name schema v,
    (name, schema) ∈ fields → Dict.find? name members = some v → v.HasShape schema
  | (name, schema) :: rest, members, h, name', schema', v, hfield, hv => by
    unfold ConformsFields at h
    obtain ⟨⟨w, hw, hconforms⟩, hrest⟩ := h
    rcases List.mem_cons.1 hfield with heq | hfield
    · cases heq
      rw [hv] at hw
      cases hw
      exact hasShape_of_conforms schema hconforms
    · exact hasShape_of_conformsFields rest hrest name' schema' v hfield hv

end

theorem matchesKind_of_hasShape {schema : Schema} {v : Value} (h : v.HasShape schema) :
    schema.matchesKind v = true := by
  cases h with
  | atom fits => exact fits
  | list | absent | present | struct => rfl

/-! ### Paths -/

@[simp] theorem at?_nil (schema : Schema) : schema.at? [] = some schema := rfl

@[simp] theorem at?_cons (name : String) (path : List String) (schema : Schema) :
    schema.at? (name :: path) = (schema.field? name).bind (at? path) := rfl

theorem exists_struct {schema part : Schema} {name : String} (h : schema.field? name = some part) :
    ∃ fields, schema = .struct fields ∧ Dict.find? name fields = some part := by
  cases schema <;> simp_all [field?]

theorem DistinctFields.of_mem {fields : List (String × Schema)} (h : DistinctFields fields) {name : String}
    {schema : Schema} (hmem : (name, schema) ∈ fields) : schema.Distinct := by
  induction fields with
  | nil => cases hmem
  | cons field rest ih =>
    unfold DistinctFields at h
    rcases List.mem_cons.1 hmem with rfl | hmem
    · exact h.1
    · exact ih h.2 hmem

theorem Distinct.of_field? {schema part : Schema} {name : String} (h : schema.Distinct)
    (hpart : schema.field? name = some part) : part.Distinct := by
  obtain ⟨fields, rfl, hfind⟩ := exists_struct hpart
  unfold Distinct at h
  exact h.2.of_mem (Dict.mem_of_find? hfind)

theorem Distinct.of_at? {schema part : Schema} {path : List String} (h : schema.Distinct)
    (hpart : schema.at? path = some part) : part.Distinct := by
  induction path generalizing schema with
  | nil => simp_all
  | cons name path ih =>
    obtain ⟨next, hnext, hrest⟩ := Option.bind_eq_some_iff.1 hpart
    exact ih (h.of_field? hnext) hrest

/-- Along a path through a schema a value of its shape has fields, of the shapes that it meets. -/
theorem exists_at? {schema part : Schema} {path : List String} {v : Value}
    (h : v.HasShape schema) (hpart : schema.at? path = some part) :
    ∃ w, v.at? path = some w ∧ w.HasShape part := by
  induction path generalizing schema v with
  | nil => simp_all
  | cons name path ih =>
    obtain ⟨next, hnext, hrest⟩ := Option.bind_eq_some_iff.1 hpart
    obtain ⟨fields, rfl, hfind⟩ := exists_struct hnext
    cases h with
    | @struct _ members _ names shapes =>
      have hmem : (name, next) ∈ fields := Dict.mem_of_find? hfind
      obtain ⟨w, hw⟩ := Option.isSome_iff_exists.1
        ((names name).2 (List.mem_map.2 ⟨(name, next), hmem, rfl⟩))
      obtain ⟨u, hu, hshape⟩ := ih (shapes name next w hmem hw) hrest
      exact ⟨u, Option.bind_eq_some_iff.2 ⟨w, hw, hu⟩, hshape⟩

/-! ### Migration along a path -/

theorem field?_renew {fields : List (String × Schema)} (hnodup : (fields.map (·.1)).Nodup)
    (old : Option Value) (name : String) :
    ((Schema.struct fields).renew old).field? name =
      (Dict.find? name fields).map fun schema => schema.renew (old.bind (Value.field? name)) := by
  rw [renew_struct]
  exact Dict.find?_ofList_map hnodup
    (fun name schema => schema.renew (old.bind (Value.field? name))) name

/-- A struct goes on as an object with its fields. -/
theorem exists_renew_struct {fields : List (String × Schema)} (hnodup : (fields.map (·.1)).Nodup)
    (old : Option Value) :
    ∃ members, (Schema.struct fields).renew old = .object members ∧ Dict.Sorted members ∧
      ∀ name, (Dict.find? name members).isSome ↔ name ∈ fields.map (·.1) := by
  refine ⟨_, renew_struct fields old, Dict.sorted_ofList _, fun name => ?_⟩
  have hname := field?_renew hnodup old name
  rw [renew_struct] at hname
  change Dict.find? name (Dict.ofList _) = _ at hname
  rw [hname, Option.isSome_map, Dict.find?_isSome_iff]

theorem migrate_of_ne {kind kind' : AtomKind} {v : Value} (hv : v.HasShape (.atom kind))
    (hne : kind ≠ kind') : (Schema.atom kind').migrate v = kind'.zero := by
  cases hv with
  | atom fits => cases kind <;> cases v <;> cases kind' <;> simp_all [migrate, matchesKind]

/-- Going along a path and carrying over may be exchanged. -/
theorem at?_renew {schema part : Schema} {path : List String} (h : schema.Distinct)
    (hpart : schema.at? path = some part) (old : Option Value) :
    (schema.renew old).at? path = some (part.renew (old.bind (Value.at? path))) := by
  induction path generalizing schema old with
  | nil =>
    obtain rfl := Option.some.inj hpart
    cases old <;> rfl
  | cons name path ih =>
    obtain ⟨next, hnext, hrest⟩ := Option.bind_eq_some_iff.1 hpart
    obtain ⟨fields, rfl, hfind⟩ := exists_struct hnext
    have hdistinct := h
    unfold Distinct at hdistinct
    simp only [Value.at?_cons]
    rw [field?_renew hdistinct.1, hfind, Option.map_some, Option.bind_some,
      ih (h.of_field? hnext) hrest]
    cases old <;> rfl

theorem settled_of_hasShape {schema : Schema} {v : Value} (hv : v.HasShape schema)
    (h : schema.Distinct) : v.Settled schema := by
  induction hv with
  | atom fits => exact .atom fits
  | @list inner items shapes _ =>
    refine .list ?_
    cases items with
    | nil => rfl
    | cons first rest => exact matchesKind_of_hasShape (shapes first List.mem_cons_self)
  | absent => exact .absent
  | present shape _ => exact .present (matchesKind_of_hasShape shape)
  | @struct fields members sorted names _ ih =>
    unfold Distinct at h
    refine .struct sorted ?_ ?_
    · intro name
      rw [names, Dict.find?_ofList h.1, Dict.find?_isSome_iff]
    · intro name schema v hfield hv
      rw [Dict.find?_ofList h.1] at hfield
      have hmem : (name, schema) ∈ fields := Dict.mem_of_find? hfield
      exact ih name schema v hmem hv (h.2.of_mem hmem)

/-- What has the shape already stays as it is. -/
theorem migrate_of_hasShape {schema : Schema} {v : Value} (hv : v.HasShape schema)
    (h : schema.Distinct) : schema.migrate v = v :=
  migrate_of_settled (settled_of_hasShape hv h)

/-! ### From one plain schema to another -/

theorem hasShape_zero {schema : Schema} (h : schema.Distinct) : schema.zero.HasShape schema :=
  hasShape_of_conforms schema (conforms_zero schema h)

theorem PlainFields.of_mem {fields : List (String × Schema)} (h : PlainFields fields) {name : String}
    {schema : Schema} (hmem : (name, schema) ∈ fields) : schema.Plain := by
  induction fields with
  | nil => cases hmem
  | cons field rest ih =>
    unfold PlainFields at h
    rcases List.mem_cons.1 hmem with rfl | hmem
    · exact h.1
    · exact ih h.2 hmem

theorem exists_shape_of_field? {schema : Schema} (hplain : schema.Plain) {v w : Value}
    (h : v.HasShape schema) {name : String} (hw : v.field? name = some w) :
    ∃ part : Schema, part.Plain ∧ w.HasShape part := by
  cases h with
  | @struct fields members _ names shapes =>
    unfold Plain at hplain
    have hname : name ∈ fields.map (·.1) := (names name).1 (Option.isSome_iff_exists.2 ⟨w, hw⟩)
    obtain ⟨⟨name, part⟩, hmem, rfl⟩ := List.mem_map.1 hname
    exact ⟨part, hplain.2.of_mem hmem, shapes name part w hmem hw⟩
  | @atom kind _ fits =>
    cases v with
    | object => cases kind <;> cases fits
    | null | int | float | bool | str | range | list | absent | present => cases hw
  | list | absent | present => cases hw

theorem exists_kind_of_list {schema : Schema} (hplain : schema.Plain) {items : List Value}
    (h : (Value.list items).HasShape schema) :
    ∃ kind : AtomKind, ∀ v ∈ items, (Schema.atom kind).matchesKind v = true := by
  cases h with
  | @atom kind _ fits => cases kind <;> cases fits
  | list shapes =>
    unfold Plain at hplain
    obtain ⟨kind, rfl⟩ := hplain
    exact ⟨kind, fun v hv => matchesKind_of_hasShape (shapes v hv)⟩

theorem kind_eq_of_matches {kind kind' : AtomKind} {v : Value}
    (h : (Schema.atom kind).matchesKind v = true) (h' : (Schema.atom kind').matchesKind v = true) :
    kind = kind' := by
  cases kind <;> cases v <;> cases kind' <;> simp_all [matchesKind]

mutual

/-- What is carried over between plain schemas has the new shape, although lists are judged by their
first item alone. -/
theorem hasShape_migrate : (schema : Schema) → schema.Plain → {old : Schema} → old.Plain →
    {v : Value} → v.HasShape old → (schema.migrate v).HasShape schema
  | .atom kind, _, old, _, v, _ => by
    unfold migrate
    split
    · next fits => exact .atom fits
    · exact hasShape_zero (distinct_atom kind)
  | .option inner, hplain, old, _, v, _ => by
    unfold Plain at hplain
    obtain ⟨kind, rfl⟩ := hplain
    unfold migrate
    split
    · split
      · next fits => exact .present (.atom fits)
      · exact .absent
    · exact .absent
  | .list inner, hplain, old, hold, v, hv => by
    unfold Plain at hplain
    obtain ⟨kind, rfl⟩ := hplain
    unfold migrate
    split
    · next items =>
      split
      · next fits =>
        obtain ⟨kind', hkinds⟩ := exists_kind_of_list hold hv
        cases items with
        | nil => exact .list nofun
        | cons first rest =>
          obtain rfl := kind_eq_of_matches (hkinds first List.mem_cons_self) fits
          exact .list fun w hw => .atom (hkinds w hw)
      · exact .list nofun
    · exact .list nofun
  | .struct fields, hplain, old, hold, v, hv => by
    unfold Plain at hplain
    obtain ⟨members, hmembers, hsorted, hnames⟩ := exists_renew_struct hplain.1 (some v)
    change ((Schema.struct fields).renew (some v)).HasShape _
    rw [hmembers]
    refine .struct hsorted hnames fun name schema w hmem hw => ?_
    have hfind : Dict.find? name fields = some schema := by
      rw [← Dict.find?_ofList hplain.1, Dict.find?_ofList_of_mem hplain.1 hmem]
    have hfield := field?_renew hplain.1 (some v) name
    rw [hmembers, hfind] at hfield
    obtain rfl : w = schema.renew (v.field? name) := Option.some.inj (hw.symm.trans hfield)
    exact hasShape_renew fields hplain.2 hold hv hmem

theorem hasShape_renew : (fields : List (String × Schema)) → PlainFields fields → {old : Schema} →
    old.Plain → {v : Value} → v.HasShape old → {name : String} → {schema : Schema} →
    (name, schema) ∈ fields → (schema.renew (v.field? name)).HasShape schema
  | (name, schema) :: rest, hplain, old, hold, v, hv, name', schema', hmem => by
    unfold PlainFields at hplain
    rcases List.mem_cons.1 hmem with heq | hmem
    · cases heq
      cases hfield : v.field? name with
      | none => exact hasShape_zero hplain.1.distinct
      | some w =>
        obtain ⟨part, hpart, hw⟩ := exists_shape_of_field? hold hv hfield
        exact hasShape_migrate schema hplain.1 hpart hw
    · exact hasShape_renew rest hplain.2 hold hv hmem

end

/-! ### Compatible data -/

/-- Migration keeps what is compatible. Each struct of the new schema gets just its fields; a part that
both schemas have at the same place keeps its value, so under the schema that it has already a value
stays as it is; and what the value does not have, and each atom of another kind, starts from zero. -/
theorem migrate_keeps_compatible {old new : Schema} {v : Value} (hold : old.Distinct)
    (hnew : new.Distinct) (hv : v.HasShape old) :
    (∀ path fields, new.at? path = some (.struct fields) →
      ∃ members, (new.migrate v).at? path = some (.object members) ∧ Dict.Sorted members ∧
        ∀ name, (Dict.find? name members).isSome ↔ name ∈ fields.map (·.1)) ∧
    (∀ path part, old.at? path = some part → new.at? path = some part →
      ∃ w, v.at? path = some w ∧ (new.migrate v).at? path = some w) ∧
    old.migrate v = v ∧
    (∀ path part, new.at? path = some part → v.at? path = none →
      (new.migrate v).at? path = some part.zero) ∧
    ∀ path kind kind', old.at? path = some (.atom kind) → new.at? path = some (.atom kind') →
      kind ≠ kind' → (new.migrate v).at? path = some kind'.zero := by
  have hplace {path : List String} {part : Schema} (h : new.at? path = some part) :
      (new.migrate v).at? path = some (part.renew (v.at? path)) := at?_renew hnew h (some v)
  refine ⟨?_, ?_, migrate_of_hasShape hv hold, ?_, ?_⟩
  · intro path fields hstruct
    have hdistinct := hnew.of_at? hstruct
    unfold Distinct at hdistinct
    obtain ⟨members, hmembers, hkept⟩ := exists_renew_struct hdistinct.1 (v.at? path)
    exact ⟨members, (hplace hstruct).trans (congrArg some hmembers), hkept⟩
  · intro path part hpart hpart'
    obtain ⟨w, hw, hshape⟩ := exists_at? hv hpart
    refine ⟨w, hw, ?_⟩
    rw [hplace hpart', hw]
    exact congrArg some (migrate_of_hasShape hshape (hnew.of_at? hpart'))
  · intro path part hpart hnone
    rw [hplace hpart, hnone]
    rfl
  · intro path kind kind' hkind hkind' hne
    obtain ⟨w, hw, hshape⟩ := exists_at? hv hkind
    rw [hplace hkind', hw]
    exact congrArg some (migrate_of_ne hshape hne)

/-- The settings of a heater, before and after its script is edited: the floor of the room becomes a
text, the target goes, and a mode comes. -/
def heaterSettings : Schema :=
  .struct [("target", .atom .int), ("note", .option (.atom .string)),
    ("room", .struct [("name", .atom .string), ("floor", .atom .int)])]

def heaterModes : Schema :=
  .struct [("room", .struct [("floor", .atom .string), ("name", .atom .string)]),
    ("note", .option (.atom .string)), ("mode", .struct [("frost", .atom .bool)])]

def heater : Value :=
  .object [("note", .present (.str "old")),
    ("room", .object [("floor", .int 2), ("name", .str "attic")]), ("target", .int 21)]

theorem distinct_heaterSettings : heaterSettings.Distinct := by
  simp [heaterSettings, Distinct, DistinctFields]

theorem hasShape_heater : heater.HasShape heaterSettings := by
  have hread : heaterSettings.decode heater.toJson = .ok heater := rfl
  exact hasShape_of_conforms heaterSettings (conforms_of_decode _ distinct_heaterSettings hread)

theorem migrate_keeps_compatible_heater :
    heaterSettings.Distinct ∧ heaterModes.Distinct ∧ heater.HasShape heaterSettings ∧
    (heaterModes.migrate heater).at? ["room", "name"] = some (.str "attic") ∧
    (heaterModes.migrate heater).at? ["room", "floor"] = some (.str "") ∧
    (heaterModes.migrate heater).at? ["mode", "frost"] = some (.bool false) ∧
    heaterSettings.migrate heater = heater := by
  have hnew : heaterModes.Distinct := by simp [heaterModes, Distinct, DistinctFields]
  obtain ⟨-, same, self, added, changed⟩ :=
    migrate_keeps_compatible distinct_heaterSettings hnew hasShape_heater
  obtain ⟨w, hw, hkept⟩ := same ["room", "name"] (.atom .string) rfl rfl
  refine ⟨distinct_heaterSettings, hnew, hasShape_heater, ?_, ?_, ?_, self⟩
  · rw [hkept, ← hw]
    rfl
  · exact changed ["room", "floor"] .int .string rfl rfl (by decide)
  · rw [added ["mode", "frost"] (.atom .bool) rfl rfl]
    rfl

end Schema

end DriverHub
