import DriverHub.Proofs.Schema.Decode
import DriverHub.Proofs.Schema.Uniform
import DriverHub.Schema.Restore

/-! Values that come under another schema. All values that conform to plain schemas are tame,
whatever the schema, and stay tame when they are read back without one; tame values are uniform, so of
them everything that is carried over conforms to the new schema. -/

namespace DriverHub

/-- A value whose lists hold atoms of one kind, and whose options hold atoms; floats are finite. -/
inductive Value.Tame : Value → Prop
  | null : Tame .null
  | atom {kind : AtomKind} {v : Value} (holds : kind.Holds v) : Tame v
  | absent : Tame .absent
  | present {kind : AtomKind} {held : Value} (holds : kind.Holds held) : Tame (.present held)
  | list {kind : AtomKind} {items : List Value} (holds : ∀ v ∈ items, kind.Holds v) : Tame (.list items)
  | object {members : List (String × Value)} (sorted : Dict.Sorted members)
      (tame : ∀ name v, (name, v) ∈ members → Tame v) : Tame (.object members)

theorem Value.Tame.uniform {v : Value} (h : v.Tame) : v.Uniform := by
  induction h with
  | null => exact .null
  | atom holds => exact AtomKind.uniform_of_holds holds
  | absent => exact .absent
  | present holds => exact .present (AtomKind.uniform_of_holds holds)
  | list holds =>
    refine .list (fun v hv w hw => ?_) fun v hv => AtomKind.uniform_of_holds (holds v hv)
    rw [AtomKind.kind_of_holds (holds v hv), AtomKind.kind_of_holds (holds w hw)]
  | object _ _ ih => exact .object ih

theorem Value.Tame.solid {v : Value} (h : v.Tame) : v.Solid := by
  induction h with
  | null | absent =>
    unfold Solid
    trivial
  | @atom kind _ holds => exact kind.solid_of_holds holds
  | @present kind _ holds =>
    unfold Solid
    exact ⟨kind.ne_absent_of_holds holds, kind.solid_of_holds holds⟩
  | @list kind _ holds =>
    unfold Solid
    exact solidItems_iff.2 fun v hv => kind.solid_of_holds (holds v hv)
  | object _ _ ih =>
    unfold Solid
    exact solidFields_iff.2 ih

namespace Schema

mutual

theorem tame_of_conforms : (schema : Schema) → schema.Plain → {v : Value} → schema.Conforms v → v.Tame
  | .atom kind, _, v, h => by
    unfold Conforms at h
    exact .atom h
  | .option inner, hplain, v, h => by
    unfold Plain at hplain
    obtain ⟨kind, rfl⟩ := hplain
    cases v with
    | absent => exact .absent
    | present held =>
      unfold Conforms Conforms at h
      exact .present h
    | null | int | float | bool | str | range | list | object =>
      unfold Conforms at h
      exact h.elim
  | .list inner, hplain, v, h => by
    unfold Plain at hplain
    obtain ⟨kind, rfl⟩ := hplain
    cases v with
    | list items =>
      unfold Conforms at h
      have hitems : ∀ v ∈ items, kind.Holds v := by
        intro v hv
        have hitem := h v hv
        unfold Conforms at hitem
        exact hitem
      exact .list hitems
    | null | int | float | bool | str | range | absent | present | object =>
      unfold Conforms at h
      exact h.elim
  | .struct fields, hplain, v, h => by
    unfold Plain at hplain
    cases v with
    | object members =>
      unfold Conforms at h
      obtain ⟨hsorted, hfields, honly⟩ := h
      refine .object hsorted fun name v hmem => ?_
      obtain ⟨schema, hfield⟩ := honly name v hmem
      exact tame_of_conformsFields fields hplain.2 hfields hfield (Dict.find?_of_mem hsorted hmem)
    | null | int | float | bool | str | range | list | absent | present =>
      unfold Conforms at h
      exact h.elim

theorem tame_of_conformsFields : (fields : List (String × Schema)) → PlainFields fields →
    {members : List (String × Value)} → ConformsFields fields members → {name : String} →
    {schema : Schema} → (name, schema) ∈ fields → {v : Value} →
    Dict.find? name members = some v → v.Tame
  | (name, schema) :: rest, hplain, members, h, name', schema', hfield, v, hv => by
    unfold PlainFields at hplain
    unfold ConformsFields at h
    obtain ⟨⟨w, hw, hconforms⟩, hrest⟩ := h
    rcases List.mem_cons.1 hfield with heq | hfield
    · cases heq
      rw [hv] at hw
      cases hw
      exact tame_of_conforms schema hplain.1 hconforms
    · exact tame_of_conformsFields rest hplain.2 hrest hfield hv

end

end Schema

namespace Value

/-! ### Reading back without a schema -/

theorem ofJson_toJson_atom {kind : AtomKind} {v : Value} (h : kind.Holds v) : ofJson v.toJson = v := by
  cases kind with
  | int =>
    cases v with
    | int i =>
      have hlt : i.toInt < 0x8000000000000000 := i.toInt_lt
      unfold toJson Json.ofInt64 JsonInt.ofInt64 ofJson ofJsonInt
      simp only
      rw [if_pos hlt, Int64.ofInt_toInt]
    | null | float | bool | str | range | list | absent | present | object => exact h.elim
  | float =>
    cases v with
    | float x =>
      have hx : x.isFinite = true := h
      unfold toJson Json.ofBinary64?
      rw [dif_pos hx]
      rfl
    | null | int | bool | str | range | list | absent | present | object => exact h.elim
  | bool =>
    cases v with
    | bool b => rfl
    | null | int | float | str | range | list | absent | present | object => exact h.elim
  | string =>
    cases v with
    | str s => rfl
    | null | int | float | bool | range | list | absent | present | object => exact h.elim

theorem ofJsonItems_toJsonItems {kind : AtomKind} {items : List Value}
    (h : ∀ v ∈ items, kind.Holds v) : ofJsonItems (toJsonItems items) = items := by
  induction items with
  | nil => rfl
  | cons v rest ih =>
    unfold toJsonItems ofJsonItems
    rw [ofJson_toJson_atom (h v List.mem_cons_self), ih fun w hw => h w (List.mem_cons_of_mem _ hw)]

theorem ofJsonFields_toJsonFields (members : List (String × Value)) :
    ofJsonFields (toJsonFields members) = members.map fun e => (e.1, ofJson e.2.toJson) := by
  induction members with
  | nil => rfl
  | cons e rest ih =>
    unfold toJsonFields ofJsonFields
    rw [ih, List.map_cons]

/-- Options are lost, and nothing else. -/
theorem Tame.ofJson_toJson {v : Value} (h : v.Tame) : (ofJson v.toJson).Tame := by
  induction h with
  | null => exact .null
  | atom holds =>
    rw [ofJson_toJson_atom holds]
    exact .atom holds
  | absent => exact .null
  | present holds =>
    unfold toJson
    rw [ofJson_toJson_atom holds]
    exact .atom holds
  | list holds =>
    unfold toJson ofJson
    rw [ofJsonItems_toJsonItems holds]
    exact .list holds
  | object sorted _ ih =>
    unfold toJson ofJson
    rw [ofJsonFields_toJsonFields]
    refine .object (List.Pairwise.map _ (fun _ _ hlt => hlt) sorted) ?_
    intro name v hmem
    obtain ⟨⟨_, w⟩, hw, heq⟩ := List.mem_map.1 hmem
    cases heq
    exact ih _ w hw

theorem toJsonFields_map {f : Value → Value} {members : List (String × Value)}
    (h : ∀ name v, (name, v) ∈ members → (f v).toJson = v.toJson) :
    toJsonFields (members.map fun e => (e.1, f e.2)) = toJsonFields members := by
  induction members with
  | nil => rfl
  | cons e rest ih =>
    obtain ⟨name, v⟩ := e
    rw [List.map_cons]
    unfold toJsonFields
    rw [h name v List.mem_cons_self, ih fun name w hw => h name w (List.mem_cons_of_mem _ hw)]

/-- What is read back is written as before. -/
theorem Tame.toJson_ofJson {v : Value} (h : v.Tame) : (ofJson v.toJson).toJson = v.toJson := by
  induction h with
  | null => rfl
  | atom holds => rw [ofJson_toJson_atom holds]
  | absent => rfl
  | @present _ held holds =>
    change (ofJson held.toJson).toJson = held.toJson
    rw [ofJson_toJson_atom holds]
  | @list _ items holds =>
    change Json.arr (toJsonItems (ofJsonItems (toJsonItems items))) = Json.arr (toJsonItems items)
    rw [ofJsonItems_toJsonItems holds]
  | @object members _ _ ih =>
    change Json.obj (toJsonFields (ofJsonFields (toJsonFields members))) =
      Json.obj (toJsonFields members)
    rw [ofJsonFields_toJsonFields, toJsonFields_map ih]

end Value

namespace Schema

theorem conforms_carryOver {schema : Schema} (hplain : schema.Plain) {v : Value} (h : v.Tame)
    (schemaless : Bool) : schema.Conforms (schema.carryOver v (some v.toJson) schemaless) := by
  unfold carryOver
  cases schemaless with
  | false => exact conforms_migrate schema hplain h.uniform
  | true =>
    simp only
    unfold recover
    cases hread : schema.decode v.toJson with
    | ok w => exact conforms_of_decode schema hplain.distinct hread
    | error e => exact conforms_migrate schema hplain h.ofJson_toJson.uniform

theorem restore_toJson {schema : Schema} (hplain : schema.Plain) {v : Value}
    (h : schema.Conforms v) : schema.restore (some v.toJson) = (v, false) := by
  unfold restore recover
  simp only
  rw [decode_toJson schema hplain.distinct h (tame_of_conforms schema hplain h).solid]

/-- Whatever a uniform value was, what a plain schema makes of it is a value of this schema: it conforms,
and it is read back from the tree that it is written as. -/
theorem migrate_valid {schema : Schema} (hplain : schema.Plain) {v : Value} (h : v.Uniform) :
    schema.Conforms (schema.migrate v) ∧
      schema.decode (schema.migrate v).toJson = .ok (schema.migrate v) := by
  have hconforms := conforms_migrate schema hplain h
  have hsolid := (tame_of_conforms schema hplain hconforms).solid
  exact ⟨hconforms, decode_toJson schema hplain.distinct hconforms hsolid⟩

/-- What a shutter is to be set to. -/
def shutterSettings : Schema :=
  .struct [("days", .list (.atom .int)), ("tilt", .option (.atom .float)), ("names", .list (.atom .string)),
    ("sun", .struct [("low", .atom .bool), ("from", .option (.atom .int))])]

/-- A value of no schema: ranges and lists in a list, an open option in another, and null. -/
def shutter : Value :=
  .object [("days", .list [.int 1, .int 5]), ("names", .list [.list [.null], .list [.range ⟨0, 9, false⟩]]),
    ("sun", .object [("from", .present (.present .absent)), ("low", .null)]),
    ("tilt", .present (.float .zero))]

theorem plain_shutterSettings : shutterSettings.Plain := by
  simp [shutterSettings, Plain, PlainFields]

theorem uniform_shutter : shutter.Uniform := by
  refine .object fun name v hmem => ?_
  simp only [List.mem_cons, Prod.mk.injEq, List.not_mem_nil, or_false] at hmem
  rcases hmem with ⟨-, rfl⟩ | ⟨-, rfl⟩ | ⟨-, rfl⟩ | ⟨-, rfl⟩
  · exact .list (by simp [Value.kind]) (by simp [Value.Uniform.int])
  · refine .list (by simp [Value.kind]) ?_
    have hnull : (Value.list [.null]).Uniform := .list (by simp) (by simp [Value.Uniform.null])
    have hrange : (Value.list [.range ⟨0, 9, false⟩]).Uniform :=
      .list (by simp) (by simp [Value.Uniform.range])
    simp [hnull, hrange]
  · refine .object fun name v hmem => ?_
    simp only [List.mem_cons, Prod.mk.injEq, List.not_mem_nil, or_false] at hmem
    rcases hmem with ⟨-, rfl⟩ | ⟨-, rfl⟩
    · exact .present (.present .absent)
    · exact .null
  · exact .present (.float rfl)

theorem migrate_valid_shutter :
    shutterSettings.Plain ∧ shutter.Uniform ∧
    shutterSettings.migrate shutter = .object [("days", .list [.int 1, .int 5]), ("names", .list []),
      ("sun", .object [("from", .absent), ("low", .bool false)]), ("tilt", .present (.float .zero))] ∧
    shutterSettings.decode (shutterSettings.migrate shutter).toJson =
      .ok (shutterSettings.migrate shutter) :=
  ⟨plain_shutterSettings, uniform_shutter, rfl,
    (migrate_valid plain_shutterSettings uniform_shutter).2⟩

/-- A list whose first item does not speak for the others is carried over, and cannot be read back. -/
example :
    let schema : Schema := .list (.atom .int)
    let mixed : Value := .list [.int 1, .str "stale"]
    schema.migrate mixed = mixed ∧
      schema.decode mixed.toJson = .error ⟨[.index 1], .mismatch "INT" "STRING"⟩ := ⟨rfl, rfl⟩

end Schema

end DriverHub
