import DriverHub.Proofs.Schema.Conforms

/-! Reading as a schema says: what is read conforms, and what conforms and is solid is read back from
the tree that it is written as. -/

namespace DriverHub

theorem Dict.find?_toJsonFields (name : String) (members : List (String × Value)) :
    Dict.find? name (Value.toJsonFields members) = (Dict.find? name members).map Value.toJson := by
  induction members with
  | nil => rfl
  | cons e rest ih =>
    obtain ⟨k, v⟩ := e
    unfold Value.toJsonFields
    rw [Dict.find?_cons, Dict.find?_cons, ih]
    split <;> rfl

theorem Value.mem_toJsonFields {name : String} {j : Json} {members : List (String × Value)}
    (h : (name, j) ∈ toJsonFields members) : ∃ v, (name, v) ∈ members ∧ j = v.toJson := by
  induction members with
  | nil => cases h
  | cons e rest ih =>
    obtain ⟨k, v⟩ := e
    unfold toJsonFields at h
    rcases List.mem_cons.1 h with heq | hmem
    · cases heq
      exact ⟨v, List.mem_cons_self, rfl⟩
    · obtain ⟨w, hw, hj⟩ := ih hmem
      exact ⟨w, List.mem_cons_of_mem _ hw, hj⟩

namespace Schema

/-! ### What is read conforms -/

theorem holds_of_decodeAtom {kind : AtomKind} {j : Json} {v : Value} (h : decodeAtom kind j = some v) :
    kind.Holds v := by
  cases kind with
  | int =>
    obtain ⟨i, -, rfl⟩ := Option.map_eq_some_iff.1 (show j.integral?.map Value.int = some v from h)
    trivial
  | float =>
    obtain ⟨x, hx, rfl⟩ := Option.map_eq_some_iff.1 (show j.double?.map Value.float = some v from h)
    cases j with
    | int i =>
      cases hx
      have hlower := i.lower
      have hupper := i.upper
      exact Binary64.isFinite_ofInt (by omega)
    | float x =>
      cases hx
      exact x.finite
    | null | bool | str | arr | obj => cases hx
  | bool =>
    cases j with
    | bool b =>
      cases h
      trivial
    | null | int | float | str | arr | obj => cases h
  | string =>
    cases j with
    | str s =>
      cases h
      trivial
    | null | bool | int | float | arr | obj => cases h

theorem exists_of_mem_decodeItems {decode : Json → Except ConfigError Value} {start : Nat}
    {items : List Json} {vs : List Value} (h : decodeItems decode start items = .ok vs) :
    ∀ v ∈ vs, ∃ j, decode j = .ok v := by
  induction items generalizing start vs with
  | nil =>
    cases h
    intro v hv
    cases hv
  | cons j rest ih =>
    unfold decodeItems at h
    cases hj : decode j with
    | error e =>
      rw [hj] at h
      cases h
    | ok v =>
      rw [hj] at h
      cases hrest : decodeItems decode (start + 1) rest with
      | error e =>
        rw [hrest] at h
        cases h
      | ok ws =>
        rw [hrest] at h
        cases h
        intro w hw
        rcases List.mem_cons.1 hw with rfl | hw
        · exact ⟨j, hj⟩
        · exact ih hrest w hw

mutual

theorem conforms_of_decode : (schema : Schema) → schema.Distinct → {j : Json} → {v : Value} →
    schema.decode j = .ok v → schema.Conforms v
  | .atom kind, _, j, v, h => by
    unfold decode at h
    unfold Conforms
    split at h
    · next w hw =>
      cases h
      exact holds_of_decodeAtom hw
    · cases h
  | .option inner, hdistinct, j, v, h => by
    unfold Distinct at hdistinct
    unfold decode at h
    split at h
    · cases h
      unfold Conforms
      trivial
    · split at h
      · cases h
      · next w hw =>
        cases h
        unfold Conforms
        exact conforms_of_decode inner hdistinct hw
  | .list inner, hdistinct, j, v, h => by
    unfold Distinct at hdistinct
    unfold decode at h
    split at h
    · split at h
      · cases h
      · next items vs hvs =>
        cases h
        unfold Conforms
        intro w hw
        obtain ⟨j, hj⟩ := exists_of_mem_decodeItems hvs w hw
        exact conforms_of_decode inner hdistinct hj
    · cases h
  | .struct fields, hdistinct, j, v, h => by
    unfold Distinct at hdistinct
    unfold decode at h
    split at h
    · split at h
      · cases h
      · next members entries hentries =>
        split at h
        · cases h
        · cases h
          exact conforms_ofFields hdistinct.1 (entered_of_decodeFields fields hdistinct.2 hentries)
    · cases h

theorem entered_of_decodeFields : (fields : List (String × Schema)) → DistinctFields fields →
    {members : List (String × Json)} → {entries : List (String × Value)} →
    decodeFields fields members = .ok entries → Entered fields entries
  | [], _, members, entries, h => by
    cases h
    exact .nil
  | (name, schema) :: rest, hdistinct, members, entries, h => by
    unfold DistinctFields at hdistinct
    unfold decodeFields at h
    split at h
    · cases h
    · split at h
      · cases h
      · next v hv =>
        split at h
        · cases h
        · next decoded hdecoded =>
          cases h
          exact .cons ⟨rfl, conforms_of_decode schema hdistinct.1 hv⟩
            (entered_of_decodeFields rest hdistinct.2 hdecoded)

end

/-! ### What conforms is read back -/

theorem decodeAtom_toJson {kind : AtomKind} {v : Value} (h : kind.Holds v) :
    decodeAtom kind v.toJson = some v := by
  cases kind with
  | int =>
    cases v with
    | int i =>
      have hlt : i.toInt < 0x8000000000000000 := i.toInt_lt
      unfold Value.toJson decodeAtom Json.ofInt64 Json.integral? JsonInt.ofInt64
      simp only
      rw [if_pos hlt, Option.map_some, Int64.ofInt_toInt]
    | null | float | bool | str | range | list | absent | present | object => exact h.elim
  | float =>
    cases v with
    | float x =>
      have hx : x.isFinite = true := h
      unfold Value.toJson Json.ofBinary64?
      rw [dif_pos hx]
      rfl
    | null | int | bool | str | range | list | absent | present | object => exact h.elim
  | bool =>
    cases v with
    | bool b => rfl
    | null | int | float | str | range | list | absent | present | object => exact h.elim
  | string =>
    cases v with
    | str s => rfl
    | null | int | float | bool | range | list | absent | present | object => exact h.elim

/-- Only what is absent is written as null. -/
theorem toJson_ne_null : (schema : Schema) → {v : Value} → schema.Conforms v → v.Solid → v ≠ .absent →
    v.toJson ≠ .null
  | .atom kind, v, h, _, _ => by
    unfold Conforms at h
    intro hnull
    have hread := decodeAtom_toJson h
    rw [hnull] at hread
    cases kind <;> cases hread
  | .option inner, v, h, hsolid, hne => by
    cases v with
    | absent => exact absurd rfl hne
    | present held =>
      unfold Conforms at h
      unfold Value.Solid at hsolid
      unfold Value.toJson
      exact toJson_ne_null inner h hsolid.2 hsolid.1
    | null | int | float | bool | str | range | list | object =>
      unfold Conforms at h
      exact h.elim
  | .list inner, v, h, _, _ => by
    cases v with
    | list items =>
      unfold Value.toJson
      intro hnull
      cases hnull
    | null | int | float | bool | str | range | absent | present | object =>
      unfold Conforms at h
      exact h.elim
  | .struct fields, v, h, _, _ => by
    cases v with
    | object members =>
      unfold Value.toJson
      intro hnull
      cases hnull
    | null | int | float | bool | str | range | list | absent | present =>
      unfold Conforms at h
      exact h.elim

theorem decodeItems_toJsonItems {decode : Json → Except ConfigError Value} {items : List Value}
    (h : ∀ v ∈ items, decode v.toJson = .ok v) (start : Nat) :
    decodeItems decode start (Value.toJsonItems items) = .ok items := by
  induction items generalizing start with
  | nil => rfl
  | cons v rest ih =>
    unfold Value.toJsonItems decodeItems
    rw [h v List.mem_cons_self, ih (fun w hw => h w (List.mem_cons_of_mem _ hw))]

/-- Entries that are those of an object, one for each of its fields, make up the object. -/
theorem ofFields_eq {fields : List (String × Schema)} {members entries : List (String × Value)}
    (hnodup : (fields.map (·.1)).Nodup) (hsorted : Dict.Sorted members)
    (honly : ∀ name v, (name, v) ∈ members → ∃ schema, (name, schema) ∈ fields)
    (hnames : entries.map (·.1) = fields.map (·.1))
    (hfound : ∀ name v, (name, v) ∈ entries → Dict.find? name members = some v) :
    Value.ofFields entries = .object members := by
  unfold Value.ofFields
  rw [← hnames] at hnodup
  refine congrArg Value.object (Dict.ext_of_sorted (Dict.sorted_ofList entries) hsorted fun name => ?_)
  cases hmember : Dict.find? name members with
  | some v =>
    obtain ⟨schema, hfield⟩ := honly name v (Dict.mem_of_find? hmember)
    have hname : name ∈ entries.map (·.1) := by
      rw [hnames]
      exact List.mem_map.2 ⟨(name, schema), hfield, rfl⟩
    obtain ⟨⟨_, w⟩, hentry, rfl⟩ := List.mem_map.1 hname
    have hw := hfound _ w hentry
    rw [hmember] at hw
    cases hw
    exact Dict.find?_ofList_of_mem hnodup hentry
  | none =>
    cases hentry : Dict.find? name (Dict.ofList entries) with
    | none => rfl
    | some w =>
      have hw := hfound name w (Dict.mem_of_mem_ofList (Dict.mem_of_find? hentry))
      rw [hmember] at hw
      cases hw

theorem no_extra {fields : List (String × Schema)} {members : List (String × Value)}
    (honly : ∀ name v, (name, v) ∈ members → ∃ schema, (name, schema) ∈ fields) :
    (Value.toJsonFields members).find? (fun m => !(Dict.contains m.1 fields)) = none := by
  rw [List.find?_eq_none]
  rintro ⟨name, j⟩ hmem
  obtain ⟨v, hv, -⟩ := Value.mem_toJsonFields hmem
  obtain ⟨schema, hfield⟩ := honly name v hv
  obtain ⟨found, hfound⟩ := Dict.exists_find? hfield
  simp [Dict.contains_eq, hfound]

mutual

theorem decode_toJson : (schema : Schema) → schema.Distinct → {v : Value} → schema.Conforms v → v.Solid →
    schema.decode v.toJson = .ok v
  | .atom kind, _, v, h, _ => by
    unfold Conforms at h
    unfold decode
    rw [decodeAtom_toJson h]
  | .option inner, hdistinct, v, h, hsolid => by
    unfold Distinct at hdistinct
    cases v with
    | absent => rfl
    | present held =>
      unfold Conforms at h
      unfold Value.Solid at hsolid
      have hread := decode_toJson inner hdistinct h hsolid.2
      have hne := toJson_ne_null inner h hsolid.2 hsolid.1
      unfold decode Value.toJson
      split
      · next hnull => exact absurd hnull hne
      · rw [hread]
    | null | int | float | bool | str | range | list | object =>
      unfold Conforms at h
      exact h.elim
  | .list inner, hdistinct, v, h, hsolid => by
    unfold Distinct at hdistinct
    cases v with
    | list items =>
      unfold Conforms at h
      unfold Value.Solid at hsolid
      have hitems : ∀ v ∈ items, inner.decode v.toJson = .ok v := fun v hv =>
        decode_toJson inner hdistinct (h v hv) (Value.solidItems_iff.1 hsolid v hv)
      unfold decode Value.toJson
      simp only
      rw [decodeItems_toJsonItems hitems]
    | null | int | float | bool | str | range | absent | present | object =>
      unfold Conforms at h
      exact h.elim
  | .struct fields, hdistinct, v, h, hsolid => by
    unfold Distinct at hdistinct
    cases v with
    | object members =>
      unfold Conforms at h
      unfold Value.Solid at hsolid
      obtain ⟨hsorted, hfields, honly⟩ := h
      obtain ⟨entries, hentries, hnames, hfound⟩ :=
        decodeFields_toJson fields hdistinct.2 hfields (Value.solidFields_iff.1 hsolid)
      unfold decode Value.toJson
      simp only
      rw [hentries]
      simp only
      rw [no_extra honly, ofFields_eq hdistinct.1 hsorted honly hnames hfound]
    | null | int | float | bool | str | range | list | absent | present =>
      unfold Conforms at h
      exact h.elim

theorem decodeFields_toJson : (fields : List (String × Schema)) → DistinctFields fields →
    {members : List (String × Value)} → ConformsFields fields members →
    (∀ name v, (name, v) ∈ members → v.Solid) →
    ∃ entries, decodeFields fields (Value.toJsonFields members) = .ok entries ∧
      entries.map (·.1) = fields.map (·.1) ∧
      ∀ name v, (name, v) ∈ entries → Dict.find? name members = some v
  | [], _, members, _, _ => ⟨[], rfl, rfl, nofun⟩
  | (name, schema) :: rest, hdistinct, members, h, hsolid => by
    unfold DistinctFields at hdistinct
    unfold ConformsFields at h
    obtain ⟨⟨v, hfind, hv⟩, hrest⟩ := h
    obtain ⟨entries, hentries, hnames, hfound⟩ := decodeFields_toJson rest hdistinct.2 hrest hsolid
    refine ⟨(name, v) :: entries, ?_, ?_, ?_⟩
    · unfold decodeFields
      rw [Dict.find?_toJsonFields, hfind, Option.map_some]
      simp only
      have hvsolid := hsolid name v (Dict.mem_of_find? hfind)
      rw [decode_toJson schema hdistinct.1 hv hvsolid, hentries]
    · rw [List.map_cons, List.map_cons, hnames]
    · intro name' v' hmem
      rcases List.mem_cons.1 hmem with heq | hmem
      · cases heq
        exact hfind
      · exact hfound name' v' hmem

end

end Schema

end DriverHub
