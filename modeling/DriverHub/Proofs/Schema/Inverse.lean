import DriverHub.Proofs.Schema.Decode

/-! Reading and writing undo each other. The values that can be read are the solid ones that conform,
and each of them is read back from the tree that it is written as; so reading, writing and reading
again changes nothing. -/

namespace DriverHub

namespace Value

theorem solid_ofFields {entries : List (String × Value)}
    (h : ∀ name v, (name, v) ∈ entries → v.Solid) : (ofFields entries).Solid := by
  unfold ofFields Solid
  exact solidFields_iff.2 fun name v hmem => h name v (Dict.mem_of_mem_ofList hmem)

end Value

namespace Schema

/-- Only null is read as absent. -/
theorem ne_absent_of_decode {schema : Schema} {j : Json} {v : Value} (hj : j ≠ .null)
    (h : schema.decode j = .ok v) : v ≠ .absent := by
  rintro rfl
  unfold decode at h
  split at h
  · split at h
    · next w hw =>
      cases h
      exact AtomKind.ne_absent_of_holds (holds_of_decodeAtom hw) rfl
    · cases h
  · split at h
    · exact hj rfl
    · split at h <;> cases h
  · split at h
    · split at h <;> cases h
    · cases h
  · split at h
    · split at h
      · cases h
      · split at h <;> cases h
    · cases h

mutual

theorem solid_of_decode : (schema : Schema) → {j : Json} → {v : Value} → schema.decode j = .ok v →
    v.Solid
  | .atom kind, j, v, h => by
    unfold decode at h
    split at h
    · next w hw =>
      cases h
      exact kind.solid_of_holds (holds_of_decodeAtom hw)
    · cases h
  | .option inner, j, v, h => by
    unfold decode at h
    split at h
    · cases h
      unfold Value.Solid
      trivial
    · next hnull =>
      split at h
      · cases h
      · next w hw =>
        cases h
        unfold Value.Solid
        exact ⟨ne_absent_of_decode hnull hw, solid_of_decode inner hw⟩
  | .list inner, j, v, h => by
    unfold decode at h
    split at h
    · split at h
      · cases h
      · next items vs hvs =>
        cases h
        unfold Value.Solid
        refine Value.solidItems_iff.2 fun w hw => ?_
        obtain ⟨j, hj⟩ := exists_of_mem_decodeItems hvs w hw
        exact solid_of_decode inner hj
    · cases h
  | .struct fields, j, v, h => by
    unfold decode at h
    split at h
    · split at h
      · cases h
      · next members entries hentries =>
        split at h
        · cases h
        · cases h
          exact Value.solid_ofFields (solid_of_decodeFields fields hentries)
    · cases h

theorem solid_of_decodeFields : (fields : List (String × Schema)) → {members : List (String × Json)} →
    {entries : List (String × Value)} → decodeFields fields members = .ok entries →
    ∀ name v, (name, v) ∈ entries → v.Solid
  | [], members, entries, h => by
    cases h
    exact nofun
  | (name, schema) :: rest, members, entries, h => by
    unfold decodeFields at h
    split at h
    · cases h
    · split at h
      · cases h
      · next v hv =>
        split at h
        · cases h
        · next decoded hdecoded =>
          cases h
          intro name' v' hmem
          rcases List.mem_cons.1 hmem with heq | hmem
          · cases heq
            exact solid_of_decode schema hv
          · exact solid_of_decodeFields rest hdecoded name' v' hmem

end

mutual

theorem solid_zero : (schema : Schema) → schema.zero.Solid
  | .atom kind => by
    unfold zero
    exact kind.solid_of_holds (holds_zero kind)
  | .list inner => by
    unfold zero Value.Solid Value.SolidItems
    trivial
  | .option inner => by
    unfold zero Value.Solid
    trivial
  | .struct fields => by
    unfold zero
    exact Value.solid_ofFields (solid_zeroFields fields)

theorem solid_zeroFields : (fields : List (String × Schema)) →
    ∀ name v, (name, v) ∈ zeroFields fields → v.Solid
  | [] => by
    unfold zeroFields
    exact nofun
  | (name, schema) :: rest => by
    unfold zeroFields
    intro name' v' hmem
    rcases List.mem_cons.1 hmem with heq | hmem
    · cases heq
      exact solid_zero schema
    · exact solid_zeroFields rest name' v' hmem

end

theorem decode_toJson_of_decode {schema : Schema} (h : schema.Distinct) {j : Json} {v : Value}
    (hread : schema.decode j = .ok v) : schema.decode v.toJson = .ok v :=
  decode_toJson schema h (conforms_of_decode schema h hread) (solid_of_decode schema hread)

/-- The values that can be read as a schema says are those of its shape, with finite floats, in which
no option holds an absent option. Each of them, and so whatever was read, is read back from the tree
that it is written as, and a new singleton starts from one of them. -/
theorem decode_inverse_toJson {schema : Schema} (h : schema.Distinct) :
    (∀ v, (∃ j, schema.decode j = .ok v) ↔ schema.Conforms v ∧ v.Solid) ∧
    (∀ v, schema.Conforms v → v.Solid → schema.decode v.toJson = .ok v) ∧
    (schema.Conforms schema.zero ∧ schema.zero.Solid) ∧
    ∀ j v, schema.decode j = .ok v → schema.decode v.toJson = .ok v := by
  refine ⟨?_, fun v => decode_toJson schema h, ⟨conforms_zero schema h, solid_zero schema⟩,
    fun j v => decode_toJson_of_decode h⟩
  intro v
  constructor
  · rintro ⟨j, hread⟩
    exact ⟨conforms_of_decode schema h hread, solid_of_decode schema hread⟩
  · rintro ⟨hconforms, hsolid⟩
    exact ⟨v.toJson, decode_toJson schema h hconforms hsolid⟩

/-- The settings of a lamp: levels that may be unknown, and a limit that may be unset or open. -/
def lampSettings : Schema :=
  .struct [("levels", .list (.option (.struct [("level", .atom .float)]))),
    ("limit", .option (.option (.atom .int)))]

theorem distinct_lampSettings : lampSettings.Distinct := by
  simp [lampSettings, Distinct, DistinctFields]

/-- An unset limit can be read and an open one cannot, since both would be null. -/
theorem decode_inverse_toJson_lampSettings :
    lampSettings.Distinct ∧
    (∃ j, lampSettings.decode j = .ok (.object [("levels", .list [.absent]), ("limit", .absent)])) ∧
    ¬ ∃ j, lampSettings.decode j =
      .ok (.object [("levels", .list [.absent]), ("limit", .present .absent)]) := by
  obtain ⟨image, -, -, -⟩ := decode_inverse_toJson distinct_lampSettings
  refine ⟨distinct_lampSettings, ?_, ?_⟩
  · refine ⟨.obj [("levels", .arr [.null]), ("limit", .null)], rfl⟩
  · rw [image]
    rintro ⟨-, hsolid⟩
    simp [Value.Solid, Value.SolidFields] at hsolid

end Schema

end DriverHub
