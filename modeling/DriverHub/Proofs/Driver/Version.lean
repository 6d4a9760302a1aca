import DriverHub.Driver.Version
import DriverHub.Proofs.Number.Digits
import DriverHub.Proofs.Text.Split

/-! Which texts are versions, and of which three numbers. Versions are read back from the text that they are
written as, so that text is a normal form of all others that are read as the same version. -/

namespace DriverHub.Version

/-- A number of 64 bits, written in digits after a plus sign or none. -/
def Segment (text : List Char) (n : Nat) : Prop :=
  ∃ digits, (text = digits ∨ text = '+' :: digits) ∧ Digits.Numeral digits n ∧ n < 2 ^ 64

theorem Segment.lt {text : List Char} {n : Nat} (h : Segment text n) : n < 2 ^ 64 := by
  obtain ⟨-, -, -, hn⟩ := h
  exact hn

theorem segment_natText (n : UInt64) : Segment (Digits.natText n.toNat).toList n.toNat := by
  rw [Digits.natText, String.toList_ofList]
  exact ⟨_, .inl rfl, Digits.numeral_ofNat _, n.toNat_lt⟩

theorem Segment.point_not_mem {text : List Char} {n : Nat} (h : Segment text n) : '.' ∉ text := by
  obtain ⟨digits, htext, hnumeral, -⟩ := h
  have hpoint : '.' ∉ digits := hnumeral.not_mem (by decide)
  rcases htext with rfl | rfl
  · exact hpoint
  · simpa using hpoint

theorem bounded_eq_some_iff {digits : List Char} {n : UInt64} :
    ((Digits.parse? digits).bind fun k =>
        if k < 0x10000000000000000 then some (UInt64.ofNat k) else none) = some n ↔
      Digits.Numeral digits n.toNat := by
  rw [← Digits.parse?_eq_some_iff, Option.bind_eq_some_iff]
  constructor
  · rintro ⟨k, hk, hbounded⟩
    obtain ⟨hlt, hn⟩ := Option.ite_none_right_eq_some.1 hbounded
    cases hn
    rw [hk, UInt64.toNat_ofNat_of_lt' hlt]
  · intro h
    exact ⟨n.toNat, h, by rw [if_pos n.toNat_lt, UInt64.ofNat_toNat]⟩

theorem segment?_eq_some_iff {text : List Char} {n : UInt64} :
    segment? text = some n ↔ Segment text n.toNat := by
  have hlt : n.toNat < 2 ^ 64 := n.toNat_lt
  unfold segment?
  rw [bounded_eq_some_iff]
  split
  · next rest =>
    constructor
    · intro h
      exact ⟨rest, .inr rfl, h, hlt⟩
    · rintro ⟨digits, rfl | htext, h, -⟩
      · exact absurd List.mem_cons_self (h.not_mem (by decide))
      · cases htext
        exact h
  · next hbare =>
    constructor
    · intro h
      exact ⟨text, .inl rfl, h, hlt⟩
    · rintro ⟨digits, rfl | htext, h, -⟩
      · exact h
      · exact absurd htext (hbare digits)

theorem parse?_eq_some {text : String} {v : Version} : parse? text = some v ↔
    (Text.split '.' text.toList).map segment? = [some v.major, some v.minor, some v.patch] := by
  obtain ⟨major, minor, patch⟩ := v
  unfold parse?
  split
  · next hsegments =>
    rw [hsegments]
    simp
  · next hother => exact iff_of_false nofun (hother _ _ _)

theorem parse?_eq_some_iff {text : String} {v : Version} : parse? text = some v ↔
    ∃ a b c : String, text = a ++ "." ++ b ++ "." ++ c ∧ Segment a.toList v.major.toNat ∧
      Segment b.toList v.minor.toNat ∧ Segment c.toList v.patch.toNat := by
  have hjoined (a b c : String) :
      (a ++ "." ++ b ++ "." ++ c).toList = a.toList ++ '.' :: (b.toList ++ '.' :: c.toList) := by simp
  rw [parse?_eq_some]
  constructor
  · intro h
    obtain ⟨a, b, c, hsplit, ha, hb, hc⟩ : ∃ a b c, Text.split '.' text.toList = [a, b, c] ∧
        segment? a = some v.major ∧ segment? b = some v.minor ∧ segment? c = some v.patch := by
      simpa [List.map_eq_cons_iff] using h
    refine ⟨String.ofList a, String.ofList b, String.ofList c, ?_, ?_, ?_, ?_⟩
    · rw [← String.toList_inj, hjoined]
      simpa using (Text.split_eq_three_iff.1 hsplit).1
    · simpa using segment?_eq_some_iff.1 ha
    · simpa using segment?_eq_some_iff.1 hb
    · simpa using segment?_eq_some_iff.1 hc
  · rintro ⟨a, b, c, rfl, ha, hb, hc⟩
    rw [Text.split_eq_three_iff.2 ⟨hjoined a b c, ha.point_not_mem, hb.point_not_mem, hc.point_not_mem⟩]
    simp only [List.map_cons, List.map_nil, segment?_eq_some_iff.2 ha, segment?_eq_some_iff.2 hb,
      segment?_eq_some_iff.2 hc]

theorem text_eq_toString (v : Version) : v.text =
    toString v.major.toNat ++ "." ++ toString v.minor.toNat ++ "." ++ toString v.patch.toNat := by
  simp only [text, Digits.natText_eq_toString]

theorem parse?_text (v : Version) : parse? v.text = some v :=
  parse?_eq_some_iff.2 ⟨_, _, _, rfl, segment_natText _, segment_natText _, segment_natText _⟩

/-- The text of the version that a text is read as. -/
def normal? (text : String) : Option String := (parse? text).map Version.text

/-- A text is a version just if it is three segments with points between them, and then it is the version of
their numbers. Every version is read back from its text, the three numbers in decimal; so the text of the
version that a text is read as is read as that version too, and is its own normal form. -/
theorem parse?_exactly :
    (∀ text, (∃ v, parse? text = some v) ↔ ∃ (a b c : String) (k l m : Nat),
      text = a ++ "." ++ b ++ "." ++ c ∧ Segment a.toList k ∧ Segment b.toList l ∧ Segment c.toList m) ∧
    (∀ text v, parse? text = some v ↔ ∃ a b c : String, text = a ++ "." ++ b ++ "." ++ c ∧
      Segment a.toList v.major.toNat ∧ Segment b.toList v.minor.toNat ∧ Segment c.toList v.patch.toNat) ∧
    (∀ v : Version, v.text =
        toString v.major.toNat ++ "." ++ toString v.minor.toNat ++ "." ++ toString v.patch.toNat ∧
      parse? v.text = some v) ∧
    ∀ text form, normal? text = some form → parse? form = parse? text ∧ normal? form = some form := by
  refine ⟨fun text => ?_, fun text v => parse?_eq_some_iff,
    fun v => ⟨text_eq_toString v, parse?_text v⟩, ?_⟩
  · constructor
    · rintro ⟨v, hv⟩
      obtain ⟨a, b, c, htext, ha, hb, hc⟩ := parse?_eq_some_iff.1 hv
      exact ⟨a, b, c, _, _, _, htext, ha, hb, hc⟩
    · rintro ⟨a, b, c, k, l, m, htext, ha, hb, hc⟩
      refine ⟨⟨.ofNat k, .ofNat l, .ofNat m⟩, parse?_eq_some_iff.2 ⟨a, b, c, htext, ?_, ?_, ?_⟩⟩
      · rwa [UInt64.toNat_ofNat_of_lt' ha.lt]
      · rwa [UInt64.toNat_ofNat_of_lt' hb.lt]
      · rwa [UInt64.toNat_ofNat_of_lt' hc.lt]
  · intro text form hform
    obtain ⟨v, hv, rfl⟩ := Option.map_eq_some_iff.1 hform
    exact ⟨(parse?_text v).trans hv.symm, by rw [normal?, parse?_text, Option.map_some]⟩

/-- Signs and leading zeros are gone from the normal form; the last number is the largest one. -/
theorem parse?_exactly_largest :
    normal? "+01.0.18446744073709551615" = some "1.0.18446744073709551615" ∧
      parse? "1.0.18446744073709551615" = parse? "+01.0.18446744073709551615" ∧
      normal? "1.0.18446744073709551615" = some "1.0.18446744073709551615" := by
  have hform : normal? "+01.0.18446744073709551615" = some "1.0.18446744073709551615" := by
    decide +kernel
  exact ⟨hform, parse?_exactly.2.2.2 _ _ hform⟩

example : parse? "1.0.18446744073709551616" = none := by decide +kernel

end DriverHub.Version
