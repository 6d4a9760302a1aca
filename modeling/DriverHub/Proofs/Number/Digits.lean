import DriverHub.Number.Digits
import Mathlib.Data.List.Induction
import Mathlib.Data.Nat.Digits.Defs
import Mathlib.Tactic.Common

/-! Decimal digits denote the number that they were written for, and every run of digits is read as the
number that it denotes. -/

namespace DriverHub.Digits

theorem isDigit_digitChar {d : Nat} (h : d < 10) : isDigit (digitChar d) = true := by
  have hall : ∀ d < 10, isDigit (digitChar d) = true := by decide
  exact hall d h

theorem digitValue_digitChar {d : Nat} (h : d < 10) : digitValue (digitChar d) = d := by
  have hall : ∀ d < 10, digitValue (digitChar d) = d := by decide
  exact hall d h

theorem render_of_lt {n : Nat} (h : n < 10) (rest : List Char) : render n rest = digitChar n :: rest := by
  rw [render, if_pos h]

theorem render_of_le {n : Nat} (h : 10 ≤ n) (rest : List Char) :
    render n rest = render (n / 10) (digitChar (n % 10) :: rest) := by
  rw [render, if_neg (by omega)]

theorem ofNat_of_lt {n : Nat} (h : n < 10) : ofNat n = [digitChar n] := render_of_lt h []

/-- Writing in front of a text is writing and then the text. -/
theorem render_eq_append (n : Nat) (rest : List Char) : render n rest = ofNat n ++ rest := by
  unfold ofNat
  induction n using Nat.strongRecOn generalizing rest with
  | ind n ih =>
    rcases Nat.lt_or_ge n 10 with hn | hn
    · rw [render_of_lt hn, render_of_lt hn, List.singleton_append]
    · have hless : n / 10 < n := by omega
      rw [render_of_le hn, render_of_le hn, ih _ hless, ih _ hless [_], List.append_assoc,
        List.singleton_append]

/-- All digits but the last are those of a tenth. -/
theorem ofNat_of_le {n : Nat} (h : 10 ≤ n) : ofNat n = ofNat (n / 10) ++ [digitChar (n % 10)] := by
  rw [ofNat, render_of_le h, render_eq_append]

theorem isDigit_of_mem_ofNat {n : Nat} {c : Char} (h : c ∈ ofNat n) : isDigit c = true := by
  induction n using Nat.strongRecOn with
  | ind n ih =>
    rcases Nat.lt_or_ge n 10 with hn | hn
    · rw [ofNat_of_lt hn, List.mem_singleton] at h
      rw [h]
      exact isDigit_digitChar hn
    · rw [ofNat_of_le hn, List.mem_append, List.mem_singleton] at h
      rcases h with h | rfl
      · exact ih (n / 10) (by omega) h
      · exact isDigit_digitChar (by omega)

theorem ofNat_ne_nil (n : Nat) : ofNat n ≠ [] := by
  rcases Nat.lt_or_ge n 10 with hn | hn
  · rw [ofNat_of_lt hn]
    exact List.cons_ne_nil _ _
  · rw [ofNat_of_le hn]
    simp

theorem value_concat (digits : List Char) (c : Char) :
    value (digits ++ [c]) = 10 * value digits + digitValue c := by
  simp [value]

theorem value_ofNat (n : Nat) : value (ofNat n) = n := by
  induction n using Nat.strongRecOn with
  | ind n ih =>
    rcases Nat.lt_or_ge n 10 with hn | hn
    · rw [ofNat_of_lt hn]
      simpa [value] using digitValue_digitChar hn
    · rw [ofNat_of_le hn, value_concat, ih (n / 10) (by omega), digitValue_digitChar (by omega)]
      omega

theorem ofNat_eq_toDigits (n : Nat) : ofNat n = Nat.toDigits 10 n := by
  induction n using Nat.strongRecOn with
  | ind n ih =>
    have hchar : ∀ d < 10, digitChar d = Nat.digitChar d := by decide
    rcases Nat.lt_or_ge n 10 with hn | hn
    · rw [ofNat_of_lt hn, Nat.toDigits_of_lt_base hn, hchar n hn]
    · rw [ofNat_of_le hn, Nat.toDigits_of_base_le (by decide) hn, ih (n / 10) (by omega),
        hchar _ (by omega)]

theorem natText_eq_toString (n : Nat) : natText n = toString n := by
  rw [natText, ofNat_eq_toDigits, Nat.toString_eq_repr, Nat.repr_eq_ofList_toDigits]

/-- One or more decimal digits, and the number that they denote. -/
structure Numeral (text : List Char) (n : Nat) : Prop where
  nonempty : text ≠ []
  digits : ∀ c ∈ text, '0' ≤ c ∧ c ≤ '9'
  denotes : Nat.ofDigits 10 (text.reverse.map fun c => c.toNat - '0'.toNat) = n

theorem isDigit_iff {c : Char} : isDigit c = true ↔ '0' ≤ c ∧ c ≤ '9' := by
  simp [isDigit]

theorem value_eq_ofDigits (digits : List Char) :
    value digits = Nat.ofDigits 10 (digits.reverse.map digitValue) := by
  induction digits using List.reverseRecOn with
  | nil => rfl
  | append_singleton digits c ih =>
    rw [value_concat, ih, List.reverse_append, List.reverse_singleton, List.singleton_append, List.map_cons,
      Nat.ofDigits_cons]
    exact Nat.add_comm _ _

theorem numeral_iff {text : List Char} {n : Nat} :
    Numeral text n ↔ text ≠ [] ∧ (∀ c ∈ text, isDigit c = true) ∧ value text = n := by
  simp only [isDigit_iff, value_eq_ofDigits]
  exact ⟨fun h => ⟨h.nonempty, h.digits, h.denotes⟩, fun h => ⟨h.1, h.2.1, h.2.2⟩⟩

theorem numeral_ofNat (n : Nat) : Numeral (ofNat n) n :=
  numeral_iff.2 ⟨ofNat_ne_nil n, fun _ => isDigit_of_mem_ofNat, value_ofNat n⟩

theorem Numeral.not_mem {text : List Char} {n : Nat} (h : Numeral text n) {c : Char}
    (hc : ¬ ('0' ≤ c ∧ c ≤ '9')) : c ∉ text :=
  fun hmem => hc (h.digits c hmem)

theorem parse?_eq_some_iff {text : List Char} {n : Nat} : parse? text = some n ↔ Numeral text n := by
  rw [numeral_iff]
  unfold parse?
  split
  · next hempty => simp [List.isEmpty_iff.1 hempty]
  · next hempty =>
    rw [Option.ite_none_right_eq_some, List.all_eq_true, Option.some.injEq]
    exact (and_iff_right (List.isEmpty_iff.not.1 hempty)).symm

end DriverHub.Digits
