import DriverHub.Value.Range
import Mathlib.Order.Interval.Set.UnorderedInterval
import Mathlib.Tactic.Common

/-! Ranges as sets of integers. A range holds just the words among its integers, up to both ends of the
words, and its bounds are those of exact arithmetic for every range but one, which is empty. -/

namespace DriverHub

namespace Int64

theorem toInt_above {i : Int64} (h : i ≠ Int64.maxValue) : (above i).toInt = i.toInt + 1 := by
  have hne : i.toInt ≠ 2 ^ 63 - 1 := by
    rw [← Int64.toInt_maxValue]
    exact fun heq => h (Int64.toInt_inj.1 heq)
  have hlower := i.le_toInt
  have hupper := i.toInt_lt
  unfold above
  rw [if_neg h, Int64.toInt_add, Int64.toInt_one]
  exact Int.bmod_eq_of_le (by omega) (by omega)

theorem toInt_below_iff (i : Int64) : (below i).toInt = i.toInt - 1 ↔ i ≠ Int64.minValue := by
  constructor
  · rintro h rfl
    unfold below at h
    rw [if_pos rfl] at h
    omega
  · intro h
    have hne : i.toInt ≠ -2 ^ 63 := by
      rw [← Int64.toInt_minValue]
      exact fun heq => h (Int64.toInt_inj.1 heq)
    have hlower := i.le_toInt
    have hupper := i.toInt_lt
    unfold below
    rw [if_neg h, Int64.toInt_sub, Int64.toInt_one]
    exact Int.bmod_eq_of_le (by omega) (by omega)

end Int64

namespace Range

/-- The integers from the start of a range to its end, in either direction; the end itself is one of
them only if the range is inclusive. -/
def numbers (r : Range) : Set ℤ :=
  {n | n ∈ Set.uIcc r.start.toInt r.stop.toInt ∧ (n = r.stop.toInt → r.inclusive = true)}

/-- The bounds of a range in exact arithmetic. Those of an empty range are the wrong way round. -/
def exactBounds (r : Range) : ℤ × ℤ :=
  if r.stop.toInt < r.start.toInt then
    (if r.inclusive then r.stop.toInt else r.stop.toInt + 1, r.start.toInt)
  else (r.start.toInt, if r.inclusive then r.stop.toInt else r.stop.toInt - 1)

/-- The empty range at the smallest word, which has no word below its end. -/
def emptyAtMin : Range := ⟨Int64.minValue, Int64.minValue, false⟩

variable {r : Range}

theorem mem_numbers_iff {n : ℤ} :
    n ∈ r.numbers ↔ r.exactBounds.1 ≤ n ∧ n ≤ r.exactBounds.2 := by
  change n ∈ Set.uIcc _ _ ∧ _ ↔ _
  rw [Set.mem_uIcc]
  unfold exactBounds
  cases r.inclusive with
  | true =>
    simp only [if_true, implies_true, and_true]
    split <;> omega
  | false =>
    simp only [Bool.false_eq_true, if_false, imp_false]
    split <;> omega

theorem isEmpty_iff : r.isEmpty = true ↔ r.exactBounds.2 < r.exactBounds.1 := by
  unfold isEmpty exactBounds
  rw [Bool.and_eq_true, decide_eq_true_iff, ← Int64.toInt_inj]
  cases r.inclusive with
  | true =>
    simp only [if_true, Bool.not_true, Bool.false_eq_true, and_false, false_iff]
    split <;> omega
  | false =>
    simp only [Bool.false_eq_true, if_false, Bool.not_false, and_true]
    split <;> omega

theorem toInt_fst_bounds (r : Range) : r.bounds.1.toInt = r.exactBounds.1 := by
  unfold bounds exactBounds
  simp only [Int64.lt_iff_toInt_lt]
  split
  · next hlt =>
    simp only
    split
    · rfl
    · have hmax : r.stop ≠ Int64.maxValue := by
        intro heq
        rw [heq] at hlt
        exact absurd r.start.toInt_le (not_le.2 hlt)
      exact Int64.toInt_above hmax
  · rfl

/-- Only at the smallest word there may be no word below the end. -/
theorem toInt_snd_bounds_iff (r : Range) : r.bounds.2.toInt = r.exactBounds.2 ↔ r ≠ emptyAtMin := by
  obtain ⟨start, stop, inclusive⟩ := r
  unfold bounds exactBounds emptyAtMin
  simp only [Int64.lt_iff_toInt_lt, ne_eq, mk.injEq]
  split
  · next hlt =>
    have hne : ¬ (start = Int64.minValue ∧ stop = Int64.minValue ∧ inclusive = false) := by
      rintro ⟨rfl, rfl, -⟩
      exact lt_irrefl _ hlt
    exact iff_of_true rfl hne
  · next hle =>
    cases inclusive with
    | true => simp
    | false =>
      have hstart : stop = Int64.minValue → start = Int64.minValue := by
        rintro rfl
        have hlower := start.minValue_le_toInt
        exact Int64.toInt_inj.1 (le_antisymm (not_lt.1 hle) hlower)
      simp only [Bool.false_eq_true, if_false, Int64.toInt_below_iff, and_true]
      exact not_congr (and_iff_right_of_imp hstart).symm

theorem contains_iff {i : Int64} : r.contains i = true ↔ i.toInt ∈ r.numbers := by
  rw [mem_numbers_iff]
  unfold contains
  by_cases hempty : r.isEmpty = true
  · have hlt := isEmpty_iff.1 hempty
    simp only [hempty, Bool.not_true, Bool.false_and, Bool.false_eq_true, false_iff]
    omega
  · have hne : r ≠ emptyAtMin := by
      rintro rfl
      exact hempty rfl
    have hupper := (toInt_snd_bounds_iff r).2 hne
    simp [hempty, Int64.le_iff_toInt_le, toInt_fst_bounds, hupper]

theorem ne_emptyAtMin (h : r.numbers.Nonempty) : r ≠ emptyAtMin := by
  rintro rfl
  obtain ⟨n, hn⟩ := h
  have hlt : emptyAtMin.exactBounds.2 < emptyAtMin.exactBounds.1 := isEmpty_iff.1 rfl
  rw [mem_numbers_iff] at hn
  omega

theorem mem_numbers_iff_bounds (h : r.numbers.Nonempty) {n : ℤ} :
    n ∈ r.numbers ↔ r.bounds.1.toInt ≤ n ∧ n ≤ r.bounds.2.toInt := by
  rw [mem_numbers_iff, toInt_fst_bounds, (toInt_snd_bounds_iff r).2 (ne_emptyAtMin h)]

theorem bounds_unique (h : r.numbers.Nonempty) {lower upper : Int64}
    (hbounds : ∀ n, n ∈ r.numbers ↔ lower.toInt ≤ n ∧ n ≤ upper.toInt) :
    r.bounds = (lower, upper) := by
  obtain ⟨n, hn⟩ := h
  have hsame (m : ℤ) := (hbounds m).symm.trans (mem_numbers_iff_bounds ⟨n, hn⟩)
  have hinside := (hbounds n).1 hn
  have hthere := (hsame n).1 hinside
  have hlower : r.bounds.1 = lower := by
    have h₁ := hsame lower.toInt
    have h₂ := hsame r.bounds.1.toInt
    exact Int64.toInt_inj.1 (by omega)
  have hupper : r.bounds.2 = upper := by
    have h₁ := hsame upper.toInt
    have h₂ := hsame r.bounds.2.toInt
    exact Int64.toInt_inj.1 (by omega)
  exact Prod.ext hlower hupper

theorem fst_bounds_le_snd (h : r.numbers.Nonempty) : r.bounds.1 ≤ r.bounds.2 := by
  obtain ⟨n, hn⟩ := h
  have hbetween := (mem_numbers_iff_bounds ⟨n, hn⟩).1 hn
  exact Int64.le_iff_toInt_le.2 (hbetween.1.trans hbetween.2)

/-- A range holds just the words that are among its integers. If it has integers, the bounds are the
least and the greatest of them. The bounds are those of exact arithmetic for every range but the empty
one at the smallest word; and there too it holds a word only if this lies between the exact bounds. -/
theorem contains_exactly (r : Range) :
    (∀ i : Int64, r.contains i = true ↔ i.toInt ∈ r.numbers) ∧
    (r.numbers.Nonempty → r.bounds.1 ≤ r.bounds.2 ∧ r.contains r.bounds.1 = true ∧
      r.contains r.bounds.2 = true ∧ ∀ i, r.contains i = true ↔ r.bounds.1 ≤ i ∧ i ≤ r.bounds.2) ∧
    ((r.bounds.1.toInt, r.bounds.2.toInt) = r.exactBounds ↔ r ≠ emptyAtMin) ∧
    ∀ i : Int64, r.contains i = true ↔ r.exactBounds.1 ≤ i.toInt ∧ i.toInt ≤ r.exactBounds.2 := by
  refine ⟨fun i => contains_iff, ?_, ?_, fun i => contains_iff.trans mem_numbers_iff⟩
  · intro h
    have hbetween (i : Int64) : r.contains i = true ↔ r.bounds.1 ≤ i ∧ i ≤ r.bounds.2 := by
      rw [contains_iff, mem_numbers_iff_bounds h, Int64.le_iff_toInt_le, Int64.le_iff_toInt_le]
    have hle := fst_bounds_le_snd h
    exact ⟨hle, (hbetween _).2 ⟨Int64.le_refl _, hle⟩, (hbetween _).2 ⟨hle, Int64.le_refl _⟩, hbetween⟩
  · rw [Prod.ext_iff, ← toInt_snd_bounds_iff]
    exact and_iff_right (toInt_fst_bounds r)

/-- The range from the greatest word down to the one below it holds the greatest word alone. -/
theorem contains_exactly_top :
    let r : Range := ⟨Int64.maxValue, Int64.maxValue - 1, false⟩
    r.numbers.Nonempty ∧ r.bounds = (Int64.maxValue, Int64.maxValue) ∧
      ∀ i, r.contains i = true ↔ Int64.maxValue ≤ i ∧ i ≤ Int64.maxValue := by
  intro r
  have hnonempty : r.numbers.Nonempty := ⟨Int64.maxValue.toInt, contains_iff.1 (by decide)⟩
  have hbounds : r.bounds = (Int64.maxValue, Int64.maxValue) := by decide
  obtain ⟨-, -, -, hbetween⟩ := (contains_exactly r).2.1 hnonempty
  rw [hbounds] at hbetween
  exact ⟨hnonempty, hbounds, hbetween⟩

end Range

end DriverHub
