import DriverHub.Clock.Calendar
import Mathlib.Data.Int.LeastGreatest
import Mathlib.Tactic.Common

/-! Years of the calendar: where they begin, which year a day belongs to, and where the Sundays of a
month lie in it. As in the reckoning of days, years go from March to March here, so that a leap day is
the last of its year. -/

namespace DriverHub.Calendar

/-- The first of March. -/
def march (year : Int) : Int := 365 * year + year / 4 - year / 100 + year / 400 - 719468

theorem march_succ_bounds (year : Int) :
    march year + 365 ≤ march (year + 1) ∧ march (year + 1) ≤ march year + 366 := by
  unfold march
  omega

theorem march_mono {year later : Int} (h : year ≤ later) : march year ≤ march later := by
  obtain ⟨n, rfl⟩ := Int.le.dest h
  induction n with
  | zero => simp
  | succ n ih =>
    have hnext := march_succ_bounds (year + n)
    rw [Int.natCast_succ, ← Int.add_assoc]
    omega

theorem dayOf_march (year : Int) : dayOf year 3 1 = march year := by
  unfold dayOf march
  simp only [show ¬ (3 ≤ 2) by decide, if_false]
  omega

theorem dayOf_november (year : Int) : dayOf year 11 1 = march year + 245 := by
  unfold dayOf march
  simp only [show ¬ (11 ≤ 2) by decide, if_false]
  omega

/-! ### The year of a day -/

/-- The days of 400 years before a year of them. -/
def daysBefore (n : Int) : Int := 365 * n + n / 4 - n / 100

/-- The days of 400 years up to one of them, without the leap days. -/
def commonDays (d : Int) : Int := d - d / 1460 + d / 36524 - d / 146096

theorem commonDays_mono {d later : Int} (h : d ≤ later) : commonDays d ≤ commonDays later := by
  obtain ⟨n, rfl⟩ := Int.le.dest h
  induction n with
  | zero => simp
  | succ n ih =>
    have hnext : commonDays (d + n) ≤ commonDays (d + n + 1) := by
      unfold commonDays
      omega
    rw [Int.natCast_succ, ← Int.add_assoc]
    omega

/-- Without its leap days each of 400 years has 365 days. The last of them has one leap day more than
the rule for a hundred years would give it. -/
theorem commonDays_year : ∀ n : Nat, n < 400 → 365 * (n : Int) ≤ commonDays (daysBefore n) ∧
    commonDays (daysBefore (n + 1) - if (n : Int) = 399 then 0 else 1) < 365 * (n + 1) := by
  decide +kernel

theorem commonDays_div {n d : Int} (hn : 0 ≤ n) (hn' : n < 400) (h : daysBefore n ≤ d)
    (h' : d ≤ daysBefore (n + 1) - if n = 399 then 0 else 1) : commonDays d / 365 = n := by
  obtain ⟨k, rfl⟩ := Int.eq_ofNat_of_zero_le hn
  obtain ⟨hfirst, hlast⟩ := commonDays_year k (by omega)
  have hlower := commonDays_mono h
  have hupper := commonDays_mono h'
  omega

theorem march_eq (era : Int) {n : Int} (hn : 0 ≤ n) (hn' : n < 400) :
    march (400 * era + n) = era * 146097 + daysBefore n - 719468 := by
  unfold march daysBefore
  omega

/-- The year in which a day lies that is between two firsts of March. -/
theorem yearOf_of_march {year day : Int} (h : march year ≤ day) (h' : day < march (year + 1)) :
    yearOf day = if day < march year + 306 then year else year + 1 := by
  obtain ⟨era, n, hn, hn', rfl⟩ : ∃ era n : Int, 0 ≤ n ∧ n < 400 ∧ year = 400 * era + n :=
    ⟨year / 400, year % 400, by omega, by omega, by omega⟩
  have hnext : march (400 * era + n + 1) =
      era * 146097 + daysBefore (n + 1) - 719468 + if n = 399 then 1 else 0 := by
    unfold march daysBefore
    split <;> omega
  have hlength := march_succ_bounds (400 * era + n)
  rw [hnext] at h' hlength
  rw [march_eq era hn hn'] at h hlength ⊢
  have hdays : 0 ≤ daysBefore n ∧ daysBefore (n + 1) + (if n = 399 then 1 else 0) ≤ 146097 := by
    unfold daysBefore
    split <;> omega
  have hera : (day + 719468) / 146097 = era := by
    omega
  have hyear : commonDays (day + 719468 - era * 146097) / 365 = n := by
    apply commonDays_div hn hn'
    · omega
    · split <;> split at h' <;> omega
  unfold commonDays at hyear
  unfold yearOf
  simp only [hera, hyear]
  unfold daysBefore at *
  split <;> split <;> omega

theorem yearOf_eq {year day : Int} (h : march (year - 1) + 306 ≤ day) (h' : day < march year + 306) :
    yearOf day = year := by
  have hbefore := march_succ_bounds (year - 1)
  have hafter := march_succ_bounds year
  rw [Int.sub_add_cancel] at hbefore
  by_cases hmarch : day < march year
  · have hfrom : march (year - 1) ≤ day := by omega
    have huntil : day < march (year - 1 + 1) := by
      rw [Int.sub_add_cancel]
      exact hmarch
    rw [yearOf_of_march hfrom huntil, if_neg (by omega), Int.sub_add_cancel]
  · have hfrom : march year ≤ day := by omega
    rw [yearOf_of_march hfrom (by omega), if_pos h']

theorem exists_march_le (day : Int) : ∃ year, march year ≤ day ∧ day < march (year + 1) := by
  have hbounded : ∃ bound, ∀ year, march year ≤ day → year ≤ bound := by
    refine ⟨day.natAbs + 2000, fun year h => ?_⟩
    unfold march at h
    omega
  have hsome : ∃ year, march year ≤ day := by
    refine ⟨-day.natAbs, ?_⟩
    unfold march
    omega
  obtain ⟨year, hyear, hlast⟩ := Int.exists_greatest_of_bdd hbounded hsome
  refine ⟨year, hyear, ?_⟩
  by_contra hle
  have := hlast (year + 1) (by omega)
  omega

theorem yearOf_bounds (day : Int) :
    march (yearOf day - 1) + 306 ≤ day ∧ day < march (yearOf day) + 306 := by
  obtain ⟨year, hfrom, huntil⟩ := exists_march_le day
  have hbefore := march_succ_bounds (year - 1)
  have hafter := march_succ_bounds year
  rw [Int.sub_add_cancel] at hbefore
  rw [yearOf_of_march hfrom huntil]
  split
  · constructor <;> omega
  · rw [Int.add_sub_cancel]
    constructor <;> omega

/-! ### Sundays -/

theorem sunday_march_bounds (year : Int) :
    march year + 7 ≤ sunday 2 year 3 ∧ sunday 2 year 3 ≤ march year + 13 := by
  unfold sunday
  simp only [dayOf_march]
  omega

theorem sunday_november_bounds (year : Int) :
    march year + 245 ≤ sunday 1 year 11 ∧ sunday 1 year 11 ≤ march year + 251 := by
  unfold sunday
  simp only [dayOf_november]
  omega

end DriverHub.Calendar
