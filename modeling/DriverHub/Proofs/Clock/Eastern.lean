import DriverHub.Clock.Zone
import DriverHub.Proofs.Clock.Calendar

/-! What the clocks show in eastern time, in any unit of time that parts the second. They skip an hour on
one day of the year and show one twice on another; since neither lies at midnight, the days follow each
other all the same. -/

namespace DriverHub

namespace Zone

/-- The first time at which the clocks show a local time. -/
def FirstShown (zone : Zone) (perSecond localTime time : Int) : Prop :=
  zone.shown perSecond time = localTime ∧ ∀ other, zone.shown perSecond other = localTime → time ≤ other

theorem FirstShown.unique {zone : Zone} {perSecond localTime time other : Int}
    (h : zone.FirstShown perSecond localTime time) (h' : zone.FirstShown perSecond localTime other) :
    time = other := by
  have := h.2 other h'.1
  have := h'.2 time h.1
  omega

theorem shown_one (zone : Zone) (seconds : Int) : zone.shown 1 seconds = seconds + zone.offsetAt seconds := by
  simp [shown]

/-! ### From seconds to smaller units -/

section Units

variable {perSecond : Int} (hunit : 0 < perSecond)
include hunit

theorem shown_div (zone : Zone) (time : Int) :
    zone.shown perSecond time / perSecond = zone.shown 1 (time / perSecond) := by
  unfold shown
  rw [Int.add_mul_ediv_left _ _ hunit.ne']
  simp

theorem shown_eq_iff (zone : Zone) (time localTime : Int) :
    zone.shown perSecond time = localTime ↔
      zone.shown 1 (time / perSecond) = localTime / perSecond ∧ time % perSecond = localTime % perSecond := by
  have hmod : zone.shown perSecond time % perSecond = time % perSecond := Int.add_mul_emod_self_left ..
  rw [← shown_div hunit, ← hmod]
  constructor
  · rintro rfl
    exact ⟨rfl, rfl⟩
  · rintro ⟨hdiv, hmod⟩
    rw [← Int.mul_ediv_add_emod localTime perSecond, ← hdiv, ← hmod, Int.mul_ediv_add_emod]

/-- A first time in seconds is one in smaller units, with the fraction of a second of the local time. -/
theorem FirstShown.of_seconds {zone : Zone} {localTime seconds : Int}
    (h : zone.FirstShown 1 (localTime / perSecond) seconds) :
    zone.FirstShown perSecond localTime (perSecond * seconds + localTime % perSecond) := by
  have hfraction := Int.emod_nonneg localTime hunit.ne'
  have hsmall := Int.emod_lt_of_pos localTime hunit
  have hdiv : (perSecond * seconds + localTime % perSecond) / perSecond = seconds := by
    rw [Int.add_comm, Int.add_mul_ediv_left _ _ hunit.ne', Int.ediv_eq_zero_of_lt hfraction hsmall,
      Int.zero_add]
  constructor
  · rw [shown_eq_iff hunit, hdiv, Int.mul_add_emod_self_left, Int.emod_emod]
    exact ⟨h.1, rfl⟩
  · intro other hother
    obtain ⟨hshown, hmod⟩ := (shown_eq_iff hunit zone other localTime).1 hother
    have hle : perSecond * seconds ≤ perSecond * (other / perSecond) :=
      Int.mul_le_mul_of_nonneg_left (h.2 _ hshown) hunit.le
    have hsplit := Int.mul_ediv_add_emod other perSecond
    omega

theorem FirstShown.of_offset {zone : Zone} {localTime offset : Int}
    (h : zone.FirstShown 1 (localTime / perSecond) (localTime / perSecond - offset)) :
    zone.FirstShown perSecond localTime (localTime - perSecond * offset) := by
  have hsplit := Int.mul_ediv_add_emod localTime perSecond
  have hinstant : perSecond * (localTime / perSecond - offset) + localTime % perSecond =
      localTime - perSecond * offset := by
    rw [Int.mul_sub]
    omega
  rw [← hinstant]
  exact h.of_seconds hunit

end Units

/-! ### Summer -/

/-- The day on which the clocks are put forward in a year, the second Sunday of March. -/
def springDay (year : Int) : Int := Calendar.sunday 2 year 3

/-- The day on which the clocks are put back in a year, the first Sunday of November. -/
def autumnDay (year : Int) : Int := Calendar.sunday 1 year 11

theorem springDay_bounds (year : Int) :
    Calendar.march year + 7 ≤ springDay year ∧ springDay year ≤ Calendar.march year + 13 :=
  Calendar.sunday_march_bounds year

theorem autumnDay_bounds (year : Int) :
    Calendar.march year + 245 ≤ autumnDay year ∧ autumnDay year ≤ Calendar.march year + 251 :=
  Calendar.sunday_november_bounds year

/-- The seconds of the summer of a year: from seven o'clock of universal time on the one day until six
o'clock on the other. -/
def SummerOf (year seconds : Int) : Prop :=
  springDay year * 86400 + 25200 ≤ seconds ∧ seconds < autumnDay year * 86400 + 21600

instance (year seconds : Int) : Decidable (SummerOf year seconds) :=
  inferInstanceAs (Decidable (_ ∧ _))

/-- The seconds of any summer. -/
def Summer (seconds : Int) : Prop := ∃ year, SummerOf year seconds

theorem summer_iff (seconds : Int) :
    Summer seconds ↔ SummerOf (Calendar.yearOf ((seconds - 18000) / 86400)) seconds := by
  constructor
  · rintro ⟨year, hsummer⟩
    have hspring := springDay_bounds year
    have hautumn := autumnDay_bounds year
    have hbefore := Calendar.march_succ_bounds (year - 1)
    rw [Int.sub_add_cancel] at hbefore
    have hyear : Calendar.yearOf ((seconds - 18000) / 86400) = year := by
      unfold SummerOf at hsummer
      apply Calendar.yearOf_eq <;> omega
    rw [hyear]
    exact hsummer
  · intro hsummer
    exact ⟨_, hsummer⟩

theorem offsetAt_eastern (seconds : Int) :
    eastern.offsetAt seconds =
      if SummerOf (Calendar.yearOf ((seconds - 18000) / 86400)) seconds then -14400 else -18000 := by
  have hstandard : seconds + -5 * 3600 = seconds - 18000 := by omega
  unfold offsetAt eastern secondsOfDay
  simp only [hstandard]
  apply if_congr _ rfl rfl
  unfold SummerOf springDay autumnDay
  omega

theorem shown_of_summer {seconds : Int} (h : Summer seconds) :
    eastern.shown 1 seconds = seconds - 14400 := by
  rw [shown_one, offsetAt_eastern, if_pos ((summer_iff seconds).1 h)]
  omega

theorem shown_of_winter {seconds : Int} (h : ¬ Summer seconds) :
    eastern.shown 1 seconds = seconds - 18000 := by
  rw [shown_one, offsetAt_eastern, if_neg fun hsummer => h ((summer_iff seconds).2 hsummer)]
  omega

theorem year_of_springDay {year other : Int} (h : Calendar.march other ≤ springDay year)
    (h' : springDay year < Calendar.march other + 365) : year = other := by
  have hspring := springDay_bounds year
  rcases lt_trichotomy year other with hlt | heq | hlt
  · have hnext := Calendar.march_succ_bounds year
    have hmono := Calendar.march_mono (show year + 1 ≤ other by omega)
    omega
  · exact heq
  · have hnext := Calendar.march_succ_bounds other
    have hmono := Calendar.march_mono (show other + 1 ≤ year by omega)
    omega

/-- The clocks are put back before midnight, so a later time is never on an earlier day. -/
theorem day_mono {seconds later : Int} (h : seconds ≤ later) :
    eastern.shown 1 seconds / 86400 ≤ eastern.shown 1 later / 86400 := by
  by_cases hsummer : Summer seconds
  · by_cases hlater : Summer later
    · rw [shown_of_summer hsummer, shown_of_summer hlater]
      omega
    · rw [shown_of_summer hsummer, shown_of_winter hlater]
      obtain ⟨year, hyear⟩ := hsummer
      have hautumn : autumnDay year * 86400 + 21600 ≤ later := by
        by_contra hbefore
        exact hlater ⟨year, by unfold SummerOf at *; omega⟩
      unfold SummerOf at hyear
      omega
  · rw [shown_of_winter hsummer]
    by_cases hlater : Summer later
    · rw [shown_of_summer hlater]
      omega
    · rw [shown_of_winter hlater]
      omega

/-! ### The hour that is skipped -/

/-- The clocks skip a time of day, so many units after midnight: when they are put forward, those from two
o'clock until three. -/
def Skips (perSecond day timeOfDay : Int) : Prop :=
  (∃ year, day = springDay year) ∧ 7200 * perSecond ≤ timeOfDay ∧ timeOfDay < 10800 * perSecond

theorem not_skips_next {perSecond day timeOfDay : Int} (h : Skips perSecond day timeOfDay) :
    ¬ Skips perSecond (day + 1) timeOfDay := by
  rintro ⟨⟨other, hother⟩, -⟩
  obtain ⟨⟨year, hyear⟩, -⟩ := h
  have hspring := springDay_bounds other
  have hsame : year = other := year_of_springDay (by omega) (by omega)
  rw [hsame] at hyear
  omega

theorem not_summer_before {year seconds : Int} (h : springDay year * 86400 + 21600 ≤ seconds)
    (h' : seconds < springDay year * 86400 + 25200) : ¬ Summer seconds := by
  rintro ⟨other, hother⟩
  unfold SummerOf at hother
  have hspring := springDay_bounds other
  have hautumn := autumnDay_bounds other
  have hsame : year = other := year_of_springDay (by omega) (by omega)
  rw [hsame] at h'
  omega

theorem shown_ne_of_skips {day timeOfDay : Int} (h : Skips 1 day timeOfDay) (seconds : Int) :
    eastern.shown 1 seconds ≠ day * 86400 + timeOfDay := by
  obtain ⟨⟨year, rfl⟩, hfrom, huntil⟩ := h
  by_cases hsummer : Summer seconds
  · rw [shown_of_summer hsummer]
    intro hshown
    exact @not_summer_before year seconds (by omega) (by omega) hsummer
  · rw [shown_of_winter hsummer]
    intro hshown
    apply hsummer
    have hspring := springDay_bounds year
    have hautumn := autumnDay_bounds year
    exact ⟨year, by unfold SummerOf; omega⟩

theorem firstShown_of_summer {localTime : Int} (h : Summer (localTime + 14400)) :
    eastern.FirstShown 1 localTime (localTime + 14400) := by
  constructor
  · rw [shown_of_summer h]
    omega
  · intro other hother
    by_cases hsummer : Summer other
    · rw [shown_of_summer hsummer] at hother
      omega
    · rw [shown_of_winter hsummer] at hother
      omega

theorem firstShown_of_winter {localTime : Int} (h : ¬ Summer (localTime + 14400))
    (h' : ¬ Summer (localTime + 18000)) : eastern.FirstShown 1 localTime (localTime + 18000) := by
  constructor
  · rw [shown_of_winter h']
    omega
  · intro other hother
    by_cases hsummer : Summer other
    · rw [shown_of_summer hsummer] at hother
      have heq : other = localTime + 14400 := by omega
      exact absurd (heq ▸ hsummer) h
    · rw [shown_of_winter hsummer] at hother
      omega

theorem exists_firstShown {day timeOfDay : Int} (hday : 0 ≤ timeOfDay) (hday' : timeOfDay < 86400)
    (h : ¬ Skips 1 day timeOfDay) : ∃ seconds, eastern.FirstShown 1 (day * 86400 + timeOfDay) seconds := by
  by_cases hsummer : Summer (day * 86400 + timeOfDay + 14400)
  · exact ⟨_, firstShown_of_summer hsummer⟩
  · refine ⟨_, firstShown_of_winter hsummer ?_⟩
    rintro ⟨year, hyear⟩
    have hbefore : ¬ SummerOf year (day * 86400 + timeOfDay + 14400) := fun hin => hsummer ⟨year, hin⟩
    unfold SummerOf at hyear hbefore
    exact h ⟨⟨year, by omega⟩, by omega, by omega⟩

theorem shown_eve {year seconds : Int} (h : eastern.shown 1 seconds / 86400 + 1 = springDay year) :
    eastern.shown 1 seconds = seconds - 18000 := by
  by_cases hsummer : Summer seconds
  · exfalso
    rw [shown_of_summer hsummer] at h
    obtain ⟨other, hother⟩ := hsummer
    unfold SummerOf at hother
    have hspring := springDay_bounds other
    have hautumn := autumnDay_bounds other
    have hsame : year = other := year_of_springDay (by omega) (by omega)
    rw [hsame] at h
    omega
  · exact shown_of_winter hsummer

/-! ### Days in smaller units -/

section Units

variable {perSecond : Int} (hunit : 0 < perSecond)
include hunit

theorem shown_div_day (time : Int) :
    eastern.shown perSecond time / (86400 * perSecond) = eastern.shown 1 (time / perSecond) / 86400 := by
  rw [Int.mul_comm, ← Int.ediv_ediv_of_nonneg hunit.le, shown_div hunit]

theorem shown_day_mono {time later : Int} (h : time ≤ later) :
    eastern.shown perSecond time / (86400 * perSecond) ≤
      eastern.shown perSecond later / (86400 * perSecond) := by
  rw [shown_div_day hunit, shown_div_day hunit]
  exact day_mono (Int.ediv_le_ediv hunit h)

theorem localTime_div (day timeOfDay : Int) :
    (day * (86400 * perSecond) + timeOfDay) / perSecond = day * 86400 + timeOfDay / perSecond := by
  rw [← Int.mul_assoc, Int.add_comm, Int.add_mul_ediv_right _ _ hunit.ne', Int.add_comm]

theorem skips_iff (day timeOfDay : Int) :
    Skips perSecond day timeOfDay ↔ Skips 1 day (timeOfDay / perSecond) := by
  unfold Skips
  rw [Int.mul_one, Int.mul_one, Int.le_ediv_iff_mul_le hunit, Int.ediv_lt_iff_lt_mul hunit]

/-- A time of day has a first time on every day on which it is not skipped, and none on the others. -/
theorem exists_firstShown_iff {day timeOfDay : Int} (hday : 0 ≤ timeOfDay)
    (hday' : timeOfDay < 86400 * perSecond) :
    (∃ time, eastern.FirstShown perSecond (day * (86400 * perSecond) + timeOfDay) time) ↔
      ¬ Skips perSecond day timeOfDay := by
  rw [skips_iff hunit]
  constructor
  · rintro ⟨time, hshown, -⟩ hskips
    have hsecond := ((shown_eq_iff hunit eastern time _).1 hshown).1
    rw [localTime_div hunit] at hsecond
    exact shown_ne_of_skips hskips _ hsecond
  · intro hskips
    have hlower : 0 ≤ timeOfDay / perSecond := Int.ediv_nonneg hday hunit.le
    have hupper : timeOfDay / perSecond < 86400 := (Int.ediv_lt_iff_lt_mul hunit).2 hday'
    obtain ⟨seconds, hfirst⟩ := exists_firstShown hlower hupper hskips
    rw [← localTime_div hunit] at hfirst
    exact ⟨_, hfirst.of_seconds hunit⟩

theorem shown_eve_units {year time : Int}
    (h : eastern.shown perSecond time / (86400 * perSecond) + 1 = springDay year) :
    eastern.shown perSecond time = time - perSecond * 18000 := by
  rw [shown_div_day hunit] at h
  have heve := shown_eve h
  rw [shown_one] at heve
  have hoffset : eastern.offsetAt (time / perSecond) = -18000 := by omega
  unfold shown
  rw [hoffset, Int.mul_neg, Int.sub_eq_add_neg]

end Units

/-! ### How local times are read -/

/-- Around a day no summer but that of its year has seconds. -/
theorem summer_iff_of_day {day seconds : Int} (h : day * 86400 ≤ seconds)
    (h' : seconds < (day + 2) * 86400) : Summer seconds ↔ SummerOf (Calendar.yearOf day) seconds := by
  constructor
  · rintro ⟨other, hother⟩
    obtain ⟨hfrom, huntil⟩ := Calendar.yearOf_bounds day
    have hspring := springDay_bounds other
    have hautumn := autumnDay_bounds other
    have hbefore := Calendar.march_succ_bounds (Calendar.yearOf day - 1)
    rw [Int.sub_add_cancel] at hbefore
    have hin := hother
    unfold SummerOf at hin
    rcases lt_trichotomy other (Calendar.yearOf day) with hlt | heq | hlt
    · have hmono := Calendar.march_mono (show other ≤ Calendar.yearOf day - 1 by omega)
      omega
    · exact heq ▸ hother
    · have hnext := Calendar.march_succ_bounds (Calendar.yearOf day)
      have hmono := Calendar.march_mono (show Calendar.yearOf day + 1 ≤ other by omega)
      omega
  · intro h
    exact ⟨_, h⟩

/-- A local time of seconds outside the hours from one to two o'clock is read as it is shown: as its first
time, and not at all if it is skipped. -/
theorem offsetOf?_eastern {day timeOfDay : Int} (hday : 0 ≤ timeOfDay) (hday' : timeOfDay < 86400)
    (h : timeOfDay < 3600 ∨ 7200 < timeOfDay) :
    (eastern.offsetOf? (day * 86400 + timeOfDay) = none ∧ Skips 1 day timeOfDay) ∨
      ∃ offset, eastern.offsetOf? (day * 86400 + timeOfDay) = some offset ∧
        eastern.FirstShown 1 (day * 86400 + timeOfDay) (day * 86400 + timeOfDay - offset) := by
  have hdayOf : (day * 86400 + timeOfDay) / secondsOfDay = day := by
    unfold secondsOfDay
    omega
  have hforward : eastern.forward (Calendar.yearOf day) = springDay (Calendar.yearOf day) * 86400 + 7200 := rfl
  have hback : eastern.back (Calendar.yearOf day) = autumnDay (Calendar.yearOf day) * 86400 + 7200 := rfl
  have hgap : eastern.daylight - eastern.standard = 3600 := rfl
  have hspring := springDay_bounds (Calendar.yearOf day)
  have hautumn := autumnDay_bounds (Calendar.yearOf day)
  have hearly := @summer_iff_of_day day (day * 86400 + timeOfDay + 14400) (by omega) (by omega)
  have hlate := @summer_iff_of_day day (day * 86400 + timeOfDay + 18000) (by omega) (by omega)
  unfold SummerOf at hearly hlate
  have hwinter : day * 86400 + timeOfDay ≤ springDay (Calendar.yearOf day) * 86400 + 7200 ∨
      autumnDay (Calendar.yearOf day) * 86400 + 3600 ≤ day * 86400 + timeOfDay →
      eastern.FirstShown 1 (day * 86400 + timeOfDay) (day * 86400 + timeOfDay - -18000) := by
    intro hcold
    rw [Int.sub_neg]
    apply firstShown_of_winter
    · rw [hearly]
      omega
    · rw [hlate]
      omega
  unfold offsetOf?
  simp only [hdayOf, hforward, hback, hgap]
  -- before summer, in the hour that is left out, in summer, and after it
  split
  · right
    exact ⟨-18000, rfl, hwinter (by omega)⟩
  · split
    · left
      exact ⟨rfl, ⟨Calendar.yearOf day, by omega⟩, by omega, by omega⟩
    · right
      split
      · refine ⟨-14400, rfl, ?_⟩
        rw [Int.sub_neg]
        apply firstShown_of_summer
        rw [hearly]
        omega
      · exact ⟨-18000, rfl, hwinter (by omega)⟩

end Zone

end DriverHub
