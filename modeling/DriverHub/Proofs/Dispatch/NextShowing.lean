import DriverHub.Dispatch.Trigger
import DriverHub.Proofs.Clock.Eastern

/-! Timers that wait for a time of day. They wait until it is shown next, unless it is gone today and the
clocks skip it tomorrow: they look at two days only, and then do not wait at all. -/

namespace DriverHub

namespace Zone

/-- The day that the clocks of the eastern zone show. -/
def dayShown (perSecond time : Int) : Int := eastern.shown perSecond time / (86400 * perSecond)

/-- The first time at which a time of day is shown on a day. -/
def FirstOn (perSecond timeOfDay day time : Int) : Prop :=
  eastern.FirstShown perSecond (day * (86400 * perSecond) + timeOfDay) time

/-- A time of day is shown next: for the first time on its day, when on no earlier day its first time is
still to come. -/
structure NextShown (perSecond timeOfDay now time : Int) : Prop where
  later : now < time
  first : FirstOn perSecond timeOfDay (dayShown perSecond time) time
  none_before : ∀ day < dayShown perSecond time, ∀ other, FirstOn perSecond timeOfDay day other → other ≤ now

section Units

variable {perSecond : Int} (hunit : 0 < perSecond) {timeOfDay : Int} (hday : 0 ≤ timeOfDay)
  (hday' : timeOfDay < 86400 * perSecond)
include hunit hday hday'

theorem exists_firstOn_iff (day : Int) :
    (∃ time, FirstOn perSecond timeOfDay day time) ↔ ¬ Skips perSecond day timeOfDay :=
  exists_firstShown_iff hunit hday hday'

theorem FirstOn.dayShown_eq {day time : Int} (h : FirstOn perSecond timeOfDay day time) :
    dayShown perSecond time = day := by
  have hpos : 0 < 86400 * perSecond := by omega
  unfold dayShown
  rw [h.1, Int.add_comm, Int.add_mul_ediv_right _ _ hpos.ne', Int.ediv_eq_zero_of_lt hday hday',
    Int.zero_add]

theorem FirstOn.lt_of_later {day now time : Int} (h : FirstOn perSecond timeOfDay day time)
    (hlater : dayShown perSecond now < day) : now < time := by
  by_contra hle
  have hmono := shown_day_mono hunit (show time ≤ now by omega)
  rw [← h.dayShown_eq hunit hday hday'] at hlater
  unfold dayShown at hlater
  omega

theorem FirstOn.le_of_earlier {day now time : Int} (h : FirstOn perSecond timeOfDay day time)
    (hearlier : day < dayShown perSecond now) : time ≤ now := by
  by_contra hlt
  have hmono := shown_day_mono hunit (show now ≤ time by omega)
  rw [← h.dayShown_eq hunit hday hday'] at hearlier
  unfold dayShown at hearlier
  omega

theorem FirstOn.nextShown {day now time : Int} (h : FirstOn perSecond timeOfDay day time)
    (hnow : now < time) (hbefore : ∀ d, dayShown perSecond now ≤ d → d < day →
      ∀ other, FirstOn perSecond timeOfDay d other → other ≤ now) :
    NextShown perSecond timeOfDay now time := by
  have hshown := h.dayShown_eq hunit hday hday'
  constructor
  · exact hnow
  · rw [hshown]
    exact h
  · intro d hd other hother
    rw [hshown] at hd
    by_cases hearlier : d < dayShown perSecond now
    · exact hother.le_of_earlier hunit hday hday' hearlier
    · exact hbefore d (by omega) hd other hother

theorem FirstOn.le_iff_of_eve {year now time : Int}
    (h : FirstOn perSecond timeOfDay (dayShown perSecond now) time)
    (heve : dayShown perSecond now + 1 = springDay year) :
    time ≤ now ↔ timeOfDay ≤ eastern.shown perSecond now % (86400 * perSecond) := by
  have hsame := h.dayShown_eq hunit hday hday'
  have htime : eastern.shown perSecond time = time - perSecond * 18000 :=
    shown_eve_units hunit (hsame ▸ heve)
  have hnow : eastern.shown perSecond now = now - perSecond * 18000 := shown_eve_units hunit heve
  have hsplit := Int.ediv_mul_add_emod (eastern.shown perSecond now) (86400 * perSecond)
  have hfirst := h.1
  rw [htime, Int.mul_comm] at hfirst
  unfold dayShown at hfirst
  omega

end Units

end Zone

namespace TimeTrigger

open Zone

/-! ### The two days that are looked at -/

section Days

variable {clock : LocalClock} {timeOfDay now : Int}

theorem filter_eq_none {found : Option Int} (h : ∀ time, found = some time → time ≤ now) :
    found.filter (now < ·) = none := by
  rw [Option.filter_eq_none_iff]
  intro time htime
  have := h time htime
  simpa using this

theorem untilShown_today {time : Int}
    (h : clock.read (clock.dayAt now * clock.perDay + timeOfDay) = some time) (hnow : now < time) :
    untilShown clock timeOfDay now = time - now := by
  simp [untilShown, h, Option.filter, hnow]

theorem untilShown_tomorrow
    (hgone : ∀ time, clock.read (clock.dayAt now * clock.perDay + timeOfDay) = some time → time ≤ now)
    {time : Int} (h : clock.read ((clock.dayAt now + 1) * clock.perDay + timeOfDay) = some time)
    (hnow : now < time) : untilShown clock timeOfDay now = time - now := by
  unfold untilShown
  simp only [filter_eq_none hgone, h]
  simp [Option.filter, hnow]

theorem untilShown_neither
    (hgone : ∀ time, clock.read (clock.dayAt now * clock.perDay + timeOfDay) = some time → time ≤ now)
    (h : clock.read ((clock.dayAt now + 1) * clock.perDay + timeOfDay) = none) :
    untilShown clock timeOfDay now = 0 := by
  unfold untilShown
  simp only [filter_eq_none hgone, h]
  simp

end Days

/-- A time of day is gone today, and tomorrow the clocks skip it. -/
def Overlooks (perSecond timeOfDay now : Int) : Prop :=
  timeOfDay ≤ eastern.shown perSecond now % (86400 * perSecond) ∧
    Skips perSecond (dayShown perSecond now + 1) timeOfDay

/-- A time of day is read as it is shown on a day: as its first time, and not at all if it is skipped. -/
def ReadsOn (read : Int → Option Int) (perSecond timeOfDay day : Int) : Prop :=
  ∀ time, read (day * (86400 * perSecond) + timeOfDay) = some time ↔ FirstOn perSecond timeOfDay day time

section Units

variable {perSecond : Int} (hunit : 0 < perSecond) {timeOfDay : Int} (hday : 0 ≤ timeOfDay)
  (hday' : timeOfDay < 86400 * perSecond)
include hunit hday hday'

/-- What is overlooked is shown next on the day after tomorrow. -/
theorem exists_nextShown_of_overlooks {now : Int} (h : Overlooks perSecond timeOfDay now) :
    ∃ next, NextShown perSecond timeOfDay now next ∧ dayShown perSecond next = dayShown perSecond now + 2 := by
  obtain ⟨hgone, hskips⟩ := h
  have hexists := exists_firstOn_iff hunit hday hday'
  obtain ⟨next, hfirst⟩ := (hexists (dayShown perSecond now + 1 + 1)).2 (not_skips_next hskips)
  have hshown := FirstOn.dayShown_eq hunit hday hday' hfirst
  refine ⟨next, ?_, by omega⟩
  apply FirstOn.nextShown hunit hday hday' hfirst
  · exact FirstOn.lt_of_later hunit hday hday' hfirst (by omega)
  · intro d hd hd' other hother
    by_cases htoday : d = dayShown perSecond now
    · obtain ⟨year, heve⟩ := hskips.1
      exact (FirstOn.le_iff_of_eve hunit hday hday' (htoday ▸ hother) heve).2 hgone
    · have htomorrow : d = dayShown perSecond now + 1 := by omega
      exact absurd hskips ((hexists _).1 ⟨other, htomorrow ▸ hother⟩)

variable {now : Int} {read : Int → Option Int}
  (htoday : ReadsOn read perSecond timeOfDay (dayShown perSecond now))
  (htomorrow : ReadsOn read perSecond timeOfDay (dayShown perSecond now + 1))
include htoday htomorrow

theorem untilShown_of_overlooks (h : Overlooks perSecond timeOfDay now) :
    untilShown ⟨eastern, perSecond, read⟩ timeOfDay now = 0 := by
  obtain ⟨hgone, hskips⟩ := h
  obtain ⟨year, heve⟩ := hskips.1
  apply untilShown_neither
  · intro time htime
    exact (FirstOn.le_iff_of_eve hunit hday hday' ((htoday time).1 htime) heve).2 hgone
  · rw [Option.eq_none_iff_forall_ne_some]
    intro time htime
    exact (exists_firstOn_iff hunit hday hday' _).1 ⟨time, (htomorrow time).1 htime⟩ hskips

/-- What is not overlooked is waited for until it is shown next: today if it is still to come, else
tomorrow. -/
theorem untilShown_of_not_overlooks (h : ¬ Overlooks perSecond timeOfDay now) :
    ∃ next, NextShown perSecond timeOfDay now next ∧
      untilShown ⟨eastern, perSecond, read⟩ timeOfDay now = next - now := by
  have hexists := exists_firstOn_iff hunit hday hday'
  by_cases hstill : ∃ time, FirstOn perSecond timeOfDay (dayShown perSecond now) time ∧ now < time
  · obtain ⟨time, hfirst, hnow⟩ := hstill
    refine ⟨time, ?_, untilShown_today ((htoday time).2 hfirst) hnow⟩
    apply FirstOn.nextShown hunit hday hday' hfirst hnow
    intro d hd hd'
    omega
  · have hgone : ∀ time, FirstOn perSecond timeOfDay (dayShown perSecond now) time → time ≤ now := by
      intro time htime
      by_contra hnow
      exact hstill ⟨time, htime, by omega⟩
    have hshown : ¬ Skips perSecond (dayShown perSecond now + 1) timeOfDay := by
      intro hskips
      obtain ⟨year, heve⟩ := hskips.1
      obtain ⟨first, hfirst⟩ := (hexists (dayShown perSecond now)).2 fun h => not_skips_next h hskips
      exact h ⟨(FirstOn.le_iff_of_eve hunit hday hday' hfirst heve).1 (hgone first hfirst), hskips⟩
    obtain ⟨time, hfirst⟩ := (hexists _).2 hshown
    have hnow : now < time := FirstOn.lt_of_later hunit hday hday' hfirst (by omega)
    refine ⟨time, ?_, ?_⟩
    · apply FirstOn.nextShown hunit hday hday' hfirst hnow
      intro d hd hd' other hother
      have htoday : d = dayShown perSecond now := by omega
      exact hgone other (htoday ▸ hother)
    · exact untilShown_tomorrow (fun time htime => hgone time ((htoday time).1 htime))
        ((htomorrow time).2 hfirst) hnow

end Units

/-! ### Waiting for a time of day -/

theorem delayFrom_of_readsOn {perSecond : Int} (hunit : 0 < perSecond) {read : Int → Option Int}
    {t : TimeTrigger} {timeOfDay : Nat} (ht : t.fireAt = .timeOfDay timeOfDay)
    (hday : timeOfDay < 86400 * perSecond) (hreads : ∀ day, ReadsOn read perSecond timeOfDay day) (now : Int) :
    (¬ Overlooks perSecond timeOfDay now →
      0 < t.delayFrom ⟨eastern, perSecond, read⟩ now ∧
      NextShown perSecond timeOfDay now (now + t.delayFrom ⟨eastern, perSecond, read⟩ now)) ∧
    (Overlooks perSecond timeOfDay now →
      t.delayFrom ⟨eastern, perSecond, read⟩ now = 0 ∧
      ∃ next, NextShown perSecond timeOfDay now next ∧
        dayShown perSecond next = dayShown perSecond now + 2) := by
  have hdelay : t.delayFrom ⟨eastern, perSecond, read⟩ now =
      (untilShown ⟨eastern, perSecond, read⟩ timeOfDay now).toNat := by
    simp only [delayFrom, ht]
  have hday₀ : (0 : Int) ≤ timeOfDay := by omega
  rw [hdelay]
  constructor
  · intro h
    obtain ⟨next, hnext, hwait⟩ := untilShown_of_not_overlooks hunit hday₀ hday (hreads _) (hreads _) h
    have hlater := hnext.later
    have hsum : now + ((next - now).toNat : Int) = next := by omega
    rw [hwait, hsum]
    exact ⟨by omega, hnext⟩
  · intro h
    rw [untilShown_of_overlooks hunit hday₀ hday (hreads _) (hreads _) h]
    exact ⟨rfl, exists_nextShown_of_overlooks hunit hday₀ hday h⟩

/-- Local times are read as they are shown: as their first time, and not at all where they are skipped. -/
def Reads (read : Int → Option Int) (perSecond : Int) : Prop :=
  ∀ localTime time, read localTime = some time ↔ eastern.FirstShown perSecond localTime time

/-- A timer for a time of day waits until that is shown next in eastern time, unless it is gone today and
the clocks skip it tomorrow. Then it does not wait at all, though it is shown on the day after. -/
theorem delayFrom_eastern {perSecond : Int} (hunit : 0 < perSecond) {read : Int → Option Int}
    (hread : Reads read perSecond) {t : TimeTrigger} {timeOfDay : Nat} (ht : t.fireAt = .timeOfDay timeOfDay)
    (hday : timeOfDay < 86400 * perSecond) (now : Int) :
    (¬ Overlooks perSecond timeOfDay now →
      0 < t.delayFrom ⟨eastern, perSecond, read⟩ now ∧
      NextShown perSecond timeOfDay now (now + t.delayFrom ⟨eastern, perSecond, read⟩ now)) ∧
    (Overlooks perSecond timeOfDay now →
      t.delayFrom ⟨eastern, perSecond, read⟩ now = 0 ∧
      ∃ next, NextShown perSecond timeOfDay now next ∧
        dayShown perSecond next = dayShown perSecond now + 2) :=
  delayFrom_of_readsOn hunit ht hday (fun _ => hread _) now

/-! ### A reading -/

/-- Reads a local time as it is first shown. -/
def readFirst (perSecond localTime : Int) : Option Int :=
  let seconds := localTime / perSecond
  let fraction := localTime % perSecond
  if eastern.shown 1 (seconds + 14400) = seconds then some (perSecond * (seconds + 14400) + fraction)
  else if eastern.shown 1 (seconds + 18000) = seconds then some (perSecond * (seconds + 18000) + fraction)
  else none

theorem shown_summer_iff (seconds : Int) :
    eastern.shown 1 (seconds + 14400) = seconds ↔ Summer (seconds + 14400) := by
  constructor
  · intro hshown
    by_contra hwinter
    rw [shown_of_winter hwinter] at hshown
    omega
  · intro hsummer
    rw [shown_of_summer hsummer]
    omega

theorem shown_winter_iff (seconds : Int) :
    eastern.shown 1 (seconds + 18000) = seconds ↔ ¬ Summer (seconds + 18000) := by
  constructor
  · intro hshown hsummer
    rw [shown_of_summer hsummer] at hshown
    omega
  · intro hwinter
    rw [shown_of_winter hwinter]
    omega

theorem readFirst_none {perSecond : Int} (hunit : 0 < perSecond) {localTime : Int}
    (h : readFirst perSecond localTime = none) (time : Int) :
    eastern.shown perSecond time ≠ localTime := by
  intro hshown
  have hseconds := ((shown_eq_iff hunit eastern time localTime).1 hshown).1
  unfold readFirst at h
  by_cases hsummer : Summer (time / perSecond)
  · have heq : localTime / perSecond + 14400 = time / perSecond := by
      rw [shown_of_summer hsummer] at hseconds
      omega
    simp [heq, hseconds] at h
  · have heq : localTime / perSecond + 18000 = time / perSecond := by
      rw [shown_of_winter hsummer] at hseconds
      omega
    simp only [heq, hseconds] at h
    split at h <;> simp at h

theorem firstShown_of_readFirst {perSecond : Int} (hunit : 0 < perSecond) {localTime time : Int}
    (h : readFirst perSecond localTime = some time) : eastern.FirstShown perSecond localTime time := by
  unfold readFirst at h
  simp only at h
  split at h
  · next hsummer =>
    cases h
    rw [shown_summer_iff] at hsummer
    exact (firstShown_of_summer hsummer).of_seconds hunit
  · next hearly =>
    rw [shown_summer_iff] at hearly
    split at h
    · next hlate =>
      cases h
      rw [shown_winter_iff] at hlate
      exact (firstShown_of_winter hearly hlate).of_seconds hunit
    · cases h

theorem reads_readFirst {perSecond : Int} (hunit : 0 < perSecond) : Reads (readFirst perSecond) perSecond := by
  intro localTime time
  constructor
  · exact firstShown_of_readFirst hunit
  · intro hfirst
    cases hread : readFirst perSecond localTime with
    | none => exact absurd hfirst.1 (readFirst_none hunit hread time)
    | some other => rw [(firstShown_of_readFirst hunit hread).unique hfirst]

/-- A timer for half past two, in nanoseconds, asked for on Saturday the 9th of March 2024. -/
def halfPastTwo : TimeTrigger where
  fireAt := .timeOfDay 9000000000000
  registeredAt := 1709985600000000000

/-- On that Saturday at seven o'clock half past two is gone, and it is skipped on the next day. -/
theorem delayFrom_eastern_saturday :
    (0 : Int) < 1000000000 ∧ Reads (readFirst 1000000000) 1000000000 ∧
    halfPastTwo.fireAt = .timeOfDay 9000000000000 ∧ ((9000000000000 : Nat) : Int) < 86400 * 1000000000 ∧
    Overlooks 1000000000 (9000000000000 : Nat) 1709985600000000000 ∧
    halfPastTwo.delayFrom ⟨eastern, 1000000000, readFirst 1000000000⟩ 1709985600000000000 = 0 := by
  have hover : Overlooks 1000000000 (9000000000000 : Nat) 1709985600000000000 := by
    refine ⟨by decide, ⟨2024, by decide⟩, by decide, by decide⟩
  have hwaits := @delayFrom_eastern 1000000000 (by decide) (readFirst 1000000000)
    (reads_readFirst (by decide)) halfPastTwo 9000000000000 rfl (by decide) 1709985600000000000
  exact ⟨by decide, reads_readFirst (by decide), rfl, by decide, hover, (hwaits.2 hover).1⟩

/-- So it is not true that a timer for a time of day always waits. -/
theorem delayFrom_not_positive :
    ¬ ∀ (perSecond : Int) (read : Int → Option Int) (t : TimeTrigger) (timeOfDay : Nat) (now : Int),
      0 < perSecond → Reads read perSecond → t.fireAt = .timeOfDay timeOfDay →
      timeOfDay < 86400 * perSecond → 0 < t.delayFrom ⟨eastern, perSecond, read⟩ now := by
  intro h
  have hpositive := h 1000000000 (readFirst 1000000000) halfPastTwo 9000000000000 1709985600000000000
    (by decide) (reads_readFirst (by decide)) rfl (by decide)
  have hzero : halfPastTwo.delayFrom ⟨eastern, 1000000000, readFirst 1000000000⟩ 1709985600000000000 = 0 := by
    decide
  omega

/-! ### The clock that runs -/

/-- Outside the hours from one to two o'clock a time of day is read as it is shown. -/
theorem readsOn_instantOf? {perSecond : Int} (hunit : 0 < perSecond) {timeOfDay : Int} (hday : 0 ≤ timeOfDay)
    (hday' : timeOfDay < 86400 * perSecond)
    (h : timeOfDay < 3600 * perSecond ∨ 7201 * perSecond ≤ timeOfDay) (day : Int) :
    ReadsOn (eastern.instantOf? perSecond) perSecond timeOfDay day := by
  have hseconds := localTime_div hunit day timeOfDay
  have hlower : 0 ≤ timeOfDay / perSecond := Int.ediv_nonneg hday hunit.le
  have hupper : timeOfDay / perSecond < 86400 := (Int.ediv_lt_iff_lt_mul hunit).2 hday'
  have hhour : timeOfDay / perSecond < 3600 ∨ 7200 < timeOfDay / perSecond := by
    rcases h with hearly | hlate
    · exact Or.inl ((Int.ediv_lt_iff_lt_mul hunit).2 hearly)
    · have := (Int.le_ediv_iff_mul_le hunit).2 hlate
      omega
  intro time
  unfold instantOf?
  rw [hseconds]
  obtain ⟨hnone, hskips⟩ | ⟨offset, hsome, hfirst⟩ := @offsetOf?_eastern day _ hlower hupper hhour
  · have hnever : ¬ ∃ time, FirstOn perSecond timeOfDay day time := by
      rw [exists_firstOn_iff hunit hday hday', Classical.not_not, skips_iff hunit]
      exact hskips
    rw [hnone]
    exact iff_of_false nofun fun htime => hnever ⟨time, htime⟩
  · rw [← hseconds] at hfirst
    have hunits := hfirst.of_offset hunit
    rw [hsome, Option.map_some, Option.some_inj]
    constructor
    · rintro rfl
      exact hunits
    · intro htime
      exact hunits.unique htime

/-- As they run, timers for the times of day outside the hours from one to two o'clock wait until these are
shown next, unless they are overlooked. -/
theorem delayFrom_running {t : TimeTrigger} {timeOfDay : Nat} (ht : t.fireAt = .timeOfDay timeOfDay)
    (hday : timeOfDay < 86400 * 1000) (h : timeOfDay < 3600 * 1000 ∨ 7201 * 1000 ≤ timeOfDay) (now : Int) :
    (¬ Overlooks 1000 timeOfDay now →
      0 < t.delayFrom .eastern now ∧ NextShown 1000 timeOfDay now (now + t.delayFrom .eastern now)) ∧
    (Overlooks 1000 timeOfDay now →
      t.delayFrom .eastern now = 0 ∧
      ∃ next, NextShown 1000 timeOfDay now next ∧ dayShown 1000 next = dayShown 1000 now + 2) :=
  have hreads := @readsOn_instantOf? 1000 (by decide) timeOfDay (by omega) (by omega) (by omega)
  delayFrom_of_readsOn (by decide) ht (by omega) hreads now

end TimeTrigger

end DriverHub
