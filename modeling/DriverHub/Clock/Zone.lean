import DriverHub.Clock.Calendar

/-! Local time. A zone has a standard offset from universal time and a larger one in summer; its
clocks are put forward and back once a year, on whole seconds. Instants and local times are counted from
the beginning of day 0, in units of which so many make a second. -/

namespace DriverHub

structure Zone where
  standard : Int
  daylight : Int
  /-- The local standard time at which the clocks are put forward in a year. -/
  forward : Int → Int
  /-- The local daylight time at which the clocks are put back in a year. -/
  back : Int → Int

def secondsOfDay : Int := 86400

namespace Zone

/-- The seconds that local time is ahead of universal time, so many seconds after the beginning of
day 0. -/
def offsetAt (zone : Zone) (seconds : Int) : Int :=
  let year := Calendar.yearOf ((seconds + zone.standard) / secondsOfDay)
  if zone.forward year - zone.standard ≤ seconds ∧ seconds < zone.back year - zone.daylight then
    zone.daylight
  else zone.standard

/-- What the clocks show at an instant, with so many units to the second. -/
def shown (zone : Zone) (perSecond instant : Int) : Int :=
  instant + perSecond * zone.offsetAt (instant / perSecond)

/-- The offset with which a local time of seconds is read. A time that the clocks skip has none, and one that
they show twice is read as standard time. -/
def offsetOf? (zone : Zone) (localTime : Int) : Option Int :=
  let year := Calendar.yearOf (localTime / secondsOfDay)
  let gap := zone.daylight - zone.standard
  let forward := zone.forward year
  if localTime ≤ forward then some zone.standard
  else if localTime < forward + gap then none
  else if localTime < zone.back year - gap then some zone.daylight
  else some zone.standard

/-- The instant as which a local time is read, with so many units to the second. -/
def instantOf? (zone : Zone) (perSecond localTime : Int) : Option Int :=
  (zone.offsetOf? (localTime / perSecond)).map fun offset => localTime - perSecond * offset

/-- Eastern time: five hours behind in winter and four in summer, which lasts from two o'clock on the
second Sunday of March to two o'clock on the first Sunday of November. -/
def eastern : Zone where
  standard := -5 * 3600
  daylight := -4 * 3600
  forward year := Calendar.sunday 2 year 3 * secondsOfDay + 2 * 3600
  back year := Calendar.sunday 1 year 11 * secondsOfDay + 2 * 3600

end Zone

/-- A clock of a zone, with the units of its time and its way to read what the clocks of the zone show. -/
structure LocalClock where
  zone : Zone
  perSecond : Int
  /-- The instant as which a local time is read, if it is one that is shown. -/
  read : Int → Option Int

namespace LocalClock

def perDay (clock : LocalClock) : Int := secondsOfDay * clock.perSecond

/-- The day that is shown at an instant. -/
def dayAt (clock : LocalClock) (instant : Int) : Int :=
  clock.zone.shown clock.perSecond instant / clock.perDay

/-- Eastern time in milliseconds. -/
def eastern : LocalClock := ⟨.eastern, 1000, Zone.eastern.instantOf? 1000⟩

end LocalClock

end DriverHub
