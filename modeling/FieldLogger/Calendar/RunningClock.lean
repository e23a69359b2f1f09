import FieldLogger.Calendar.Clock

/-!
A clock that runs: the wall clock of the host shifted by an offset. Instants are nanoseconds on one line,
counted from midnight before 1 January of year 1. Each call is given the readings of the wall clock that it
makes, in order, since the wall clock goes on between them.
-/

namespace FieldLogger

/-- Nanoseconds since midnight before 1 January of year 1. -/
abbrev Instant := Int

namespace Instant

def perSecond : Int := 1000000000

def perDay : Int := 86400 * perSecond

/-- The instant at which a day begins. -/
def ofDate (d : Date) : Instant := d.dayNumber * perDay

/-- The nanoseconds from the start of the day. -/
def sinceMidnight (t : Instant) : Int := t % perDay

def date (t : Instant) : Date := Date.ofDayNumber (t / perDay)

/-- The nanoseconds from midnight to a time of day. -/
def ofTime (t : TimeOfDay) : Int := (t.hour * 3600 + t.minute * 60 + t.second) * perSecond

/-- The whole seconds from midnight to the instant. -/
def secondOfDay (t : Instant) : Nat := (sinceMidnight t / perSecond).toNat

theorem secondOfDay_lt (t : Instant) : secondOfDay t < 86400 := by
  unfold secondOfDay sinceMidnight perDay perSecond
  omega

/-- The time of day of the instant, in whole seconds. -/
def time (t : Instant) : TimeOfDay :=
  let s := secondOfDay t
  have := secondOfDay_lt t
  ⟨s / 3600, s / 60 % 60, s % 60, by omega, by omega, by omega⟩

/-- What a clock shows at the instant. -/
def clock (t : Instant) : Clock := ⟨date t, time t⟩

end Instant

/-- The wall clock shifted by `offset` nanoseconds. -/
structure RunningClock where
  offset : Int
  deriving DecidableEq, Repr

namespace RunningClock

/-- A clock that shows the wall clock. -/
def unset : RunningClock := ⟨0⟩

/-- The instant of the clock when the wall clock reads `wall`. -/
def now (c : RunningClock) (wall : Instant) : Instant := wall + c.offset

/-- The clock that stands at `target` when the wall clock reads `wall`. -/
def standingAt (target wall : Instant) : RunningClock := ⟨target - wall⟩

/-- Sets the time and keeps the date: `first` is the reading that finds the date and `second` the one that
fixes the offset. -/
def setTime (c : RunningClock) (hour minute sec : Nat) (first second : Instant) :
    Except EntryError RunningClock :=
  (Clock.checkedTime hour minute sec).map fun t =>
    standingAt (Instant.ofDate (Instant.date (c.now first)) + Instant.ofTime t) second

/-- Sets the date and keeps the time of day: `first` is the reading that finds the time and `second` the one
that fixes the offset. -/
def setDate (c : RunningClock) (day month : Nat) (year : Int) (first second : Instant) :
    Except EntryError RunningClock :=
  (Clock.checkedDate day month year).map fun d =>
    standingAt (Instant.ofDate d + Instant.sinceMidnight (c.now first)) second

end RunningClock
end FieldLogger
