import MetricLayer.Calendar.Moment

/-!
# Stamps

A stamp is a day with a time of day and possibly an offset, as a request names it.  Unlike a moment
it may name a day of the year 0, which can be written and counted but which the calendar lacks.
-/

namespace MetricLayer

/-- A day as a request names it. -/
inductive NamedDay where
  /-- A day of the calendar. -/
  | date (d : Date)
  /-- A day of the year 0. -/
  | yearZero
  deriving DecidableEq, Repr

/-- The day named by three numbers; the year 0 is a leap year. -/
def NamedDay.of? (year month day : Nat) : Option NamedDay :=
  if year = 0 then
    if 1 ≤ day && day ≤ Calendar.daysInMonth 0 month then some .yearZero else none
  else (Date.of? year month day).map .date

/-- A named day with a time of day and possibly an offset. -/
structure Stamp where
  /-- The day. -/
  day : NamedDay
  /-- The time of day. -/
  clock : Clock
  /-- The offset from universal time, where it is known. -/
  offset : Option UtcOffset
  deriving DecidableEq, Repr

namespace Stamp

/-- The start of a day, with no offset. -/
def ofDay (day : NamedDay) : Stamp := ⟨day, .midnight, none⟩

/-- The stamp without the part of a second at the very start of a day. -/
def dropFirstFraction (s : Stamp) : Stamp :=
  if s.clock.hour = 0 && s.clock.minute = 0 && s.clock.second = 0 then
    { s with clock := .midnight }
  else s

end Stamp

end MetricLayer
