import MetricLayer.Calendar.Date

/-!
# Times of day, offsets and moments

A moment is a date with a time of day in microseconds and, when it is known, the offset of its
local time from universal time.
-/

namespace MetricLayer

open Number

/-- A time of day. -/
structure Clock where
  /-- The hour, from 0 to 23. -/
  hour : Nat
  /-- The minute. -/
  minute : Nat
  /-- The second; there are no leap seconds. -/
  second : Nat
  /-- The microsecond. -/
  micro : Nat
  /-- Every part is in its range. -/
  in_range : (hour < 24 && minute < 60 && second < 60 && micro < 1000000) = true
  deriving DecidableEq, Repr

namespace Clock

/-- The time of day with these parts, if they are in range. -/
def of? (hour minute second micro : Nat) : Option Clock :=
  if h : (hour < 24 && minute < 60 && second < 60 && micro < 1000000) = true then
    some ⟨hour, minute, second, micro, h⟩
  else none

/-- The start of the day. -/
def midnight : Clock := ⟨0, 0, 0, 0, by decide⟩

instance : Inhabited Clock := ⟨midnight⟩

/-- The text `HH:MM:SS`, with six more digits when the microseconds are not zero. -/
def text (c : Clock) : String :=
  let whole := s!"{paddedDecimal 2 c.hour}:{paddedDecimal 2 c.minute}:{paddedDecimal 2 c.second}"
  if c.micro = 0 then whole else s!"{whole}.{paddedDecimal 6 c.micro}"

end Clock

/-- The distance of a local time from universal time, less than a day either way. -/
structure UtcOffset where
  /-- The distance in microseconds, positive to the east. -/
  micros : Int
  /-- The distance is less than a day. -/
  within_day : micros.natAbs < 86400000000
  deriving DecidableEq, Repr

namespace UtcOffset

/-- The offset of so many microseconds, if it is less than a day. -/
def of? (micros : Int) : Option UtcOffset :=
  if h : micros.natAbs < 86400000000 then some ⟨micros, h⟩ else none

/-- Universal time itself. -/
def utc : UtcOffset := ⟨0, by decide⟩

instance : Inhabited UtcOffset := ⟨utc⟩

/-- The text `+HH:MM`, with seconds and microseconds when they are not zero. -/
def text (o : UtcOffset) : String :=
  let n := o.micros.natAbs
  let seconds := n / 1000000
  let hm := s!"{paddedDecimal 2 (seconds / 3600)}:{paddedDecimal 2 (seconds / 60 % 60)}"
  let s := if n % 60000000 = 0 then "" else s!":{paddedDecimal 2 (seconds % 60)}"
  let f := if n % 1000000 = 0 then "" else s!".{paddedDecimal 6 (n % 1000000)}"
  (if o.micros < 0 then "-" else "+") ++ hm ++ s ++ f

end UtcOffset

/-- A date with a time of day and possibly an offset. -/
structure Moment where
  /-- The day. -/
  date : Date
  /-- The time of day. -/
  clock : Clock
  /-- The offset from universal time, where it is known. -/
  offset : Option UtcOffset
  deriving DecidableEq, Repr, Inhabited

namespace Moment

/-- The start of a day, with no offset. -/
def ofDate (d : Date) : Moment := ⟨d, .midnight, none⟩

/-- The date and the time joined by a separator, followed by the offset. -/
def textWith (separator : String) (m : Moment) : String :=
  m.date.text ++ separator ++ m.clock.text ++ (m.offset.map UtcOffset.text).getD ""

/-- The text `YYYY-MM-DDTHH:MM:SS` with what else is not zero. -/
def text (m : Moment) : String := m.textWith "T"

end Moment

end MetricLayer
