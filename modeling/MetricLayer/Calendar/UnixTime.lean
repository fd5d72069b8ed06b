import MetricLayer.Calendar.Stamp
import MetricLayer.Number.Rounding

/-!
# Unix time

Stamps counted in seconds from the start of 1970 in universal time.  A number too large for seconds
counts milliseconds; which of the two it counts is decided by the number as it is given.
-/

namespace MetricLayer.UnixTime

open Number

/-- The greatest number that counts seconds; larger ones count milliseconds. -/
def greatestSeconds : Nat := 20000000000

/-- The first second that can be counted, the start of the year 0. -/
def firstSecond : Int := -62167219200

/-- The last second that can be counted, the end of the year 9999. -/
def lastSecond : Int := 253402300799

/-- The ordinal of 1970-01-01. -/
def epochOrdinal : Int := 719163

/-- The day so many days from 1970-01-01; the days before the calendar are those of the year 0. -/
def dayOfCount? (days : Int) : Option NamedDay :=
  let ordinal := days + epochOrdinal
  if ordinal ≤ 0 then some .yearZero else (Date.ofOrdinal? ordinal.toNat).map .date

/-- The stamp so many seconds and microseconds from the start of 1970. -/
def ofSeconds? (seconds : Int) (micros : Nat) : Option Stamp := do
  let total := seconds + (micros / 1000000 : Nat)
  if total < firstSecond || lastSecond < total then none
  let ofDay := (total % 86400).toNat
  let day ← dayOfCount? (total / 86400)
  let clock ← Clock.of? (ofDay / 3600) (ofDay / 60 % 60) (ofDay % 60) (micros % 1000000)
  return ⟨day, clock, some .utc⟩

/-- The stamp that a whole number counts. -/
def ofInt? (n : Int) : Option Stamp :=
  if n.natAbs ≤ greatestSeconds then ofSeconds? n 0
  else ofSeconds? (n / 1000) ((n % 1000).toNat * 1000)

/-- The stamp that a double counts, to the nearest microsecond above a whole second. -/
def ofFloat? (x : Float) : Option Stamp :=
  let seconds := if greatestSeconds.toFloat < x.abs then x / 1000.0 else x
  let micros := ((seconds - seconds.floor) * 1000000.0).round
  if seconds.abs < 1.0e15 then ofSeconds? (floorInt seconds) micros.toUInt64.toNat else none

end MetricLayer.UnixTime
