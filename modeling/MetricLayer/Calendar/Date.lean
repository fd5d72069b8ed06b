import MetricLayer.Number.Digits

/-!
# Calendar dates

Dates of the Gregorian calendar from year 1 to year 9999.  A date carries the proof that it exists;
`ordinal` numbers the days from 0001-01-01, which is day 1, and week dates go through that number.
-/

namespace MetricLayer.Calendar

/-- The year has a 29 February. -/
def isLeapYear (year : Nat) : Bool := year % 4 = 0 && (year % 100 ≠ 0 || year % 400 = 0)

/-- The number of days of a month, counted from 1; zero for other numbers. -/
def daysInMonth (year month : Nat) : Nat :=
  if month = 2 then (if isLeapYear year then 29 else 28)
  else if month = 4 || month = 6 || month = 9 || month = 11 then 30
  else if 1 ≤ month && month ≤ 12 then 31
  else 0

/-- The three numbers name a day of the calendar. -/
def isDate (year month day : Nat) : Bool :=
  1 ≤ year && year ≤ 9999 && 1 ≤ day && day ≤ daysInMonth year month

end MetricLayer.Calendar

namespace MetricLayer

open Calendar Number

/-- A day of the calendar. -/
structure Date where
  /-- The year, from 1 to 9999. -/
  year : Nat
  /-- The month, from 1 to 12. -/
  month : Nat
  /-- The day of the month. -/
  day : Nat
  /-- The day exists. -/
  exists_day : isDate year month day = true
  deriving DecidableEq, Repr

namespace Date

/-- The day with these numbers, if there is one. -/
def of? (year month day : Nat) : Option Date :=
  if h : isDate year month day = true then some ⟨year, month, day, h⟩ else none

instance : Inhabited Date := ⟨⟨1970, 1, 1, by decide⟩⟩

/-- The number of days of the years before `year`. -/
def daysBeforeYear (year : Nat) : Nat :=
  let y := year - 1
  365 * y + y / 4 - y / 100 + y / 400

/-- The number of days of the months before `month`. -/
def daysBeforeMonth (year month : Nat) : Nat :=
  (List.range month).foldl (fun days m => days + daysInMonth year m) 0

/-- The number of a day, where 0001-01-01 has number 1. -/
def ordinal (d : Date) : Nat :=
  daysBeforeYear d.year + daysBeforeMonth d.year d.month + d.day

/-- The month and day of the `n`-th day of a year, counted from zero, searched from `month`. -/
def monthAndDay (year : Nat) : Nat → Nat → Nat → Nat × Nat
  | 0, month, n => (month, n + 1)
  | fuel + 1, month, n =>
    if n < daysInMonth year month then (month, n + 1)
    else monthAndDay year fuel (month + 1) (n - daysInMonth year month)

/-- The year of the day with a number: the last one that starts at or before it. -/
def yearOfOrdinal (number : Nat) : Nat :=
  let guess := (number - 1) / 366 + 1
  (List.range (guess / 400 + 3)).foldl
    (fun year _ => if daysBeforeYear (year + 1) < number then year + 1 else year) guess

/-- The day with a number, if it lies before year 10000. -/
def ofOrdinal? (number : Nat) : Option Date :=
  let year := yearOfOrdinal number
  let place := monthAndDay year 12 1 (number - 1 - daysBeforeYear year)
  of? year place.1 place.2

/-- The weekday of the first day of a year: 0 is Monday. -/
def firstWeekday (year : Nat) : Nat := (daysBeforeYear year + 7) % 7

/-- The weeks of a year: 53 when it starts on a Thursday, or on a Wednesday and is a leap year. -/
def weeksInYear (year : Nat) : Nat :=
  if firstWeekday year = 3 || (firstWeekday year = 2 && isLeapYear year) then 53 else 52

/-- The number of the Monday of week 1 of a year, the week with the first Thursday. -/
def firstMonday (year : Nat) : Nat :=
  let first := daysBeforeYear year + 1
  let weekday := firstWeekday year
  if 3 < weekday then first + 7 - weekday else first - weekday

/-- The day of a week date; days of the week count from 1, which is Monday. -/
def ofWeek? (year week day : Nat) : Option Date :=
  if 1 ≤ year && year ≤ 9999 && 1 ≤ week && week ≤ weeksInYear year && 1 ≤ day && day ≤ 7 then
    ofOrdinal? (firstMonday year + (week - 1) * 7 + (day - 1))
  else none

/-- The text `YYYY-MM-DD`. -/
def text (d : Date) : String :=
  s!"{paddedDecimal 4 d.year}-{paddedDecimal 2 d.month}-{paddedDecimal 2 d.day}"

end Date

end MetricLayer
