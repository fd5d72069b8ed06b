import MetricLayer.Number.Rounding

/-!
# Durations

A signed number of microseconds.  It is displayed as whole days, rounded down, and a clock time; in
the ISO form a sign stands before the magnitude, which is split into units.
-/

namespace MetricLayer

open Number

/-- A signed length of time. -/
structure Duration where
  /-- The length in microseconds. -/
  micros : Int
  deriving DecidableEq, Repr, Inhabited

namespace Duration

/-- The whole days, rounded down. -/
def days (d : Duration) : Int := d.micros / 86400000000

/-- The whole seconds after the whole days. -/
def seconds (d : Duration) : Nat := (d.micros % 86400000000).toNat / 1000000

/-- The microseconds after the whole seconds. -/
def microseconds (d : Duration) : Nat := (d.micros % 1000000).toNat

/-- The text `[D day[s], ]H:MM:SS[.ffffff]`. -/
def text (d : Duration) : String :=
  let count :=
    if d.days = 0 then ""
    else integerText d.days ++ (if d.days.natAbs = 1 then " day, " else " days, ")
  let s := d.seconds
  let clock :=
    s!"{decimalText (s / 3600)}:{paddedDecimal 2 (s / 60 % 60)}:{paddedDecimal 2 (s % 60)}"
  let fraction := if d.microseconds = 0 then "" else s!".{paddedDecimal 6 d.microseconds}"
  count ++ clock ++ fraction

/-- A count of a unit, left out when it is zero. -/
def unitText (n : Nat) (unit : String) : String := if n = 0 then "" else decimalText n ++ unit

/-- The seconds of a length less than a minute with as much of the fraction as is not zero. -/
def isoSeconds (micros : Nat) : String :=
  let fraction := dropTrailingZeros (padZeros 6 (decimalChars (micros % 1000000)))
  if micros = 0 then ""
  else if fraction.isEmpty then decimalText (micros / 1000000) ++ "S"
  else decimalText (micros / 1000000) ++ "." ++ String.ofList fraction ++ "S"

/-- The text `[-]P[nY][nD][T[nH][nM][n[.f]S]]`, in which a year is 365 days. -/
def isoText (d : Duration) : String :=
  let n := d.micros.natAbs
  let days := n / 86400000000
  let ofDay := n % 86400000000
  let date := unitText (days / 365) "Y" ++ unitText (days % 365) "D"
  let time := unitText (ofDay / 3600000000) "H" ++ unitText (ofDay / 60000000 % 60) "M"
    ++ isoSeconds (ofDay % 60000000)
  let sign := if d.micros < 0 then "-" else ""
  if n = 0 then "PT0S"
  else if ofDay = 0 then sign ++ "P" ++ date
  else sign ++ "P" ++ date ++ "T" ++ time

/-- The length of a whole number of seconds. -/
def ofSeconds (s : Int) : Duration := ⟨s * 1000000⟩

/-- The whole number nearest to a double, halves going to the even neighbour; doubles of 2 ^ 53 and
more are whole. -/
def roundHalfEven (x : Float) : Int :=
  let n := floorInt x
  let rest := x - x.floor
  if rest < 0.5 then n
  else if 0.5 < rest then n + 1
  else if n % 2 = 0 then n
  else n + 1

/-- The length of a fractional number of seconds, to the nearest microsecond. -/
def ofFractionalSeconds (s : Float) : Duration :=
  let whole := if s < 0.0 then s.ceil else s.floor
  ⟨floorInt whole * 1000000 + roundHalfEven ((s - whole) * 1000000.0)⟩

end Duration

end MetricLayer
