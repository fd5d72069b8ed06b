import MetricLayer.Calendar.IsoReader
import MetricLayer.Calendar.UnixTime
import MetricLayer.Number.FloatText

/-!
# Dates and times of the Internet

Requests write a date as `YYYY-MM-DD` and a moment as a date, one of the separators `T`, `t`, `_` and
a blank, a time `HH:MM[:SS[.F]]` of which six digits of the fraction count, and an offset `Z` or
`+HH[:]MM` if it is known.  A numeral counts from the start of 1970.  Responses write universal time
as `Z`.
-/

namespace MetricLayer.InternetTime

open IsoReader

/-- A day at the head of a text, and the rest. -/
def readDay? (cs : List Char) : Option (NamedDay × List Char) := do
  let (year, cs) ← takeDigits? 4 cs
  let (month, cs) ← takeDigits? 2 (← afterChar? '-' cs)
  let (day, cs) ← takeDigits? 2 (← afterChar? '-' cs)
  return (← NamedDay.of? year month day, cs)
where
  /-- What follows a given first character. -/
  afterChar? (c : Char) : List Char → Option (List Char)
    | d :: rest => if d = c then some rest else none
    | [] => none

/-- The fraction at the head of a text in microseconds; digits after the sixth do not count. -/
def readFraction? (cs : List Char) : Option (Nat × List Char) :=
  let ds := cs.takeWhile Char.isDigit
  let counted := (ds ++ List.replicate 6 '0').take 6
  if ds.isEmpty then none
  else (takeDigits? 6 counted).map fun (micros, _) => (micros, cs.drop ds.length)

/-- The second with its fraction at the head of a text; both are zero when there is none. -/
def readSecond? : List Char → Option ((Nat × Nat) × List Char)
  | ':' :: cs => do
    let (second, cs) ← takeDigits? 2 cs
    match cs with
    | c :: rest =>
      if c = '.' || c = ',' then
        let (micro, rest) ← readFraction? rest
        return ((second, micro), rest)
      else return ((second, 0), cs)
    | [] => return ((second, 0), [])
  | cs => some ((0, 0), cs)

/-- The signs of an offset; a minus may also be the mathematical one. -/
def offsetSign? (c : Char) : Option Int :=
  if c = '+' then some 1 else if c = '-' || c = '−' then some (-1) else none

/-- The offset that is all of a text. -/
def readOffset? : List Char → Option (Option UtcOffset)
  | [] => some none
  | c :: cs =>
    if c = 'Z' || c = 'z' then (if cs.isEmpty then some (some .utc) else none)
    else do
      let sign ← offsetSign? c
      let (hours, cs) ← takeDigits? 2 cs
      let (minutes, cs) ← takeDigits? 2 (if cs.head? = some ':' then cs.drop 1 else cs)
      if 60 ≤ minutes || !cs.isEmpty then none
      let offset ← UtcOffset.of? (sign * ((hours * 3600 + minutes * 60) * 1000000 : Nat))
      return some offset

/-- The stamp that a text writes out; a day alone stands for its start. -/
def readWritten? (cs : List Char) : Option Stamp := do
  let (day, cs) ← readDay? cs
  match cs with
  | [] => return .ofDay day
  | separator :: cs =>
    if separator ≠ 'T' && separator ≠ 't' && separator ≠ ' ' && separator ≠ '_' then none
    let (hour, cs) ← takeDigits? 2 cs
    if cs.head? ≠ some ':' then none
    let (minute, cs) ← takeDigits? 2 (cs.drop 1)
    let ((second, micro), cs) ← readSecond? cs
    let clock ← Clock.of? hour minute second micro
    return ⟨day, clock, ← readOffset? cs⟩

/-- The stamp that a numeral counts.  Digits alone are a whole number, which names a day also from
within its first second; a decimal has its point before any exponent. -/
def readCounted? (cs : List Char) : Option Stamp :=
  let (negative, body) := match cs with
    | '-' :: rest => (true, rest)
    | '+' :: rest => (false, rest)
    | rest => (false, rest)
  match body.dropWhile Char.isDigit with
  | [] => do
    let n ← Number.readDecimal? body
    (← UnixTime.ofInt? (if negative then -(Int.ofNat n) else Int.ofNat n)).dropFirstFraction
  | '.' :: _ => do
    let d ← Number.readUnsigned? body
    let x := Number.nearestFloat d.significand d.exponent
    UnixTime.ofFloat? (if negative then -x else x)
  | _ => none

end MetricLayer.InternetTime

namespace MetricLayer

open InternetTime Number

/-- The stamp that a text writes out or counts. -/
def Stamp.ofInternet? (s : String) : Option Stamp :=
  (readWritten? s.toList).orElse fun _ => readCounted? s.toList

/-- The offset as responses write it: `Z`, or a sign with hours and minutes.  It is rounded to
seconds first, and the seconds are left out. -/
def UtcOffset.internetText (o : UtcOffset) : String :=
  let seconds := (o.micros.natAbs + 500000) / 1000000
  let sign := if o.micros < 0 then "-" else "+"
  if seconds = 0 then "Z"
  else s!"{sign}{paddedDecimal 2 (seconds / 3600)}:{paddedDecimal 2 (seconds / 60 % 60)}"

/-- The moment as responses write it. -/
def Moment.internetText (m : Moment) : String :=
  m.date.text ++ "T" ++ m.clock.text ++ (m.offset.map UtcOffset.internetText).getD ""

end MetricLayer
