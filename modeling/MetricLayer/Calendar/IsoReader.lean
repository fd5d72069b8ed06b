import MetricLayer.Calendar.Moment
import MetricLayer.Number.Powers

/-!
# Reading ISO dates and times

Dates are `YYYY-MM-DD`, `YYYYMMDD`, `YYYY-Www[-D]` or `YYYYWww[D]`.  One character of any kind may
separate a time, which is `HH[:]MM[:]SS` cut off after any field, with a fraction of which six
digits count and an offset that is `Z` or has the same form after a sign.

Where the separator stands is decided before the date is read, from the first characters and the
length, and lengths count UTF-8 code units.  The end of the text reads as a NUL, so a NUL may stand
wherever a text may end.
-/

namespace MetricLayer.IsoReader

/-- The text with each character repeated once for each of its UTF-8 code units, so that positions
are code unit positions; no character outside ASCII means anything to the reader. -/
def codeUnits (cs : List Char) : List Char := cs.flatMap fun c => List.replicate c.utf8Size c

/-- The first character, or NUL at the end. -/
def peek (cs : List Char) : Char := cs.headD '\x00'

/-- Exactly `count` ASCII digits at the head: their value and the rest. -/
def takeDigits? (count : Nat) (cs : List Char) : Option (Nat × List Char) :=
  let ds := cs.take count
  if ds.length = count && ds.all Char.isDigit then
    some (ds.foldl (fun n c => 10 * n + (c.toNat - 48)) 0, cs.drop count)
  else none

/-- The position of the separator of a text of at least seven code units. -/
def separatorPosition (cs : List Char) : Nat :=
  let length := cs.length
  let digitAt (i : Nat) : Bool := (cs[i]?).any Char.isDigit
  if length = 7 then 7
  else if cs[4]? = some '-' then
    if cs[5]? = some 'W' then
      if cs[8]? = some '-' then (if 10 < length && digitAt 10 then 8 else 10) else 8
    else 10
  else if cs[4]? = some 'W' then
    let run := 7 + ((cs.drop 7).takeWhile Char.isDigit).length
    if run < 9 then run else if run % 2 = 0 then 7 else 8
  else 8

/-- The date at the head of a text, which ends at position `stop`. -/
def readDate? (stop : Nat) (cs : List Char) : Option Date := do
  let (year, cs) ← takeDigits? 4 cs
  let dashed := peek cs = '-'
  let cs := if dashed then cs.drop 1 else cs
  let used := if dashed then 5 else 4
  if peek cs = 'W' then
    let (week, cs) ← takeDigits? 2 (cs.drop 1)
    if used + 3 < stop then
      if dashed && peek cs ≠ '-' then none
      let (day, _) ← takeDigits? 1 (if dashed then cs.drop 1 else cs)
      Date.ofWeek? year week day
    else Date.ofWeek? year week 1
  else
    let (month, cs) ← takeDigits? 2 cs
    if dashed && peek cs ≠ '-' then none
    let (day, _) ← takeDigits? 2 (if dashed then cs.drop 1 else cs)
    if (if dashed then 10 else 8) = stop then Date.of? year month day else none

/-- The fields of a clock time as they were written, and whether the text ends after them. -/
structure Fields where
  /-- The hour. -/
  hour : Nat
  /-- The minute, zero when absent. -/
  minute : Nat
  /-- The second, zero when absent. -/
  second : Nat
  /-- The microsecond, zero when absent. -/
  micro : Nat
  /-- Nothing stands after the fields. -/
  complete : Bool

/-- The fraction at the head, of which `left` characters belong to the time: its microseconds, and
whether the text ends after its digits. -/
def readFraction? (left : Nat) (cs : List Char) : Option (Nat × Bool) := do
  let count := min left 6
  let (n, rest) ← takeDigits? count cs
  return (n * Number.pow10 (6 - count), peek (rest.dropWhile Char.isDigit) = '\x00')

/-- What stands after a field of a clock time. -/
inductive AfterField where
  /-- The time ends; the flag says whether the text does so too. -/
  | finished (complete : Bool)
  /-- Another field follows. -/
  | field (rest : List Char) (left : Nat)
  /-- A fraction follows. -/
  | fraction (rest : List Char) (left : Nat)

/-- Looks at what follows a field that ends `left` characters before the end of the time. -/
def afterField? (colons last : Bool) (left : Nat) (cs : List Char) : Option AfterField :=
  let c := peek cs
  if left ≤ 1 then some (.finished (c = '\x00'))
  else if colons && c = ':' then
    some (if last then .fraction (cs.drop 1) (left - 1) else .field (cs.drop 1) (left - 1))
  else if c = '.' || c = ',' then some (.fraction (cs.drop 1) (left - 1))
  else if !colons then some (if last then .fraction cs left else .field cs left)
  else none

/-- The clock time at the head of `cs`, of which `left` characters belong to the time. -/
def readFields? (left : Nat) (cs : List Char) : Option Fields := do
  let (hour, cs) ← takeDigits? 2 cs
  let colons := peek cs = ':'
  match ← afterField? colons false (left - 2) cs with
  | .finished complete => return ⟨hour, 0, 0, 0, complete⟩
  | .fraction rest left =>
    let (micro, complete) ← readFraction? left rest
    return ⟨hour, 0, 0, micro, complete⟩
  | .field rest left =>
    let (minute, cs) ← takeDigits? 2 rest
    match ← afterField? colons false (left - 2) cs with
    | .finished complete => return ⟨hour, minute, 0, 0, complete⟩
    | .fraction rest left =>
      let (micro, complete) ← readFraction? left rest
      return ⟨hour, minute, 0, micro, complete⟩
    | .field rest left =>
      let (second, cs) ← takeDigits? 2 rest
      match ← afterField? colons true (left - 2) cs with
      | .finished complete => return ⟨hour, minute, second, 0, complete⟩
      | .field _ _ => none
      | .fraction rest left =>
        let (micro, complete) ← readFraction? left rest
        return ⟨hour, minute, second, micro, complete⟩

/-- The character starts an offset. -/
def startsOffset (c : Char) : Bool := c = '+' || c = '-' || c = 'Z'

/-- The offset that a text spells: `Z`, or a sign and a clock time.  Less than a second of it counts
only beside whole seconds. -/
def readOffset? : List Char → Option UtcOffset
  | [] => none
  | sign :: cs =>
    if sign = 'Z' then (if peek cs = '\x00' then some .utc else none)
    else do
      let f ← readFields? cs.length cs
      if !f.complete then none
      let seconds := f.hour * 3600 + f.minute * 60 + f.second
      let micros : Int := if seconds = 0 then 0 else seconds * 1000000 + f.micro
      UtcOffset.of? (if sign = '-' then -micros else micros)

/-- The time of day that a text spells, and its offset if it has one. -/
def readTime? (cs : List Char) : Option (Clock × Option UtcOffset) := do
  let body := cs.takeWhile (!startsOffset ·)
  let tail := cs.drop body.length
  let f ← readFields? body.length cs
  let clock? := Clock.of? f.hour f.minute f.second f.micro
  if tail.isEmpty then
    if f.complete then clock?.map (·, none) else none
  else
    let offset ← readOffset? tail
    clock?.map (·, some offset)

end MetricLayer.IsoReader

namespace MetricLayer

open IsoReader

/-- The moment that a text spells in one of the ISO forms. -/
def Moment.ofIso? (s : String) : Option Moment :=
  if s.length < 7 then none
  else
    let cs := codeUnits s.toList
    let stop := separatorPosition cs
    match readDate? stop cs with
    | none => none
    | some date =>
      if cs.length ≤ stop then some (.ofDate date)
      else
        let width := (peek (cs.drop stop)).utf8Size
        (readTime? (cs.drop (stop + width))).map fun (clock, offset) => ⟨date, clock, offset⟩

/-- The date that a text spells in one of the ISO forms. -/
def Date.ofIso? (s : String) : Option Date :=
  if s.length < 7 then none
  else
    let cs := codeUnits s.toList
    if separatorPosition cs = cs.length then readDate? cs.length cs else none

end MetricLayer
