import MetricLayer.Calendar.IsoReader
import MetricLayer.Text.Blank
import MetricLayer.Text.Digit

/-!
# Reading dates by pattern

A pattern is a list of fields and separators.  Each field has its spellings in a fixed order of
preference, the reader takes the first way in which the whole pattern fits the head of the text, and
the text has to end there.  Month names are English and any letters of them may be capital.
-/

namespace MetricLayer.Pattern

open MetricLayer.Text

/-- A part of a pattern. -/
inductive Part where
  /-- A year of four digits. -/
  | year
  /-- The number of a month. -/
  | month
  /-- The day of the month. -/
  | day
  /-- The hour. -/
  | hour
  /-- The minute. -/
  | minute
  /-- The second. -/
  | second
  /-- The first three letters of a month. -/
  | shortMonth
  /-- The name of a month. -/
  | longMonth
  /-- One or more blanks. -/
  | blanks
  /-- The character itself. -/
  | sign (c : Char)
  deriving DecidableEq, Repr

/-- The numbers read so far. -/
structure Numbers where
  /-- The year. -/
  year : Nat
  /-- The month. -/
  month : Nat
  /-- The day. -/
  day : Nat
  /-- The hour. -/
  hour : Nat
  /-- The minute. -/
  minute : Nat
  /-- The second. -/
  second : Nat

/-- A spelling of a number: the class of each of its digits. -/
abbrev Spelling := List (Char → Bool)

/-- One of the ASCII digits from `a` to `b`. -/
def between (a b : Char) (c : Char) : Bool := a.toNat ≤ c.toNat && c.toNat ≤ b.toNat

/-- The value of a number in which blanks may lead. -/
def spelledValue (cs : List Char) : Nat := (readDigits? (cs.filter (!isBlank ·))).getD 0

/-- The readings of a number at the head, in the order of its spellings. -/
def numberReadings (spellings : List Spelling) (cs : List Char) : List (Nat × List Char) :=
  spellings.filterMap fun spelling =>
    let head := cs.take spelling.length
    if head.length = spelling.length && (spelling.zip head).all (fun p => p.1 p.2) then
      some (spelledValue head, cs.drop spelling.length)
    else none

/-- The months in the order of the year. -/
def monthNames : List String :=
  ["january", "february", "march", "april", "may", "june", "july", "august", "september",
    "october", "november", "december"]

/-- The readings of a month name at the head, cut to `width` letters. -/
def nameReadings (width : Nat) (cs : List Char) : List (Nat × List Char) :=
  monthNames.zipIdx.filterMap fun (name, i) =>
    let letters := name.toList.take width
    if (cs.take letters.length).map Char.toLower = letters then
      some (i + 1, cs.drop letters.length)
    else none

/-- The readings of a run of blanks at the head, the longest first. -/
def blankReadings (cs : List Char) : List (List Char) :=
  let run := (cs.takeWhile isBlank).length
  (List.range run).map fun i => cs.drop (run - i)

/-- The ways in which a part fits the head of a text, in order of preference. -/
def Part.readings (p : Part) (n : Numbers) (cs : List Char) : List (Numbers × List Char) :=
  match p with
  | .year =>
    (numberReadings [[isDigit, isDigit, isDigit, isDigit]] cs).map
      fun r => ({ n with year := r.1 }, r.2)
  | .month =>
    (numberReadings [[(· = '1'), between '0' '2'], [(· = '0'), between '1' '9'], [between '1' '9']]
      cs).map fun r => ({ n with month := r.1 }, r.2)
  | .day =>
    (numberReadings [[(· = '3'), between '0' '1'], [between '1' '2', isDigit],
      [(· = '0'), between '1' '9'], [between '1' '9'], [(· = ' '), between '1' '9']]
      cs).map fun r => ({ n with day := r.1 }, r.2)
  | .hour =>
    (numberReadings [[(· = '2'), between '0' '3'], [between '0' '1', isDigit], [isDigit]]
      cs).map fun r => ({ n with hour := r.1 }, r.2)
  | .minute =>
    (numberReadings [[between '0' '5', isDigit], [isDigit]]
      cs).map fun r => ({ n with minute := r.1 }, r.2)
  | .second =>
    (numberReadings [[(· = '6'), between '0' '1'], [between '0' '5', isDigit], [isDigit]]
      cs).map fun r => ({ n with second := r.1 }, r.2)
  | .shortMonth => (nameReadings 3 cs).map fun r => ({ n with month := r.1 }, r.2)
  | .longMonth => (nameReadings 9 cs).map fun r => ({ n with month := r.1 }, r.2)
  | .blanks => (blankReadings cs).map fun rest => (n, rest)
  | .sign c =>
    match cs with
    | [] => []
    | d :: rest => if c = d then [(n, rest)] else []

/-- The first way in which the parts fit the head of a text. -/
def firstFit? : List Part → Numbers → List Char → Option (Numbers × List Char)
  | [], n, cs => some (n, cs)
  | p :: parts, n, cs => (p.readings n cs).findSome? fun r => firstFit? parts r.1 r.2

/-- The moment that a text spells by a pattern. -/
def read? (parts : List Part) (cs : List Char) : Option Moment := do
  let (n, rest) ← firstFit? parts ⟨1900, 1, 1, 0, 0, 0⟩ cs
  if !rest.isEmpty then none
  let date ← Date.of? n.year n.month n.day
  let clock ← Clock.of? n.hour n.minute n.second 0
  return ⟨date, clock, none⟩

/-- The patterns of dates in uploaded data, in the order in which they are tried. -/
def uploaded : List (List Part) :=
  [[.year, .sign '/', .month, .sign '/', .day],
    [.month, .sign '/', .day, .sign '/', .year],
    [.day, .sign '-', .month, .sign '-', .year],
    [.year, .sign '-', .month, .sign '-', .day, .blanks,
      .hour, .sign ':', .minute, .sign ':', .second],
    [.month, .sign '/', .day, .sign '/', .year, .blanks, .hour, .sign ':', .minute],
    [.shortMonth, .blanks, .day, .blanks, .year],
    [.shortMonth, .blanks, .day, .sign ',', .blanks, .year],
    [.day, .blanks, .shortMonth, .blanks, .year],
    [.longMonth, .blanks, .day, .sign ',', .blanks, .year]]

end MetricLayer.Pattern

namespace MetricLayer

open Text

/-- The moment that a text spells: an ISO form in which every `Z` stands for `+00:00`, or else the
first of the patterns that fits. -/
def Moment.ofText? (s : String) : Option Moment :=
  let cs := stripBlanks s.toList
  if cs.isEmpty then none
  else
    let zoned := cs.flatMap fun c => if c = 'Z' then "+00:00".toList else [c]
    match Moment.ofIso? (String.ofList zoned) with
    | some m => some m
    | none => Pattern.uploaded.findSome? fun parts => Pattern.read? parts cs

end MetricLayer
