import MetricLayer.Text.Quoted
import MetricLayer.Text.Search
import MetricLayer.Value

/-!
# Displayed values

`Value.plain` is a value inside running text: a text stands for itself.  `Value.shown` is a value
inside a container or a message: a text stands in quotes and the rarer kinds name themselves.
-/

namespace MetricLayer

open Number Text

/-- A truth value in words. -/
def boolWord (b : Bool) : String := if b then "True" else "False"

/-- A length of time by its parts that are not zero. -/
def Duration.shown (d : Duration) : String :=
  let part (name : String) (n : Int) : List String :=
    if n = 0 then [] else [name ++ "=" ++ integerText n]
  let parts := part "days" d.days ++ part "seconds" d.seconds
    ++ part "microseconds" d.microseconds
  "datetime.timedelta(" ++ (if parts.isEmpty then "0" else joined ", " parts) ++ ")"

/-- A date by its numbers. -/
def Date.shown (d : Date) : String :=
  "datetime.date(" ++ joined ", " ([d.year, d.month, d.day].map decimalText) ++ ")"

/-- An offset by its length. -/
def UtcOffset.shown (o : UtcOffset) : String :=
  if o.micros = 0 then "datetime.timezone.utc"
  else "datetime.timezone(" ++ Duration.shown ⟨o.micros⟩ ++ ")"

/-- A moment by its numbers; seconds and microseconds that are zero are left out at the end. -/
def Moment.shown (m : Moment) : String :=
  let c := m.clock
  let tail :=
    if c.micro ≠ 0 then [c.second, c.micro] else if c.second ≠ 0 then [c.second] else []
  let numbers := [m.date.year, m.date.month, m.date.day, c.hour, c.minute] ++ tail
  let zone := match m.offset with
    | some o => ", tzinfo=" ++ o.shown
    | none => ""
  "datetime.datetime(" ++ joined ", " (numbers.map decimalText) ++ zone ++ ")"

/-- One byte between the given quotes. -/
def displayByte (quote : Char) (b : UInt8) : String :=
  let c := Char.ofNat b.toNat
  if c = quote || c = '\\' then String.ofList ['\\', c]
  else if c = '\n' then "\\n"
  else if c = '\r' then "\\r"
  else if c = '\t' then "\\t"
  else if 0x20 ≤ b.toNat && b.toNat < 0x7F then c.toString
  else "\\x" ++ paddedHex 2 b.toNat

/-- Raw bytes in quotes after a `b`. -/
def shownBytes (bs : List UInt8) : String :=
  let q := displayQuote (String.ofList (bs.map fun b => Char.ofNat b.toNat))
  "b" ++ q.toString ++ String.join (bs.map (displayByte q)) ++ q.toString

namespace Value

mutual

/-- The value as it is displayed inside a container or a message. -/
def shown : Value → String
  | null => "None"
  | bool b => boolWord b
  | int i => integerText i
  | float x => floatText x
  | decimal d => "Decimal('" ++ d.text ++ "')"
  | text s => quoted s
  | date d => d.shown
  | moment m => m.shown
  | duration d => d.shown
  | bytes bs => shownBytes bs
  | list items => "[" ++ joined ", " (shownItems items) ++ "]"
  | tuple items =>
    let parts := shownItems items
    "(" ++ joined ", " parts ++ (if parts.length = 1 then ",)" else ")")
  | object fields => "\x7b" ++ joined ", " (shownFields fields) ++ "\x7d"

/-- The displayed items of a container. -/
def shownItems : List Value → List String
  | [] => []
  | v :: rest => v.shown :: shownItems rest

/-- The displayed fields of an object. -/
def shownFields : List (String × Value) → List String
  | [] => []
  | (name, v) :: rest => (quoted name ++ ": " ++ v.shown) :: shownFields rest

end

/-- The value as it stands in running text. -/
def plain : Value → String
  | text s => s
  | decimal d => d.text
  | date d => d.text
  | moment m => m.textWith " "
  | duration d => d.text
  | v => v.shown

end Value

end MetricLayer
