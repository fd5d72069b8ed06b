import MetricLayer.Value.Display

/-!
# Canonical JSON

One compact ASCII text for each value: fields in the order of their names, no blanks, characters
outside printable ASCII escaped by their UTF-16 code units.  Kinds that JSON lacks are written as
the text that displays them.
-/

namespace MetricLayer

open Number Text

/-- The UTF-16 code units of a character. -/
def utf16Units (c : Char) : List Nat :=
  let n := c.toNat
  if n < 0x10000 then [n]
  else [0xD800 + (n - 0x10000) / 0x400, 0xDC00 + (n - 0x10000) % 0x400]

/-- The escape of a code unit. -/
def unitEscape (n : Nat) : List Char := '\\' :: 'u' :: padZeros 4 ((digits 16 n).map digitChar)

/-- One character of a JSON text. -/
def jsonChar (c : Char) : List Char :=
  if c = '"' || c = '\\' then ['\\', c]
  else if c = '\n' then ['\\', 'n']
  else if c = '\r' then ['\\', 'r']
  else if c = '\t' then ['\\', 't']
  else if c = '\x08' then ['\\', 'b']
  else if c = '\x0c' then ['\\', 'f']
  else if 0x20 ≤ c.toNat && c.toNat < 0x7F then [c]
  else (utf16Units c).flatMap unitEscape

/-- A text as a JSON string. -/
def jsonString (s : String) : String := String.ofList ('"' :: s.toList.flatMap jsonChar ++ ['"'])

/-- A double as a JSON number, or the name of a special value. -/
def jsonFloat (x : Float) : String :=
  let t := floatText x
  if t = "nan" then "NaN" else if t = "inf" then "Infinity" else if t = "-inf" then "-Infinity"
  else t

/-- Named texts in the order of their names. -/
def sortByName {α : Type} (fields : List (String × α)) : List (String × α) :=
  fields.mergeSort fun a b => decide (a.1 ≤ b.1)

namespace Value

mutual

/-- The canonical JSON text of a value. -/
def canonical : Value → String
  | null => "null"
  | bool b => if b then "true" else "false"
  | int i => integerText i
  | float x => jsonFloat x
  | text s => jsonString s
  | list items => "[" ++ joined "," (canonicalItems items) ++ "]"
  | tuple items => "[" ++ joined "," (canonicalItems items) ++ "]"
  | object fields =>
    let parts := (sortByName (canonicalFields fields)).map fun f => jsonString f.1 ++ ":" ++ f.2
    "\x7b" ++ joined "," parts ++ "\x7d"
  | decimal d => jsonString d.text
  | date d => jsonString d.text
  | moment m => jsonString (m.textWith " ")
  | duration d => jsonString d.text
  | bytes bs => jsonString (shownBytes bs)

/-- The canonical texts of the items of a list. -/
def canonicalItems : List Value → List String
  | [] => []
  | v :: rest => v.canonical :: canonicalItems rest

/-- The names of the fields with the canonical texts of their values. -/
def canonicalFields : List (String × Value) → List (String × String)
  | [] => []
  | (name, v) :: rest => (name, v.canonical) :: canonicalFields rest

end

end Value

end MetricLayer
