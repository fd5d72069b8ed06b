import MetricLayer.Number.Digits
import MetricLayer.Text.Printable

/-!
# Displayed text in quotes

Text inside a message stands in quotes: single quotes, or double quotes when it holds a single
quote and no double quote.  The backslash, the quote itself, line breaks and tabs are escaped, and
every other unprintable character is written by its code point.
-/

namespace MetricLayer.Text

open MetricLayer.Number

/-- The written form of an unprintable character: two, four or eight hexadecimal digits. -/
def codePointEscape (c : Char) : String :=
  if c.toNat < 0x100 then "\\x" ++ paddedHex 2 c.toNat
  else if c.toNat < 0x10000 then "\\u" ++ paddedHex 4 c.toNat
  else "\\U" ++ paddedHex 8 c.toNat

/-- The written form of one character between the given quotes. -/
def displayChar (quote c : Char) : String :=
  if c = quote || c = '\\' then String.ofList ['\\', c]
  else if c = '\n' then "\\n"
  else if c = '\r' then "\\r"
  else if c = '\t' then "\\t"
  else if isPrintable c then c.toString
  else codePointEscape c

/-- The quote that surrounds a displayed text. -/
def displayQuote (s : String) : Char :=
  if s.toList.contains '\'' && !s.toList.contains '"' then '"' else '\''

/-- The text in quotes, with escapes. -/
def quoted (s : String) : String :=
  let q := displayQuote s
  q.toString ++ String.join (s.toList.map (displayChar q)) ++ q.toString

end MetricLayer.Text
