import MetricLayer.Number.Digits

/-!
# Percent decoding

In the path of a request a byte may be written as a percent sign and two hexadecimal digits.  The
bytes are those of the UTF-8 form of the text; what is no UTF-8 is left as it was written.
-/

namespace MetricLayer.Text

/-- The value of a hexadecimal digit. -/
def hexValue? (c : Char) : Option Nat :=
  if c.isDigit then some (c.toNat - '0'.toNat)
  else if 'a' ≤ c && c ≤ 'f' then some (c.toNat - 'a'.toNat + 10)
  else if 'A' ≤ c && c ≤ 'F' then some (c.toNat - 'A'.toNat + 10)
  else none

/-- The bytes of a text with its percent signs decoded. -/
def percentBytes : List Char → List UInt8
  | '%' :: a :: b :: rest =>
    match hexValue? a, hexValue? b with
    | some high, some low => (16 * high + low).toUInt8 :: percentBytes rest
    | _, _ => '%'.toString.toUTF8.toList ++ percentBytes (a :: b :: rest)
  | c :: rest => c.toString.toUTF8.toList ++ percentBytes rest
  | [] => []

/-- The text behind its percent-encoded form. -/
def percentDecoded (s : String) : String :=
  (String.fromUTF8? ⟨(percentBytes s.toList).toArray⟩).getD s

end MetricLayer.Text
