/-!
# Digits of natural numbers

Decimal and hexadecimal digit texts, and decimal text padded with zeros to a width.

Numbers of any size are written: the limit on the digits that a number is read from
(`Text.digitLimit`) has no counterpart in `integerText`.
-/

namespace MetricLayer.Number

/-- The digit of a value below sixteen, in lower case. -/
def digitChar (d : Nat) : Char :=
  if d < 10 then Char.ofNat (48 + d) else Char.ofNat (87 + d)

/-- The digits of `n` in a base, most significant first, with `fuel` digits at most. -/
def digitsAux (base : Nat) : Nat → Nat → List Nat → List Nat
  | 0, _, tail => tail
  | fuel + 1, n, tail =>
    if n < base then n :: tail else digitsAux base fuel (n / base) (n % base :: tail)

/-- The digits of `n` in a base of at least two, most significant first; zero has one digit. -/
def digits (base n : Nat) : List Nat := digitsAux base (n.log2 + 1) n []

/-- The decimal digits of `n` as characters. -/
def decimalChars (n : Nat) : List Char := (digits 10 n).map digitChar

/-- The decimal text of `n`. -/
def decimalText (n : Nat) : String := String.ofList (decimalChars n)

/-- The decimal text of an integer, with a minus sign below zero. -/
def integerText (i : Int) : String :=
  if i < 0 then "-" ++ decimalText i.natAbs else decimalText i.natAbs

/-- The text of `cs` filled with zeros on the left to at least `width` characters. -/
def padZeros (width : Nat) (cs : List Char) : List Char :=
  List.replicate (width - cs.length) '0' ++ cs

/-- The decimal text of `n` with at least `width` digits. -/
def paddedDecimal (width n : Nat) : String := String.ofList (padZeros width (decimalChars n))

/-- The lower case hexadecimal text of `n` with at least `width` digits. -/
def paddedHex (width n : Nat) : String :=
  String.ofList (padZeros width ((digits 16 n).map digitChar))

/-- The number that a run of ASCII digits spells; `none` when a character is no ASCII digit or
the run is empty. -/
def readDecimal? : List Char → Option Nat
  | [] => none
  | cs =>
    cs.foldl (fun n c => n.bind fun n => if c.isDigit then some (10 * n + (c.toNat - 48)) else none)
      (some 0)

end MetricLayer.Number
