import MetricLayer.Number.Shortest

/-!
# The text of a double

A double is written with the fewest digits that read back.  Notation is positional for decimal
exponents from -4 to 15 and then keeps at least one digit after the point; otherwise it is
scientific with an exponent of at least two digits.
-/

namespace MetricLayer.Number

/-- The digits without the zeros at the end. -/
def dropTrailingZeros (ds : List Char) : List Char := (ds.reverse.dropWhile (· = '0')).reverse

/-- The text of the positive decimal with digits `ds`, the point standing `point` digits to the
right of the first one. -/
def layoutDigits (ds : List Char) (point : Int) : String :=
  let count := ds.length
  if point ≤ -4 || 16 < point then
    let exponent := point - 1
    let fraction := ds.drop 1
    let sign := if exponent < 0 then '-' else '+'
    String.ofList (ds.take 1 ++ (if fraction.isEmpty then [] else '.' :: fraction)
      ++ ['e', sign] ++ padZeros 2 (decimalChars exponent.natAbs))
  else if point ≤ 0 then
    String.ofList ('0' :: '.' :: List.replicate (-point).toNat '0' ++ ds)
  else if count ≤ point.toNat then
    String.ofList (ds ++ List.replicate (point.toNat - count) '0' ++ ['.', '0'])
  else String.ofList (ds.take point.toNat ++ '.' :: ds.drop point.toNat)

/-- The text of the double with the given bits. -/
def textOfBits (bits : Nat) : String :=
  let magnitude := bits % pow2 63
  let sign := if bits < pow2 63 then "" else "-"
  if 0x7FF0000000000000 < magnitude then "nan"
  else if magnitude = 0x7FF0000000000000 then sign ++ "inf"
  else if magnitude = 0 then sign ++ "0.0"
  else
    let form := (Binary.ofBits magnitude).shortest
    let ds := decimalChars form.significand
    sign ++ layoutDigits (dropTrailingZeros ds) (form.exponent + ds.length)

/-- The text of a double. -/
def floatText (x : Float) : String := textOfBits x.toBits.toNat

/-- The double nearest to `significand · 10 ^ exponent`. -/
def nearestFloat (significand : Nat) (exponent : Int) : Float :=
  let magnitude : Int := (digits 10 significand).length + exponent
  if significand = 0 || magnitude < -400 then 0.0
  else if 400 < magnitude then Float.ofScientific 1 false 400
  else Float.ofScientific significand (exponent < 0) exponent.natAbs

/-- Reads digits, an optional fraction and an optional exponent, all of it, as a decimal. -/
def readUnsigned? (cs : List Char) : Option DecimalForm :=
  let whole := cs.takeWhile Char.isDigit
  let (fraction, rest) := match cs.drop whole.length with
    | '.' :: rest => (rest.takeWhile Char.isDigit, rest.dropWhile Char.isDigit)
    | rest => ([], rest)
  let exponent? : Option Int := match rest with
    | [] => some 0
    | e :: rest =>
      if e = 'e' || e = 'E' then
        match rest with
        | '-' :: ds => (readDecimal? ds).map fun n => -(n : Int)
        | '+' :: ds => (readDecimal? ds).map fun n => (n : Int)
        | ds => (readDecimal? ds).map fun n => (n : Int)
      else none
  match readDecimal? (whole ++ fraction), exponent? with
  | some n, some e => some ⟨n, e - fraction.length⟩
  | _, _ => none

/-- Reads a double: a decimal with an optional sign, `inf` or `nan`. -/
def readFloat? (s : String) : Option Float :=
  let (negative, body) := match s.toList with
    | '-' :: cs => (true, cs)
    | '+' :: cs => (false, cs)
    | cs => (false, cs)
  let magnitude? : Option Float :=
    if body = "nan".toList then some (0.0 / 0.0)
    else if body = "inf".toList then some (1.0 / 0.0)
    else (readUnsigned? body).map fun d => nearestFloat d.significand d.exponent
  magnitude?.map fun x => if negative then -x else x

end MetricLayer.Number
