import MetricLayer.Number.FloatText
import MetricLayer.Text.Blank
import MetricLayer.Text.Digit

/-!
# Decimal numbers

A decimal number keeps its coefficient and exponent, so `10.10` and `10.1` are different records of
one value.  Besides the finite numbers there are signed infinities and quiet and signalling NaNs.
-/

namespace MetricLayer

/-- A decimal number in the representation in which it was written. -/
inductive Decimal where
  /-- The number `coefficient · 10 ^ exponent`, with a sign. -/
  | finite (negative : Bool) (coefficient : Nat) (exponent : Int)
  /-- Positive or negative infinity. -/
  | infinite (negative : Bool)
  /-- No number, with an optional diagnostic number. -/
  | nan (negative signalling : Bool) (payload : Option Nat)
  deriving DecidableEq, Repr, Inhabited

namespace Decimal

open Number

/-- The number is neither infinite nor a NaN. -/
def isFinite : Decimal → Bool
  | finite .. => true
  | _ => false

/-- The text of a coefficient with an exponent: positional while the exponent is not positive and
at most six zeros follow the point, otherwise scientific. -/
def magnitudeText (coefficient : Nat) (exponent : Int) : String :=
  let ds := decimalChars coefficient
  let left := exponent + ds.length
  let point := if exponent ≤ 0 && -6 < left then left else 1
  let body :=
    if point ≤ 0 then '0' :: '.' :: List.replicate (-point).toNat '0' ++ ds
    else if ds.length ≤ point.toNat then ds ++ List.replicate (point.toNat - ds.length) '0'
    else ds.take point.toNat ++ '.' :: ds.drop point.toNat
  let power := left - point
  let suffixText :=
    if power = 0 then "" else if power < 0 then s!"E{integerText power}" else s!"E+{integerText power}"
  String.ofList body ++ suffixText

/-- The text of a decimal number. -/
def text : Decimal → String
  | finite negative coefficient exponent =>
    (if negative then "-" else "") ++ magnitudeText coefficient exponent
  | infinite negative => if negative then "-Infinity" else "Infinity"
  | nan negative signalling payload =>
    (if negative then "-" else "") ++ (if signalling then "sNaN" else "NaN")
      ++ (payload.map decimalText).getD ""

/-- The finite number is a whole number; its value. -/
def toInt? : Decimal → Option Int
  | finite negative coefficient exponent =>
    let magnitude? : Option Nat :=
      if 0 ≤ exponent then some (coefficient * pow10 exponent.toNat)
      else
        let unit := pow10 (-exponent).toNat
        if coefficient % unit = 0 then some (coefficient / unit) else none
    magnitude?.map fun (n : Nat) => if negative then -(n : Int) else (n : Int)
  | _ => none

/-- The nearest double; a signalling NaN has none. -/
def toFloat? : Decimal → Option Float
  | finite negative coefficient exponent =>
    let x := nearestFloat coefficient exponent
    some (if negative then -x else x)
  | infinite negative => some (if negative then -1.0 / 0.0 else 1.0 / 0.0)
  | nan _ true _ => none
  | nan _ false _ => some (0.0 / 0.0)

/-- The digits of every script written in ASCII. -/
def plainDigits (cs : List Char) : List Char :=
  cs.map fun c => match Text.digitValue? c with
    | some d => digitChar d
    | none => c

/-- Reads the special values after the sign. -/
def readSpecial? (negative : Bool) (lower : List Char) : Option Decimal :=
  let payload? (cs : List Char) : Option (Option Nat) :=
    if cs.isEmpty then some none else (readDecimal? cs).map some
  if lower = "inf".toList || lower = "infinity".toList then some (infinite negative)
  else if "nan".toList.isPrefixOf lower then
    (payload? (lower.drop 3)).map (nan negative false)
  else if "snan".toList.isPrefixOf lower then
    (payload? (lower.drop 4)).map (nan negative true)
  else none

/-- Reads a decimal number; blanks around it and underscores inside it are skipped. -/
def ofText? (s : String) : Option Decimal :=
  let cs := plainDigits ((Text.stripBlanks s.toList).filter (· ≠ '_'))
  let (negative, body) := match cs with
    | '-' :: rest => (true, rest)
    | '+' :: rest => (false, rest)
    | rest => (false, rest)
  match readUnsigned? body with
  | some d => some (finite negative d.significand d.exponent)
  | none => readSpecial? negative (body.map Char.toLower)

end Decimal

end MetricLayer
