import MetricLayer.Number.Digits
import MetricLayer.Number.Powers

/-!
# The shortest decimal that reads back

A positive finite double is `mantissa · 2 ^ exponent`, and the reals nearest to it form an interval
around it that includes its ends exactly when the mantissa is even.  `shortest` looks for the
decimal with the fewest digits in that interval: for each number of digits it tests the two
neighbours of the value on the grid of that many digits, and of two hits it takes the nearer.
-/

namespace MetricLayer.Number

/-- A positive finite double. -/
structure Binary where
  /-- The integer significand. -/
  mantissa : Nat
  /-- The power of two it is scaled by. -/
  exponent : Int
  /-- The next smaller double is only half as far away as the next larger one. -/
  narrowBelow : Bool
  deriving DecidableEq, Repr

/-- The decimal `significand · 10 ^ exponent`. -/
structure DecimalForm where
  /-- The integer significand. -/
  significand : Nat
  /-- The power of ten it is scaled by. -/
  exponent : Int
  deriving DecidableEq, Repr

namespace Binary

/-- The positive double with these bits, sign aside; the exponent field is not all ones. -/
def ofBits (bits : Nat) : Binary :=
  let field : Nat := bits / pow2 52 % pow2 11
  let fraction := bits % pow2 52
  if field = 0 then ⟨fraction, -1074, false⟩
  else ⟨pow2 52 + fraction, Int.ofNat field - 1075, fraction = 0 && 1 < field⟩

/-- The power of two that a quarter of the last place carries, as numerator and denominator. -/
def quarter (b : Binary) : Nat × Nat :=
  (pow2 (b.exponent - 2).toNat, pow2 (2 - b.exponent).toNat)

/-- The number of quarters from zero to the lower end of the interval. -/
def lowerQuarters (b : Binary) : Nat := 4 * b.mantissa - (if b.narrowBelow then 1 else 2)

/-- The number of quarters from zero to the upper end of the interval. -/
def upperQuarters (b : Binary) : Nat := 4 * b.mantissa + 2

/-- The greatest power of ten that is not above the value. -/
def decimalExponent (b : Binary) : Int :=
  let num := 4 * b.mantissa * b.quarter.1
  let den := b.quarter.2
  if den ≤ num then ((digits 10 (num / den)).length : Int) - 1
  else - ((digits 10 ((den + num - 1) / num - 1)).length : Int)

/-- The decimal `d · 10 ^ k` lies in the interval of the reals nearest to the value. -/
def accepts (b : Binary) (d : Nat) (k : Int) : Bool :=
  let point := d * pow10 k.toNat * b.quarter.2
  let scale := b.quarter.1 * pow10 (-k).toNat
  let low := b.lowerQuarters * scale
  let high := b.upperQuarters * scale
  if b.mantissa % 2 = 0 then low ≤ point && point ≤ high else low < point && point < high

/-- The neighbour of the value on the grid of multiples of `10 ^ k` that reads back, if any. -/
def onGrid? (b : Binary) (k : Int) : Option Nat :=
  let value := 4 * b.mantissa * b.quarter.1 * pow10 (-k).toNat
  let unit := b.quarter.2 * pow10 k.toNat
  let below := value / unit
  let rest := value % unit
  match b.accepts below k, b.accepts (below + 1) k with
  | true, true =>
    if 2 * rest < unit then some below
    else if unit < 2 * rest then some (below + 1)
    else if below % 2 = 0 then some below
    else some (below + 1)
  | true, false => some below
  | false, true => some (below + 1)
  | false, false => none

/-- The value itself as a decimal, all its digits written out. -/
def exact (b : Binary) : DecimalForm :=
  if 0 ≤ b.exponent then ⟨b.mantissa * pow2 b.exponent.toNat, 0⟩
  else ⟨b.mantissa * pow5 (-b.exponent).toNat, b.exponent⟩

/-- The hit on the first of the grids with `count`, `count + 1`, … digits that has one, or the exact
decimal when the tries run out. -/
def search (b : Binary) (top : Int) : Nat → Nat → DecimalForm
  | 0, _ => b.exact
  | tries + 1, count =>
    let k := top - count + 1
    match b.onGrid? k with
    | some d => ⟨d, k⟩
    | none => search b top tries (count + 1)

/-- The decimal with the fewest digits that reads back as the value; seventeen always suffice. -/
def shortest (b : Binary) : DecimalForm := b.search b.decimalExponent 17 1

end Binary

end MetricLayer.Number
