import MetricLayer.Number.FloatText

/-!
# Rounding doubles

A double is rounded to decimal places as the exact number it is: to the nearest multiple of a power
of ten, and to the even one when it lies in the middle.  `floorInt` is its whole part, rounded down,
and `fitsDouble` says which whole numbers round to a finite double.
-/

namespace MetricLayer.Number

/-- The whole number nearest to `num / den`, halves going to the even neighbour. -/
def roundedQuotient (num den : Nat) : Nat :=
  let below := num / den
  let twice := 2 * (num % den)
  if twice < den then below
  else if den < twice then below + 1
  else if below % 2 = 0 then below
  else below + 1

/-- The greatest whole number not above a double whose magnitude is less than 2 ^ 63. -/
def floorInt (x : Float) : Int :=
  let below := x.floor
  if below < 0.0 then -(Int.ofNat (-below).toUInt64.toNat) else below.toUInt64.toNat

/-- A whole number of this magnitude rounds to a finite double. -/
def fitsDouble (n : Nat) : Bool := n < pow2 1024 - pow2 970

/-- A double that is not negative, rounded to decimal places. -/
def roundPlaces (places : Nat) (x : Float) : Float :=
  let bits := x.toBits.toNat
  if bits = 0 then x
  else
    let b := Binary.ofBits bits
    let num := b.mantissa * pow2 b.exponent.toNat * pow10 places
    nearestFloat (roundedQuotient num (pow2 (-b.exponent).toNat)) (-places)

end MetricLayer.Number
