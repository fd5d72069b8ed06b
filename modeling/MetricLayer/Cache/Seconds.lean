import MetricLayer.Value

/-!
# Seconds

Points and lengths of time on a clock.  Whole seconds are exact; together with a fraction they are
counted in doubles.
-/

namespace MetricLayer

/-- A number of seconds. -/
inductive Seconds where
  /-- A whole number of seconds. -/
  | whole (n : Int)
  /-- A number of seconds as a double. -/
  | fractional (x : Float)

namespace Seconds

/-- The seconds as a double. -/
def toFloat : Seconds → Float
  | whole n => Float.ofInt n
  | fractional x => x

/-- The sum, exact for whole seconds. -/
def add : Seconds → Seconds → Seconds
  | whole m, whole n => whole (m + n)
  | a, b => fractional (a.toFloat + b.toFloat)

/-- The order of the numbers. -/
def le : Seconds → Seconds → Bool
  | whole m, whole n => m ≤ n
  | a, b => a.toFloat ≤ b.toFloat

instance : Add Seconds := ⟨add⟩

instance : LE Seconds := ⟨fun a b => le a b = true⟩

instance : DecidableLE Seconds := fun a b => inferInstanceAs (Decidable (le a b = true))

/-- The seconds as a value. -/
def toValue : Seconds → Value
  | whole n => .int n
  | fractional x => .float x

/-- The seconds that a number stands for. -/
def ofValue? : Value → Option Seconds
  | .int n => some (whole n)
  | .float x => some (fractional x)
  | _ => none

end Seconds

end MetricLayer
