/-!
# Powers of two, five and ten

The scales of doubles and of decimals, as natural numbers.
-/

namespace MetricLayer.Number

/-- Two to the power `k`. -/
def pow2 (k : Nat) : Nat := Nat.pow 2 k

/-- Five to the power `k`. -/
def pow5 (k : Nat) : Nat := Nat.pow 5 k

/-- Ten to the power `k`. -/
def pow10 (k : Nat) : Nat := Nat.pow 10 k

end MetricLayer.Number
