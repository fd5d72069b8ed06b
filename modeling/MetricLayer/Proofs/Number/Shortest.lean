import MetricLayer.Number.Shortest
import Mathlib.Tactic

/-!
# Rounding to doubles

The decimals that are accepted for a double are the numbers in an interval around it
(`Binary.accepts_iff`), and the shortest decimal is one of them (`Binary.roundsTo_shortest`).  The
intervals of consecutive doubles touch (`Binary.upper_ofBits`), and of two neighbours only one owns
the end they share, so no number rounds to two doubles (`Binary.ofBits_eq_of_roundsTo`).
-/

namespace MetricLayer.Number

/-! ## Powers -/

theorem pow2_pos (k : Nat) : 0 < pow2 k := Nat.pow_pos (by decide)

theorem pow10_pos (k : Nat) : 0 < pow10 k := Nat.pow_pos (by decide)

theorem cast_pow2 (k : Nat) : ((pow2 k : ℕ) : ℚ) = 2 ^ k := Nat.cast_pow 2 k

theorem cast_pow5 (k : Nat) : ((pow5 k : ℕ) : ℚ) = 5 ^ k := Nat.cast_pow 5 k

theorem cast_pow10 (k : Nat) : ((pow10 k : ℕ) : ℚ) = 10 ^ k := Nat.cast_pow 10 k

/-- A power with an integer exponent as a fraction of powers with natural ones. -/
theorem zpow_eq_div (a : ℚ) (e : Int) : a ^ e = a ^ e.toNat / a ^ (-e).toNat := by
  rcases Int.le_total 0 e with he | he
  · have hneg : (-e).toNat = 0 := by omega
    rw [hneg, pow_zero, div_one, ← zpow_natCast, Int.toNat_of_nonneg he]
  · have hpos : e.toNat = 0 := by omega
    rw [hpos, pow_zero, one_div, ← zpow_natCast, ← zpow_neg, Int.toNat_of_nonneg (by omega),
      neg_neg]

/-- The number that a decimal is. -/
def DecimalForm.value (d : DecimalForm) : ℚ := d.significand * 10 ^ d.exponent

theorem DecimalForm.value_mk (significand : Nat) (exponent : Int) :
    (DecimalForm.mk significand exponent).value = significand * 10 ^ exponent :=
  rfl

namespace Binary

/-! ## The interval of a double -/

variable {b : Binary}

/-- A quarter of the last place. -/
def unit (b : Binary) : ℚ := 2 ^ (b.exponent - 2)

/-- The lower end of the interval. -/
def lower (b : Binary) : ℚ := b.lowerQuarters * b.unit

/-- The upper end of the interval. -/
def upper (b : Binary) : ℚ := b.upperQuarters * b.unit

/-- The number lies in the interval: among all doubles it is nearest to this one. -/
def RoundsTo (b : Binary) (q : ℚ) : Prop :=
  if b.mantissa % 2 = 0 then b.lower ≤ q ∧ q ≤ b.upper else b.lower < q ∧ q < b.upper

theorem unit_pos (b : Binary) : 0 < b.unit := zpow_pos (by norm_num) _

theorem unit_eq_div (b : Binary) : b.unit = (b.quarter.1 : ℚ) / b.quarter.2 := by
  have hneg : -(b.exponent - 2) = 2 - b.exponent := by omega
  rw [unit, zpow_eq_div, hneg, quarter, cast_pow2, cast_pow2]

theorem decimal_eq_div (d : Nat) (k : Int) :
    (DecimalForm.mk d k).value = (d * pow10 k.toNat : ℕ) / (pow10 (-k).toNat : ℕ) := by
  rw [DecimalForm.value, zpow_eq_div, ← mul_div_assoc, Nat.cast_mul, cast_pow10, cast_pow10]

theorem quarters_le_iff (b : Binary) (n d : Nat) (k : Int) :
    n * b.unit ≤ (DecimalForm.mk d k).value ↔
      n * (b.quarter.1 * pow10 (-k).toNat) ≤ d * pow10 k.toNat * b.quarter.2 := by
  have hden : (0 : ℚ) < b.quarter.2 := Nat.cast_pos.2 (pow2_pos _)
  have hten : (0 : ℚ) < pow10 (-k).toNat := Nat.cast_pos.2 (pow10_pos _)
  rw [unit_eq_div, decimal_eq_div, ← mul_div_assoc, div_le_div_iff₀ hden hten, mul_assoc]
  exact_mod_cast Iff.rfl

theorem le_quarters_iff (b : Binary) (n d : Nat) (k : Int) :
    (DecimalForm.mk d k).value ≤ n * b.unit ↔
      d * pow10 k.toNat * b.quarter.2 ≤ n * (b.quarter.1 * pow10 (-k).toNat) := by
  have hden : (0 : ℚ) < b.quarter.2 := Nat.cast_pos.2 (pow2_pos _)
  have hten : (0 : ℚ) < pow10 (-k).toNat := Nat.cast_pos.2 (pow10_pos _)
  rw [unit_eq_div, decimal_eq_div, ← mul_div_assoc, div_le_div_iff₀ hten hden, mul_assoc (n : ℚ)]
  exact_mod_cast Iff.rfl

/-- The decimals accepted for a double are those that round to it. -/
theorem accepts_iff (b : Binary) (d : Nat) (k : Int) :
    b.accepts d k = true ↔ b.RoundsTo (DecimalForm.mk d k).value := by
  unfold accepts RoundsTo
  split
  · rw [Bool.and_eq_true, decide_eq_true_eq, decide_eq_true_eq]
    exact and_congr (quarters_le_iff b _ d k).symm (le_quarters_iff b _ d k).symm
  · rw [Bool.and_eq_true, decide_eq_true_eq, decide_eq_true_eq, lower, upper,
      ← not_le, ← not_le, ← not_le, ← not_le]
    exact and_congr (not_congr (le_quarters_iff b _ d k).symm)
      (not_congr (quarters_le_iff b _ d k).symm)

theorem roundsTo_of_lt {q : ℚ} (hlow : b.lower < q) (hhigh : q < b.upper) : b.RoundsTo q := by
  unfold RoundsTo
  split
  · exact ⟨hlow.le, hhigh.le⟩
  · exact ⟨hlow, hhigh⟩

theorem RoundsTo.lower_le {q : ℚ} (h : b.RoundsTo q) : b.lower ≤ q := by
  unfold RoundsTo at h
  split at h
  · exact h.1
  · exact h.1.le

theorem RoundsTo.le_upper {q : ℚ} (h : b.RoundsTo q) : q ≤ b.upper := by
  unfold RoundsTo at h
  split at h
  · exact h.2
  · exact h.2.le

theorem lower_pos (hb : b.mantissa ≠ 0) : 0 < b.lower := by
  have hquarters : 0 < b.lowerQuarters := by
    unfold lowerQuarters
    split <;> omega
  exact mul_pos (Nat.cast_pos.2 hquarters) b.unit_pos

theorem lower_lt_upper (b : Binary) : b.lower < b.upper := by
  have hquarters : b.lowerQuarters < b.upperQuarters := by
    unfold lowerQuarters upperQuarters
    omega
  exact mul_lt_mul_of_pos_right (Nat.cast_lt.2 hquarters) b.unit_pos

/-! ## The shortest decimal rounds to its double -/

theorem value_exact (b : Binary) : b.exact.value = (4 * b.mantissa : ℕ) * b.unit := by
  have hunit : (4 * b.mantissa : ℕ) * b.unit = b.mantissa * 2 ^ b.exponent := by
    rw [unit, zpow_sub₀ (by norm_num)]
    push_cast
    ring
  rw [hunit, exact]
  split
  · next hexp =>
    rw [DecimalForm.value, Nat.cast_mul, cast_pow2, zpow_zero, mul_one, ← zpow_natCast,
      Int.toNat_of_nonneg hexp]
  · next hexp =>
    have hscale : (5 : ℚ) ^ (-b.exponent).toNat * 10 ^ b.exponent = 2 ^ b.exponent := by
      rw [← zpow_natCast, Int.toNat_of_nonneg (by omega), zpow_neg, inv_mul_eq_div, ← div_zpow]
      norm_num
    rw [DecimalForm.value, Nat.cast_mul, cast_pow5, mul_assoc, hscale]

theorem roundsTo_exact (hb : b.mantissa ≠ 0) : b.RoundsTo b.exact.value := by
  have hlow : b.lowerQuarters < 4 * b.mantissa := by
    unfold lowerQuarters
    split <;> omega
  have hhigh : 4 * b.mantissa < b.upperQuarters := by
    unfold upperQuarters
    omega
  rw [value_exact]
  exact roundsTo_of_lt (mul_lt_mul_of_pos_right (Nat.cast_lt.2 hlow) b.unit_pos)
    (mul_lt_mul_of_pos_right (Nat.cast_lt.2 hhigh) b.unit_pos)

/-- What is taken on a grid reads back. -/
theorem accepts_onGrid? {k : Int} {d : Nat} (h : b.onGrid? k = some d) : b.accepts d k = true := by
  unfold onGrid? at h
  simp only at h
  split at h
  · next hbelow habove =>
    split_ifs at h <;> cases h
    · exact hbelow
    · exact habove
    · exact hbelow
    · exact habove
  · next hbelow habove =>
    cases h
    exact hbelow
  · next hbelow habove =>
    cases h
    exact habove
  · cases h

theorem roundsTo_search (hb : b.mantissa ≠ 0) (top : Int) (tries count : Nat) :
    b.RoundsTo (b.search top tries count).value := by
  induction tries generalizing count with
  | zero => exact roundsTo_exact hb
  | succ tries ih =>
    rw [search]
    split
    · next d hd => exact (accepts_iff b d _).1 (accepts_onGrid? hd)
    · exact ih (count + 1)

theorem roundsTo_shortest (hb : b.mantissa ≠ 0) : b.RoundsTo b.shortest.value :=
  roundsTo_search hb _ _ _

/-- The shortest decimal of a positive double is positive. -/
theorem shortest_significand_ne_zero (hb : b.mantissa ≠ 0) : b.shortest.significand ≠ 0 := by
  intro hzero
  have hpos := lt_of_lt_of_le (lower_pos hb) (roundsTo_shortest hb).lower_le
  rw [DecimalForm.value, hzero, Nat.cast_zero, zero_mul] at hpos
  exact lt_irrefl _ hpos

/-! ## Different doubles are apart -/

theorem pow2_52 : pow2 52 = 4503599627370496 := by decide

theorem pow2_11 : pow2 11 = 2048 := by decide

theorem pow2_63 : pow2 63 = 9223372036854775808 := by decide

theorem ofBits_mantissa_ne_zero {bits : Nat} (h : bits ≠ 0) (hlt : bits < pow2 63) :
    (ofBits bits).mantissa ≠ 0 := by
  simp only [ofBits, pow2_52, pow2_11]
  rw [pow2_63] at hlt
  split
  · show bits % 4503599627370496 ≠ 0
    omega
  · show 4503599627370496 + bits % 4503599627370496 ≠ 0
    omega

theorem ofBits_mantissa_mod_two (bits : Nat) : (ofBits bits).mantissa % 2 = bits % 2 := by
  simp only [ofBits, pow2_52, pow2_11]
  split
  · show bits % 4503599627370496 % 2 = bits % 2
    omega
  · show (4503599627370496 + bits % 4503599627370496) % 2 = bits % 2
    omega

/-- The double with a given exponent field and fraction. -/
theorem ofBits_fields {field fraction : Nat} (hfield : field < 2048)
    (hfraction : fraction < 4503599627370496) :
    ofBits (4503599627370496 * field + fraction) =
      if field = 0 then ⟨fraction, -1074, false⟩
      else ⟨4503599627370496 + fraction, Int.ofNat field - 1075, fraction = 0 && 1 < field⟩ := by
  have hquot : (4503599627370496 * field + fraction) / 4503599627370496 % 2048 = field := by omega
  have hrest : (4503599627370496 * field + fraction) % 4503599627370496 = fraction := by omega
  simp only [ofBits, pow2_52, pow2_11, hquot, hrest]

/-- The interval of a double ends where that of the next one begins. -/
theorem upper_ofBits {bits : Nat} (hlt : bits + 1 < 0x7FF0000000000000) :
    (ofBits bits).upper = (ofBits (bits + 1)).lower := by
  obtain ⟨field, fraction, rfl, hfraction⟩ :
      ∃ field fraction, bits = 4503599627370496 * field + fraction ∧ fraction < 4503599627370496 :=
    ⟨bits / 4503599627370496, bits % 4503599627370496, by omega, by omega⟩
  have hfield : field < 2047 := by omega
  rw [ofBits_fields (by omega) hfraction]
  by_cases hcarry : fraction + 1 < 4503599627370496
  · -- the next double has the same exponent field and is not a power of two
    rw [add_assoc, ofBits_fields (by omega) hcarry]
    by_cases hzero : field = 0
    · rw [if_pos hzero, if_pos hzero]
      have hquarters : 4 * fraction + 2 = 4 * (fraction + 1) - 2 := by omega
      exact congrArg (fun n : ℕ => (n : ℚ) * 2 ^ (-1074 - 2 : ℤ)) hquarters
    · rw [if_neg hzero, if_neg hzero]
      have hwide : (decide (fraction + 1 = 0) && decide (1 < field)) = false := by simp
      rw [hwide]
      have hquarters : 4 * (4503599627370496 + fraction) + 2
          = 4 * (4503599627370496 + (fraction + 1)) - 2 := by omega
      exact congrArg (fun n : ℕ => (n : ℚ) * 2 ^ (Int.ofNat field - 1075 - 2)) hquarters
  · -- the next double is a power of two
    have hnext : 4503599627370496 * field + fraction + 1 = 4503599627370496 * (field + 1) + 0 := by
      omega
    rw [hnext, ofBits_fields (by omega) (by omega), if_neg (Nat.succ_ne_zero field)]
    obtain rfl : fraction = 4503599627370495 := by omega
    by_cases hzero : field = 0
    · subst hzero
      rfl
    · have hnarrow : (decide ((0 : Nat) = 0) && decide (1 < field + 1)) = true := by
        simpa using Nat.pos_of_ne_zero hzero
      rw [if_neg hzero, hnarrow]
      show ((4 * (4503599627370496 + 4503599627370495) + 2 : ℕ) : ℚ)
          * 2 ^ (Int.ofNat field - 1075 - 2)
        = ((4 * (4503599627370496 + 0) - 1 : ℕ) : ℚ) * 2 ^ (Int.ofNat (field + 1) - 1075 - 2)
      have hexp : Int.ofNat (field + 1) - 1075 - 2 = (Int.ofNat field - 1075 - 2) + 1 := by
        simp only [Int.ofNat_eq_natCast]
        omega
      rw [hexp, zpow_add_one₀ (by norm_num)]
      push_cast
      ring

/-- The intervals of greater doubles lie higher. -/
theorem upper_le_lower {m n : Nat} (hmn : m < n) (hn : n < 0x7FF0000000000000) :
    (ofBits m).upper ≤ (ofBits n).lower := by
  induction n, hmn using Nat.le_induction with
  | base => exact (upper_ofBits hn).le
  | succ n hmn ih =>
    calc (ofBits m).upper ≤ (ofBits n).lower := ih (by omega)
      _ ≤ (ofBits n).upper := (lower_lt_upper _).le
      _ = (ofBits (n + 1)).lower := upper_ofBits hn

/-- No number rounds to two doubles. -/
theorem not_roundsTo_of_lt {m n : Nat} {q : ℚ} (hmn : m < n) (hn : n < 0x7FF0000000000000)
    (hq : (ofBits m).RoundsTo q) : ¬ (ofBits n).RoundsTo q := by
  intro hq'
  have hends := upper_le_lower hmn hn
  have hmid : q = (ofBits m).upper :=
    le_antisymm hq.le_upper (hends.trans hq'.lower_le)
  have hmid' : q = (ofBits n).lower :=
    le_antisymm (hq.le_upper.trans hends) hq'.lower_le
  -- ends belong to even mantissas only, so the doubles are not neighbours
  have heven : m % 2 = 0 := by
    by_contra hodd
    rw [RoundsTo, ofBits_mantissa_mod_two, if_neg hodd] at hq
    exact absurd hmid hq.2.ne
  have heven' : n % 2 = 0 := by
    by_contra hodd
    rw [RoundsTo, ofBits_mantissa_mod_two, if_neg hodd] at hq'
    exact absurd hmid' hq'.1.ne'
  have hstrict : (ofBits m).upper < (ofBits n).lower := by
    calc (ofBits m).upper = (ofBits (m + 1)).lower := upper_ofBits (by omega)
      _ < (ofBits (m + 1)).upper := lower_lt_upper _
      _ ≤ (ofBits n).lower := upper_le_lower (by omega) hn
  rw [← hmid, ← hmid'] at hstrict
  exact lt_irrefl _ hstrict

theorem ofBits_eq_of_roundsTo {m n : Nat} {q : ℚ} (hm : m < 0x7FF0000000000000)
    (hn : n < 0x7FF0000000000000) (hq : (ofBits m).RoundsTo q) (hq' : (ofBits n).RoundsTo q) :
    m = n := by
  rcases Nat.lt_trichotomy m n with hlt | heq | hgt
  · exact absurd hq' (not_roundsTo_of_lt hlt hn hq)
  · exact heq
  · exact absurd hq (not_roundsTo_of_lt hgt hm hq')

end Binary

end MetricLayer.Number
