import MetricLayer.Proofs.Number.FloatText

/-!
# Decimal numbers read back

The text of a decimal number keeps its coefficient and its exponent, so `10.10` and `10.1`, `1E+2`
and `100` are different texts, and each is read as the record that it was written for
(`Decimal.readUnsigned?_magnitudeText`).
-/

namespace MetricLayer.Number

open Sql

theorem digitsValue_decimalChars (n : Nat) : digitsValue 10 (decimalChars n) = n :=
  digitsValue_digits (by decide) (by decide) n

/-- The power of ten after a decimal number, left out when it is zero. -/
def powerChars (power : Int) : List Char :=
  if power = 0 then [] else ['E', if power < 0 then '-' else '+'] ++ decimalChars power.natAbs

theorem toList_power (power : Int) :
    (if power = 0 then "" else if power < 0 then s!"E{integerText power}"
      else s!"E+{integerText power}").toList = powerChars power := by
  unfold powerChars
  split_ifs with hzero hneg
  · rfl
  · simp [integerText, hneg, decimalText, toString]
  · simp [integerText, hneg, decimalText, toString]

/-- A positional text keeps the exponent of the number: it is not positive, and the point stands
among the digits or in front of them. -/
theorem readUnsigned?_positional {ds : List Char} (hd : IsDigits ds) {exponent : Int}
    (hexponent : exponent ≤ 0) :
    readUnsigned? (if exponent + ds.length ≤ 0
        then '0' :: '.' :: List.replicate (-(exponent + ds.length)).toNat '0' ++ ds
        else if ds.length ≤ (exponent + ds.length).toNat
          then ds ++ List.replicate ((exponent + ds.length).toNat - ds.length) '0'
        else ds.take (exponent + ds.length).toNat ++ '.' :: ds.drop (exponent + ds.length).toNat)
      = some ⟨digitsValue 10 ds, exponent⟩ := by
  split_ifs with hbefore hwhole
  · -- zeros between the point and the digits
    have hread := readUnsigned?_point ['0'] _
      (isDigits_append (by simp) (isDigits_zeros_append hd (-(exponent + ds.length)).toNat))
    have hvalue :
        digitsValue 10 (['0'] ++ (List.replicate (-(exponent + ds.length)).toNat '0' ++ ds))
          = digitsValue 10 ds :=
      (digitsValue_zeros_append 1 _).trans (digitsValue_zeros_append _ ds)
    rw [hvalue, List.length_append, List.length_replicate] at hread
    refine (congrArg readUnsigned? (by simp)).trans (hread.trans ?_)
    congr 2
    omega
  · -- the exponent is zero, and so is the number of zeros to add
    obtain rfl : exponent = 0 := by omega
    rw [show (0 + (ds.length : Int)).toNat - ds.length = 0 by omega, List.replicate_zero,
      List.append_nil]
    exact readUnsigned?_whole hd
  · have hread := readUnsigned?_point (ds.take (exponent + ds.length).toNat)
      (ds.drop (exponent + ds.length).toNat) (by rwa [List.take_append_drop])
    rw [List.take_append_drop, List.length_drop] at hread
    refine hread.trans ?_
    congr 2
    omega

/-- A scientific text has one digit before the point. -/
theorem readUnsigned?_scientific {ds : List Char} (hd : IsDigits ds) {exponent : Int}
    (hpower : exponent + ds.length - 1 ≠ 0) :
    readUnsigned? ((if ds.length ≤ 1 then ds ++ List.replicate (1 - ds.length) '0'
        else ds.take 1 ++ '.' :: ds.drop 1) ++ powerChars (exponent + ds.length - 1))
      = some ⟨digitsValue 10 ds, exponent⟩ := by
  obtain ⟨d, fs, rfl⟩ := List.exists_cons_of_ne_nil hd.1
  have hbody : (if (d :: fs).length ≤ 1 then d :: fs ++ List.replicate (1 - (d :: fs).length) '0'
      else (d :: fs).take 1 ++ '.' :: (d :: fs).drop 1)
      = [d] ++ if fs.isEmpty then [] else '.' :: fs := by
    cases fs <;> simp
  have hread := readUnsigned?_power (.inr rfl) hd
    (isDigits_decimalChars (exponent + (d :: fs).length - 1).natAbs)
    (decide (exponent + (d :: fs).length - 1 < 0))
  rw [digitsValue_decimalChars] at hread
  rw [hbody, powerChars, if_neg hpower]
  simp only [decide_eq_true_eq] at hread
  refine hread.trans ?_
  rw [List.length_cons] at hpower ⊢
  congr 2
  split_ifs <;> omega

end MetricLayer.Number

namespace MetricLayer.Decimal

open Number Sql

/-- The text of a coefficient with an exponent reads back as the two. -/
theorem readUnsigned?_magnitudeText (coefficient : Nat) (exponent : Int) :
    readUnsigned? (magnitudeText coefficient exponent).toList = some ⟨coefficient, exponent⟩ := by
  have hd := isDigits_decimalChars coefficient
  have hvalue := digitsValue_decimalChars coefficient
  simp only [magnitudeText, String.toList_append, String.toList_ofList, toList_power]
  generalize decimalChars coefficient = ds at hd hvalue
  subst hvalue
  have hpos : 0 < ds.length := List.length_pos_iff.2 hd.1
  by_cases hplain : exponent ≤ 0 ∧ -6 < exponent + ds.length
  · have hif : (decide (exponent ≤ 0) && decide (-6 < exponent + ds.length)) = true := by
      simpa using hplain
    rw [if_pos hif, sub_self, powerChars, if_pos rfl, List.append_nil]
    exact readUnsigned?_positional hd hplain.1
  · have hif : ¬(decide (exponent ≤ 0) && decide (-6 < exponent + ds.length)) = true := by
      simpa using hplain
    rw [if_neg hif]
    exact readUnsigned?_scientific hd (by omega)

end MetricLayer.Decimal
