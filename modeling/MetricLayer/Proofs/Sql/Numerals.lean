import MetricLayer.Number.Decimal
import MetricLayer.Proofs.Number.Digits
import MetricLayer.Proofs.Sql.Lexing
import Mathlib.Data.List.TakeWhile

/-!
# Number texts are numerals

The texts of whole numbers and finite decimals are numerals of ASCII characters, possibly after a
minus: `signedNumeral_integerText` and `signedNumeral_decimalText`.
-/

namespace MetricLayer.Sql

open Number

/-! ## Digits -/

theorem isDigits_decimalChars (n : Nat) : IsDigits (decimalChars n) := by
  refine ⟨by simp [decimalChars, digits_ne_nil], fun c hc => ?_⟩
  obtain ⟨d, hd, rfl⟩ := List.mem_map.1 hc
  exact isDigit_digitChar (digits_lt (by decide) d hd)

/-! ## Numerals with a minus -/

/-- A numeral, possibly after a minus. -/
def IsSignedNumeral (s : String) : Prop :=
  ∃ cs, IsNumeral cs ∧ (s.toList = cs ∨ s.toList = '-' :: cs)

theorem IsMantissa.isNumeral {m : List Char} (h : IsMantissa m) : IsNumeral m :=
  ⟨m, [], h, .absent, by simp⟩

/-- The characters of numerals that may have a minus in front. -/
def numeralChars : List Char := "0123456789.eE+-".toList

theorem mem_numeralChars_of_isDigit {c : Char} (h : c.isDigit = true) : c ∈ numeralChars :=
  List.mem_append_left ".eE+-".toList (mem_digits_of_isDigit h)

theorem IsMantissa.chars {m : List Char} (h : IsMantissa m) : ∀ c ∈ m, c ∈ numeralChars := by
  intro c hc
  cases h with
  | whole h => exact mem_numeralChars_of_isDigit (h.2 c hc)
  | point ws fs h =>
    rcases List.mem_append.1 hc with hc | hc
    · exact mem_numeralChars_of_isDigit (h.2 c (List.mem_append_left _ hc))
    · rcases List.mem_cons.1 hc with rfl | hc
      · decide
      · exact mem_numeralChars_of_isDigit (h.2 c (List.mem_append_right _ hc))

theorem IsExponent.chars {x : List Char} (h : IsExponent x) : ∀ c ∈ x, c ∈ numeralChars := by
  intro c hc
  cases h with
  | absent => cases hc
  | power he hsign hds =>
    rcases List.mem_cons.1 hc with rfl | hc
    · rcases he with rfl | rfl <;> decide
    · rcases List.mem_append.1 hc with hc | hc
      · rcases hsign with rfl | rfl | rfl
        · cases hc
        · rw [List.mem_singleton.1 hc]
          decide
        · rw [List.mem_singleton.1 hc]
          decide
      · exact mem_numeralChars_of_isDigit (hds.2 c hc)

theorem IsNumeral.chars {cs : List Char} (h : IsNumeral cs) : ∀ c ∈ cs, c ∈ numeralChars := by
  obtain ⟨m, x, hm, hx, rfl⟩ := h
  exact fun c hc => (List.mem_append.1 hc).elim (hm.chars c) (hx.chars c)

theorem IsSignedNumeral.chars {s : String} (h : IsSignedNumeral s) :
    ∀ c ∈ s.toList, c ∈ numeralChars := by
  obtain ⟨cs, hcs, hs | hs⟩ := h
  · rw [hs]
    exact hcs.chars
  · intro c hc
    rw [hs] at hc
    rcases List.mem_cons.1 hc with rfl | hc
    · decide
    · exact hcs.chars c hc

theorem IsNumeral.signed {s : String} (h : IsNumeral s.toList) (sign : Bool) :
    IsSignedNumeral ((if sign then "-" else "") ++ s) := by
  refine ⟨s.toList, h, ?_⟩
  cases sign with
  | true => exact .inr (by simp)
  | false => exact .inl (by simp)

theorem signedNumeral_integerText (i : Int) : IsSignedNumeral (integerText i) := by
  have h : IsNumeral (decimalText i.natAbs).toList := by
    rw [decimalText, String.toList_ofList]
    exact (IsMantissa.whole (isDigits_decimalChars _)).isNumeral
  unfold integerText
  split
  · simpa using h.signed true
  · simpa using h.signed false

/-! ## Layouts -/

theorem isDigits_append {cs ds : List Char} (hc : ∀ c ∈ cs, c.isDigit = true) (hd : IsDigits ds) :
    IsDigits (cs ++ ds) :=
  ⟨by simp [hd.1], fun c h => (List.mem_append.1 h).elim (hc c) (hd.2 c)⟩

theorem isDigits_append_zeros {ds : List Char} (hd : IsDigits ds) (k : Nat) :
    IsDigits (ds ++ List.replicate k '0') := by
  refine ⟨by simp [hd.1], fun c h => (List.mem_append.1 h).elim (hd.2 c) fun hc => ?_⟩
  rw [List.eq_of_mem_replicate hc]
  decide

theorem isDigits_zeros_append {ds : List Char} (hd : IsDigits ds) (k : Nat) :
    IsDigits (List.replicate k '0' ++ ds) :=
  isDigits_append (fun c hc => by rw [List.eq_of_mem_replicate hc]; decide) hd

/-- Digits with the point before, behind or among them, filled with zeros up to the point. -/
theorem isMantissa_before {ds : List Char} (hd : IsDigits ds) (k : Nat) :
    IsMantissa ('0' :: '.' :: List.replicate k '0' ++ ds) := by
  have h : IsDigits (['0'] ++ (List.replicate k '0' ++ ds)) :=
    isDigits_append (by simp) (isDigits_zeros_append hd k)
  exact IsMantissa.point ['0'] _ h

theorem isMantissa_among {ds : List Char} (hd : IsDigits ds) (k : Nat) :
    IsMantissa (ds.take k ++ '.' :: ds.drop k) :=
  .point _ _ (by rwa [List.take_append_drop])

/-- The digits of a coefficient with the point at any place. -/
theorem isMantissa_pointed {ds : List Char} (hd : IsDigits ds) (point : Int) :
    IsMantissa (if point ≤ 0 then '0' :: '.' :: List.replicate (-point).toNat '0' ++ ds
      else if ds.length ≤ point.toNat then ds ++ List.replicate (point.toNat - ds.length) '0'
      else ds.take point.toNat ++ '.' :: ds.drop point.toNat) := by
  split
  · exact isMantissa_before hd _
  · split
    · exact .whole (isDigits_append_zeros hd _)
    · exact isMantissa_among hd _

/-- A power of ten with its sign, left out when it is zero. -/
theorem isExponent_power (power : Int) :
    IsExponent (if power = 0 then "" else if power < 0 then s!"E{integerText power}"
      else s!"E+{integerText power}").toList := by
  have hds := isDigits_decimalChars power.natAbs
  split
  · exact .absent
  · split
    · next hneg =>
      have htext : (s!"E{integerText power}").toList = 'E' :: (['-'] ++ decimalChars power.natAbs) := by
        simp [integerText, if_pos hneg, decimalText, toString]
      rw [htext]
      exact .power (.inr rfl) (.inr (.inr rfl)) hds
    · next hneg =>
      have htext : (s!"E+{integerText power}").toList
          = 'E' :: (['+'] ++ decimalChars power.natAbs) := by
        simp [integerText, if_neg hneg, decimalText, toString]
      rw [htext]
      exact .power (.inr rfl) (.inr (.inl rfl)) hds

/-- The text of a coefficient with an exponent is a numeral. -/
theorem isNumeral_magnitudeText (coefficient : Nat) (exponent : Int) :
    IsNumeral (Decimal.magnitudeText coefficient exponent).toList := by
  simp only [Decimal.magnitudeText, String.toList_append, String.toList_ofList]
  exact ⟨_, _, isMantissa_pointed (isDigits_decimalChars coefficient) _, isExponent_power _, rfl⟩

theorem signedNumeral_decimalText {d : Decimal} (h : d.isFinite = true) :
    IsSignedNumeral d.text := by
  cases d with
  | finite negative coefficient exponent => exact (isNumeral_magnitudeText _ _).signed negative
  | infinite | nan => cases h

end MetricLayer.Sql
