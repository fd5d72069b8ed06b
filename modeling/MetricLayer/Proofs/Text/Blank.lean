import MetricLayer.Text.Blank
import MetricLayer.Text.Digit
import Mathlib.Data.List.DropRight
import Mathlib.Tactic

/-!
# Blanks, digits and stripped texts

A text is what is left of it after stripping, between two runs of blanks (`stripBlanks_split`).
Nothing is left to strip after that (`stripBlanks_idem`).  Blanks and the digits of any script are
told apart from ASCII characters and from each other by their code points.
-/

namespace MetricLayer.Text

/-- The text neither starts nor ends with a blank. -/
structure IsStripped (cs : List Char) : Prop where
  /-- The text does not start with a blank. -/
  head : ∀ c ∈ cs.head?, isBlank c = false
  /-- The text does not end with a blank. -/
  last : ∀ c ∈ cs.getLast?, isBlank c = false

theorem head?_dropWhile_blank (cs : List Char) :
    ∀ c ∈ (cs.dropWhile isBlank).head?, isBlank c = false := by
  intro c hc
  have := List.head?_dropWhile_not isBlank cs
  rw [hc] at this
  simpa using this

theorem stripEnd_prefix (cs : List Char) : stripEnd cs <+: cs := List.rdropWhile_prefix isBlank cs

theorem getLast?_stripEnd (cs : List Char) : ∀ c ∈ (stripEnd cs).getLast?, isBlank c = false := by
  intro c hc
  rw [stripEnd, List.getLast?_reverse] at hc
  exact head?_dropWhile_blank cs.reverse c hc

theorem isStripped_stripBlanks (cs : List Char) : IsStripped (stripBlanks cs) := by
  refine ⟨fun c hc => ?_, getLast?_stripEnd _⟩
  obtain ⟨after, hafter⟩ := stripEnd_prefix (cs.dropWhile isBlank)
  refine head?_dropWhile_blank cs c ?_
  rw [← hafter, List.head?_append]
  have hsome : (stripEnd (cs.dropWhile isBlank)).head? = some c := hc
  rw [hsome]
  rfl

/-- What is stripped off are blanks. -/
theorem stripBlanks_split (cs : List Char) :
    ∃ before after, cs = before ++ (stripBlanks cs ++ after) ∧ (∀ c ∈ before, isBlank c = true)
      ∧ ∀ c ∈ after, isBlank c = true := by
  refine ⟨cs.takeWhile isBlank, ((cs.dropWhile isBlank).reverse.takeWhile isBlank).reverse, ?_,
    fun c hc => List.mem_takeWhile_imp hc, fun c hc => ?_⟩
  · rw [stripBlanks, stripEnd, ← List.reverse_append, List.takeWhile_append_dropWhile,
      List.reverse_reverse, List.takeWhile_append_dropWhile]
  · rw [List.mem_reverse] at hc
    exact List.mem_takeWhile_imp hc

theorem stripEnd_eq_self {cs : List Char} (h : ∀ c ∈ cs.getLast?, isBlank c = false) :
    stripEnd cs = cs := by
  refine List.rdropWhile_eq_self_iff.2 fun hne => ?_
  rw [h _ (List.getLast?_eq_getLast_of_ne_nil hne)]
  decide

theorem IsStripped.stripBlanks_eq {cs : List Char} (h : IsStripped cs) : stripBlanks cs = cs := by
  have hdrop : cs.dropWhile isBlank = cs := by
    cases cs with
    | nil => rfl
    | cons c cs => rw [List.dropWhile_cons_of_neg (by rw [h.head c rfl]; decide)]
  rw [stripBlanks, hdrop, stripEnd_eq_self h.last]

theorem stripBlanks_idem (cs : List Char) : stripBlanks (stripBlanks cs) = stripBlanks cs :=
  (isStripped_stripBlanks cs).stripBlanks_eq

/-! ## Code points -/

/-- Blanks below U+0080 are control characters and the space. -/
theorem toNat_of_isBlank {c : Char} (h : isBlank c = true) : c.toNat ≤ 0x20 ∨ 0x80 ≤ c.toNat := by
  have hall : ∀ r ∈ blankRanges, r.2 ≤ 0x20 ∨ 0x80 ≤ r.1 := by decide
  obtain ⟨r, hr, hc⟩ := List.any_eq_true.1 h
  rw [Bool.and_eq_true, decide_eq_true_eq, decide_eq_true_eq] at hc
  rcases hall r hr with hr | hr
  · exact .inl (Nat.le_trans hc.2 hr)
  · exact .inr (Nat.le_trans hr hc.1)

/-- A digit is an ASCII digit or lies above ASCII. -/
theorem isDigit_cases {c : Char} (h : isDigit c = true) : c.isDigit = true ∨ 0x80 ≤ c.toNat := by
  rw [isDigit, Option.isSome_iff_exists] at h
  obtain ⟨n, hn⟩ := h
  obtain ⟨z, hz, -⟩ := Option.map_eq_some_iff.1 hn
  have hrange := List.find?_some hz
  have hmem : z = 0x30 ∨ 0x80 ≤ z := by
    have hall : ∀ z ∈ digitZeros, z = 0x30 ∨ 0x80 ≤ z := by decide
    exact hall z (List.mem_of_find?_eq_some hz)
  rw [Bool.and_eq_true, decide_eq_true_eq, decide_eq_true_eq] at hrange
  rcases hmem with rfl | hlarge
  · left
    rw [Char.isDigit, Bool.and_eq_true, decide_eq_true_eq, decide_eq_true_eq]
    exact ⟨UInt32.le_iff_toNat_le.2 hrange.1, UInt32.le_iff_toNat_le.2 hrange.2⟩
  · right
    omega

theorem isDigit_of_isBlank {c : Char} (h : isBlank c = true) : isDigit c = false := by
  have hall : ∀ r ∈ blankRanges, ∀ z ∈ digitZeros, r.2 < z ∨ z + 9 < r.1 := by decide
  obtain ⟨r, hr, hc⟩ := List.any_eq_true.1 h
  rw [Bool.and_eq_true, decide_eq_true_eq, decide_eq_true_eq] at hc
  rw [isDigit, digitValue?, Option.isSome_map, ← Bool.not_eq_true, List.find?_isSome]
  rintro ⟨z, hz, hcz⟩
  rw [Bool.and_eq_true, decide_eq_true_eq, decide_eq_true_eq] at hcz
  have := hall r hr z hz
  omega

end MetricLayer.Text
