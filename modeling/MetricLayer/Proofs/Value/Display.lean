import MetricLayer.Proofs.Value.Canonical
import MetricLayer.Value.Display

/-!
# Displayed values hold no NUL

A text inside a container is displayed in quotes with every unprintable character escaped.  So of the
JSON values only a text on its own can put a NUL into running text (`plain_noNul`).
-/

namespace MetricLayer

open Number Sql Text

/-- The text holds no NUL. -/
def NoNul (s : String) : Prop := '\x00' ∉ s.toList

instance (s : String) : Decidable (NoNul s) := inferInstanceAs (Decidable ('\x00' ∉ s.toList))

namespace NoNul

theorem append {s t : String} (hs : NoNul s) (ht : NoNul t) : NoNul (s ++ t) := by
  rw [NoNul, String.toList_append, List.mem_append]
  exact not_or.2 ⟨hs, ht⟩

theorem of_chars {s : String} {cs : List Char} (h : ∀ c ∈ s.toList, c ∈ cs) (hcs : '\x00' ∉ cs) :
    NoNul s := fun hmem => hcs (h _ hmem)

theorem joined {separator : String} (hseparator : NoNul separator) {texts : List String}
    (h : ∀ s ∈ texts, NoNul s) : NoNul (joined separator texts) := by
  induction texts with
  | nil => exact List.not_mem_nil
  | cons s rest ih =>
    have hfirst := h s List.mem_cons_self
    cases rest with
    | nil => exact hfirst
    | cons t rest =>
      rw [joined_cons]
      exact (hfirst.append hseparator).append (ih fun u hu => h u (List.mem_cons_of_mem s hu))

end NoNul

/-! ## Texts in quotes -/

theorem codePointEscape_noNul (c : Char) : NoNul (codePointEscape c) := by
  have hhex : ∀ width, NoNul (paddedHex width c.toNat) := by
    intro width
    rw [NoNul, paddedHex, String.toList_ofList]
    exact fun hmem => absurd (padZeros_hexChars width _ _ hmem) (by decide)
  unfold codePointEscape
  split_ifs
  · exact .append (by decide) (hhex 2)
  · exact .append (by decide) (hhex 4)
  · exact .append (by decide) (hhex 8)

theorem displayChar_noNul {quote : Char} (hquote : quote ≠ '\x00') (c : Char) :
    NoNul (displayChar quote c) := by
  unfold displayChar
  split_ifs with hescaped _ _ _ hprintable
  · rw [NoNul, String.toList_ofList]
    rcases Bool.or_eq_true_iff.1 hescaped with hc | hc
    · rw [of_decide_eq_true hc]
      simp [hquote.symm]
    · rw [of_decide_eq_true hc]
      decide
  · decide
  · decide
  · decide
  · rw [NoNul, Char.toString_eq_singleton, String.toList_singleton, List.mem_singleton]
    rintro rfl
    exact absurd hprintable (by decide)
  · exact codePointEscape_noNul c

theorem quoted_noNul (s : String) : NoNul (quoted s) := by
  have hquote : displayQuote s ≠ '\x00' ∧ NoNul (displayQuote s).toString := by
    unfold displayQuote
    split_ifs <;> decide
  refine .append (.append hquote.2 ?_) hquote.2
  rw [NoNul, String.toList_join, List.mem_flatMap]
  rintro ⟨part, hpart, hnul⟩
  obtain ⟨c, -, rfl⟩ := List.mem_map.1 hpart
  exact displayChar_noNul hquote.1 c hnul

/-! ## JSON values -/

theorem integerText_noNul (i : Int) : NoNul (integerText i) :=
  .of_chars (integerText_numberChars i) (by decide)

theorem floatText_noNul (x : Float) : NoNul (floatText x) := by
  rcases Nat.lt_trichotomy (magnitude x) 0x7FF0000000000000 with hx | hx | hx
  · exact .of_chars (signedNumeral_of_magnitude hx).chars (by decide)
  · rw [floatText_infinite hx]
    rcases signText_cases x with hsign | hsign <;> rw [hsign] <;> decide
  · rw [floatText_nan hx]
    decide

namespace Value

theorem shownItems_eq (items : List Value) : shownItems items = items.map shown := by
  induction items with
  | nil => rfl
  | cons v rest ih => rw [shownItems, ih, List.map_cons]

theorem shownFields_eq (fields : Fields) :
    shownFields fields = fields.map fun f => quoted f.1 ++ ": " ++ f.2.shown := by
  induction fields with
  | nil => rfl
  | cons f rest ih => rw [shownFields, ih, List.map_cons]

theorem IsJson.shown_noNul {v : Value} (h : IsJson v) : NoNul v.shown := by
  induction h with
  | scalar h =>
    cases h with
    | null => decide
    | bool b => cases b <;> decide
    | int i => exact integerText_noNul i
    | float x => exact floatText_noNul x
  | text s => exact quoted_noNul s
  | list h ih =>
    rw [shown, shownItems_eq]
    refine .append (.append (by decide) (.joined (by decide) fun s hs => ?_)) (by decide)
    obtain ⟨v, hv, rfl⟩ := List.mem_map.1 hs
    exact ih v hv
  | object h ih =>
    rw [shown, shownFields_eq]
    refine .append (.append (by decide) (.joined (by decide) fun s hs => ?_)) (by decide)
    obtain ⟨f, hf, rfl⟩ := List.mem_map.1 hs
    exact .append (.append (quoted_noNul _) (by decide)) (ih f hf)

/-- In running text only a text stands for itself. -/
theorem IsJson.plain_noNul {v : Value} (h : IsJson v) (hv : ∀ s, v ≠ .text s) : NoNul v.plain := by
  cases h with
  | scalar h => cases h <;> exact (IsJson.scalar (by constructor)).shown_noNul
  | text s => exact absurd rfl (hv s)
  | list h => exact (IsJson.list h).shown_noNul
  | object h => exact (IsJson.object h).shown_noNul

end Value

end MetricLayer
