import MetricLayer.Sql.Literal

/-!
# Texts in quotes

A text in quotes is written with the quotes inside it doubled.  Doubling is undone exactly
(`undouble_double`), and it adds and removes no other character (`filter_double`).
-/

namespace MetricLayer

namespace Text

theorem double_cons_self (q : Char) (cs : List Char) :
    double q (q :: cs) = q :: q :: double q cs := by
  simp [double, replaceChar]

theorem double_cons_of_ne {q c : Char} (h : c ≠ q) (cs : List Char) :
    double q (c :: cs) = c :: double q cs := by
  simp [double, replaceChar, h]

/-- Doubled quotes are reduced to the quotes that were there. -/
theorem undouble_double (q : Char) (cs : List Char) : undouble q (double q cs) = cs := by
  induction cs with
  | nil => rfl
  | cons c cs ih =>
    by_cases hc : c = q
    · subst hc
      rw [double_cons_self, undouble, if_pos ⟨rfl, rfl⟩, ih]
    · rw [double_cons_of_ne hc]
      -- the next character is looked at too, so the text is split before it is read
      cases hd : double q cs with
      | nil =>
        rw [hd] at ih
        rw [undouble, ← ih]
        rfl
      | cons d ds =>
        rw [undouble, if_neg fun h => hc h.1, ← hd, ih]

/-- Of the characters of a class that the quote is not in, doubling changes none. -/
theorem filter_double {p : Char → Bool} {q : Char} (hq : p q = false) (cs : List Char) :
    (double q cs).filter p = cs.filter p := by
  induction cs with
  | nil => rfl
  | cons c cs ih =>
    by_cases hc : c = q
    · subst hc
      rw [double_cons_self, List.filter_cons_of_neg (by simp [hq]),
        List.filter_cons_of_neg (by simp [hq]), List.filter_cons_of_neg (by simp [hq]), ih]
    · rw [double_cons_of_ne hc, List.filter_cons, List.filter_cons, ih]

end Text

open Text

theorem toList_enclosed (q : Char) (s : String) :
    (enclosed q s).toList = q :: (double q s.toList ++ [q]) := by
  simp [enclosed]

end MetricLayer
