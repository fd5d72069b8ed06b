import MetricLayer.Expr.Parser
import MetricLayer.Proofs.Text.Blank

/-!
# Matching parentheses

Only the parentheses of a text matter for their matching (`isBalancedFrom_filter`).  So parts without
any can be left out, such as the blanks around a text (`isBalanced_stripBlanks`), and so can a part
that closes what it opens (`isBalancedFrom_balanced`).
-/

namespace MetricLayer

open MetricLayer.Parser MetricLayer.Text

/-- The character is a parenthesis. -/
def isParen (c : Char) : Bool := c = '(' || c = ')'

variable {cs rest rest' : List Char} {c : Char}

theorem notParen_of_isBlank (h : isBlank c = true) : c ≠ '(' ∧ c ≠ ')' := by
  constructor <;> rintro rfl <;> exact absurd h (by decide)

theorem notParen_of_isNameChar (h : Lexer.isNameChar c = true) : c ≠ '(' ∧ c ≠ ')' := by
  constructor <;> rintro rfl <;> exact absurd h (by decide)

theorem filter_isParen (h : ∀ c ∈ cs, c ≠ '(' ∧ c ≠ ')') : cs.filter isParen = [] :=
  List.filter_eq_nil_iff.2 fun c hc => by simp [isParen, h c hc]

/-- Only the parentheses of a text matter for their matching. -/
theorem isBalancedFrom_filter (depth : Nat) (cs : List Char) :
    isBalancedFrom depth (cs.filter isParen) = isBalancedFrom depth cs := by
  induction cs generalizing depth with
  | nil => rfl
  | cons c cs ih =>
    by_cases hopen : c = '('
    · subst hopen
      exact ih (depth + 1)
    · by_cases hclose : c = ')'
      · subst hclose
        cases depth with
        | zero => rfl
        | succ depth => exact ih depth
      · have hskip : isBalancedFrom depth (c :: cs) = isBalancedFrom depth cs := by
          rw [isBalancedFrom.eq_def]
          dsimp only
          rw [if_neg hopen, if_neg hclose]
        rw [List.filter_cons_of_neg (by simp [isParen, hopen, hclose]), hskip, ih]

theorem isBalanced_filter (cs : List Char) : isBalanced (cs.filter isParen) = isBalanced cs :=
  isBalancedFrom_filter 0 cs

/-- Without parentheses nothing is opened or closed. -/
theorem isBalancedFrom_append (h : ∀ c ∈ cs, c ≠ '(' ∧ c ≠ ')') (depth : Nat)
    (rest : List Char) : isBalancedFrom depth (cs ++ rest) = isBalancedFrom depth rest := by
  rw [← isBalancedFrom_filter, List.filter_append, filter_isParen h, List.nil_append,
    isBalancedFrom_filter]

/-- A text is balanced before one rest if it is before another that does the same. -/
theorem isBalancedFrom_congr
    (h : ∀ depth, isBalancedFrom depth rest = isBalancedFrom depth rest') (depth : Nat)
    (cs : List Char) : isBalancedFrom depth (cs ++ rest) = isBalancedFrom depth (cs ++ rest') := by
  induction cs generalizing depth with
  | nil => exact h depth
  | cons c cs ih =>
    rw [List.cons_append, List.cons_append, isBalancedFrom.eq_def, isBalancedFrom.eq_def depth]
    dsimp only
    split_ifs
    · exact ih (depth + 1)
    · cases depth with
      | zero => rfl
      | succ depth => exact ih depth
    · exact ih depth

/-- After a text that closes what it opens, the parentheses open before it are open again. -/
theorem isBalancedFrom_balanced {inner : Nat} (h : isBalancedFrom inner cs = true)
    (depth : Nat) (rest : List Char) :
    isBalancedFrom (depth + inner) (cs ++ rest) = isBalancedFrom depth rest := by
  induction cs generalizing inner with
  | nil =>
    have hinner : inner = 0 := by simpa [isBalancedFrom] using h
    rw [hinner]
    rfl
  | cons c cs ih =>
    rw [isBalancedFrom.eq_def] at h
    rw [List.cons_append, isBalancedFrom.eq_def]
    dsimp only at h ⊢
    split_ifs at h ⊢
    · exact ih h
    · cases inner with
      | zero => cases h
      | succ inner => exact ih h
    · exact ih h

/-- Blanks around a text do not matter for its parentheses. -/
theorem isBalanced_stripBlanks (cs : List Char) : isBalanced (stripBlanks cs) = isBalanced cs := by
  obtain ⟨before, after, hsplit, hbefore, hafter⟩ := stripBlanks_split cs
  have hbefore := filter_isParen fun c hc => notParen_of_isBlank (hbefore c hc)
  have hafter := filter_isParen fun c hc => notParen_of_isBlank (hafter c hc)
  conv_rhs => rw [hsplit, ← isBalanced_filter, List.filter_append, List.filter_append, hbefore,
    hafter, List.nil_append, List.append_nil, isBalanced_filter]

theorem isBalanced_of_blank {text : String} (h : isBlankText text = true) :
    isBalanced text.toList = true := by
  have hnone := filter_isParen fun c hc => notParen_of_isBlank (List.all_eq_true.1 h c hc)
  rw [← isBalanced_filter, hnone]
  rfl

end MetricLayer
