import MetricLayer.Proofs.Expr.Language
import MetricLayer.Proofs.Expr.Parentheses

/-!
# The text of a call

`callText name inside` is the text of a call, with `inside` between its parentheses.  For every word
`name` the tokens of the call are the word, the two parentheses and those of `inside`
(`tokens_callText`), its parentheses match if those of `inside` do inside one pair
(`isBalanced_callText`), and it is read as what its tokens derive (`parse_callText`).
-/

namespace MetricLayer

open MetricLayer.Parser MetricLayer.Text

/-- The text of a call with the text `inside` between its parentheses. -/
def callText (name inside : String) : String := name ++ "(" ++ inside ++ ")"

theorem toList_callText (name inside : String) :
    (callText name inside).toList = name.toList ++ '(' :: (inside.toList ++ [')']) := by
  simp [callText]

section Call

variable {name inside : String} {ts : List Token} {e : Expr}

/-- The tokens of a call, when those between its parentheses are given. -/
def callTokens (name inside : String) (ts : List Token) : List Token :=
  let start := name.toList.length + 1
  ⟨.name, name.toList, 0⟩ :: ⟨.leftParen, ['('], name.toList.length⟩
    :: (ts ++ [⟨.rightParen, [')'], start + inside.toList.length⟩])

theorem tokens_callText (hname : Lexer.Spelled .name name.toList)
    (h : Lexer.tokensFrom (name.toList.length + 1) inside.toList = .ok ts) :
    Lexer.tokens (callText name inside).toList = .ok (callTokens name inside ts) := by
  obtain ⟨c, cs, hchars, hc, hcs⟩ := hname
  have hparen : ∀ d ∈ ('(' :: (inside.toList ++ [')'])).head?, Lexer.isNameChar d = false := by
    rintro d ⟨⟩
    decide
  rw [hchars] at h
  rw [toList_callText, Lexer.tokens, callTokens, hchars, List.cons_append,
    Lexer.tokensFrom_name 0 hc hcs hparen, Lexer.tokensFrom_leftParen,
    Lexer.tokensFrom_append _ _ Lexer.isClosing_rightParen, Nat.zero_add, h,
    Lexer.tokensFrom_rightParen]
  rfl

/-- The text starts with a letter and ends in a parenthesis. -/
theorem callText_isStripped (hname : Lexer.Spelled .name name.toList) (inside : String) :
    IsStripped (callText name inside).toList ∧ isBlankText (callText name inside) = false := by
  obtain ⟨c, cs, hchars, hc, -⟩ := hname
  have hfirst : isBlank c = false := by
    rw [← Bool.not_eq_true]
    intro hblank
    have hletter := Lexer.toNat_of_isNameStart hc
    have := toNat_of_isBlank hblank
    omega
  have hhead : (callText name inside).toList.head? = some c := by
    rw [toList_callText, hchars]
    rfl
  have hlast : (callText name inside).toList.getLast? = some ')' := by
    rw [toList_callText, ← List.cons_append, ← List.append_assoc, List.getLast?_concat]
  refine ⟨⟨?_, ?_⟩, ?_⟩
  · rw [hhead]
    rintro d ⟨⟩
    exact hfirst
  · rw [hlast]
    rintro d ⟨⟩
    decide
  · rw [isBlankText, List.all_eq_false]
    exact ⟨c, List.mem_of_head? hhead, by rw [hfirst]; decide⟩

/-- The parentheses of the call match as those between them do inside one pair. -/
theorem isBalanced_callText (hname : Lexer.Spelled .name name.toList) (inside : String) :
    isBalanced (callText name inside).toList = isBalanced ('(' :: (inside.toList ++ [')'])) := by
  have hword := Lexer.isNameChar_of_spelled hname
  rw [toList_callText, isBalanced,
    isBalancedFrom_append fun c hc => notParen_of_isNameChar (hword c hc)]
  rfl

/-- The call is read as what its tokens derive once its parentheses match. -/
theorem parse_callText (hname : Lexer.Spelled .name name.toList)
    (hbalanced : isBalanced ('(' :: (inside.toList ++ [')'])) = true)
    (htokens : Lexer.tokensFrom (name.toList.length + 1) inside.toList = .ok ts)
    (h : Derives (callText name inside).toList (.primary e) (callTokens name inside ts)) :
    Expr.parse (callText name inside) = .ok e := by
  obtain ⟨hstripped, hblank⟩ := callText_isStripped hname inside
  have hall := tokens_callText hname htokens
  have hwhole := parseChars_complete hall (tokens_slice hall) (.sum (.product (.signed h)))
  refine Expr.parse_eq_ok.2 ⟨hblank, ?_, ?_⟩
  · rw [isBalanced_callText hname, hbalanced]
  · rw [hstripped.stripBlanks_eq, hwhole]

end Call

end MetricLayer
