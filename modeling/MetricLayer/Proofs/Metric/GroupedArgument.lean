import MetricLayer.Proofs.Metric.AggregateCall
import MetricLayer.Proofs.Metric.StoredForm

/-!
# Aggregates over expressions in parentheses

A pair of parentheses around the argument of an aggregate makes an expression of it.  What is read of
a text on its own is derived wherever the text stands in another one (`derives_excerpt`), so the
aggregate is one over the expression that the text spells (`parse_grouped`).

A DISTINCT before the parentheses does not get that far.  It leads an expression only if a name comes
next; before a parenthesis it is the name of a function, and there is no function of that name
(`call_distinct`).  So DISTINCT goes with no expression in parentheses (`groupedArgument_parses`), not
even with a field (`distinctGroup_refused`).
-/

namespace MetricLayer

open MetricLayer.Parser MetricLayer.Text

/-! ## Expressions inside a text -/

/-- What is read of a text on its own is derived wherever the text stands. -/
theorem derives_excerpt {text : String} {e : Expr} (h : Expr.parse text = .ok e)
    (outer rest : List Char) :
    ∃ ts, Lexer.tokensFrom outer.length text.toList = .ok ts
      ∧ Derives (outer ++ (text.toList ++ rest)) (.sum e) ts := by
  obtain ⟨ts, htokens, hsum⟩ := Expr.parse_sound h
  obtain ⟨before, after, hsplit, hbefore, hafter⟩ := stripBlanks_split text.toList
  generalize stripBlanks text.toList = inner at htokens hsum hsplit
  have hlength : (outer ++ before).length = outer.length + before.length := List.length_append
  have hmoved := Lexer.tokensFrom_moved (outer ++ before).length (Nat.le_refl 0) htokens
  rw [Nat.sub_self, Nat.zero_add] at hmoved
  refine ⟨ts.map (Lexer.moved 0 (outer ++ before).length), ?_, ?_⟩
  · rw [hsplit, Lexer.tokensFrom_trimmed _ hbefore hafter, ← hlength, hmoved]
  · have hsame : SameBetween inner (outer ++ before ++ (inner ++ (after ++ rest))) 0
        (outer ++ before).length inner.length := by
      have hpart : SameBetween ([] ++ (inner ++ [])) (outer ++ before ++ (inner ++ (after ++ rest)))
          0 (outer ++ before).length (0 + inner.length) := sameBetween_part rfl rfl
      rwa [List.append_nil, List.nil_append, Nat.zero_add] at hpart
    have hbetween : Between 0 inner.length ts := by
      intro t ht
      have hplace := Lexer.tokensFrom_slice (rfl : ([] : List Char).length = 0) htokens t ht
      rw [List.length_nil, Nat.zero_add] at hplace
      exact ⟨hplace.1, hplace.2.1⟩
    have hsource : outer ++ (text.toList ++ rest)
        = outer ++ before ++ (inner ++ (after ++ rest)) := by
      rw [hsplit]
      simp
    rw [hsource]
    exact derives_moved hsum hsame hbetween

/-! ## Faults of a call -/

section Calls

variable {source : List Char} {name opening t : Token} {ts : List Token} {fault : ExprFault}

/-- A call that cannot be read at the start of a sum keeps the sum from being read. -/
theorem expression_call_fault (hname : name.kind = .name) (hopening : opening.kind = .leftParen)
    (h : call source name opening.pos ts = .error fault) :
    expression source (name :: opening :: ts) = .error fault := by
  have hkind : name.kind ≠ .operator := by
    rw [hname]
    decide
  have hsigned : signed source (name :: opening :: ts) = .error fault := by
    rw [signed_primary hkind, primary]
    simp only [hname, hopening, if_true]
    rw [h]
    rfl
  rw [expression, product, hsigned]
  rfl

theorem call_unsupported (openPos : Nat) (ts : List Token) (h : isCallable name.upper = false) :
    call source name openPos ts = .error (.unsupportedFunction name.text) := by
  have hfunc : Aggregate.ofName? name.upper = none := by
    rw [isCallable, Bool.or_eq_false_iff, Bool.or_eq_false_iff] at h
    simpa using h.1.1
  have hcount : name.upper ≠ "COUNT" := by
    intro hcount
    rw [hcount] at hfunc
    cases hfunc
  rw [call, if_neg hcount]
  simp only [hfunc, h, Bool.false_eq_true, if_false]

/-- A DISTINCT before a parenthesis leads no field. -/
theorem plainField?_distinct (ht : t.isDistinct = true) (hopening : opening.kind = .leftParen)
    (ts : List Token) : plainField? source (t :: opening :: ts) = none := by
  have hlead : letsLead (opening :: ts) = true := by simp [letsLead, hopening]
  have hdelim : (!opening.isDelimiter) = false := by simp [Token.isDelimiter, hopening]
  have hargument : plainArgument? source true (opening :: ts) = none := by
    unfold plainArgument?
    split
    · rfl
    · next close rest hdrop =>
      rw [List.dropWhile_cons_of_neg (by rw [hdelim]; decide)] at hdrop
      obtain ⟨rfl, -⟩ := List.cons.inj hdrop
      simp [hopening]
  rw [plainField?_cons, ht, hlead, Bool.and_self, if_pos rfl, hargument]
  rfl

/-- A DISTINCT before a parenthesis is taken for the name of a function. -/
theorem call_distinct {func : Aggregate} (openPos : Nat)
    (hfunc : Aggregate.ofName? name.upper = some func) (ht : t.isDistinct = true)
    (hopening : opening.kind = .leftParen) (ts : List Token) :
    call source name openPos (t :: opening :: ts) = .error (.unsupportedFunction t.text) := by
  obtain ⟨hkind, hupper⟩ : t.kind = .name ∧ t.upper = "DISTINCT" := by
    simpa [Token.isDistinct] using ht
  have hstar : (if name.upper = "COUNT" then starArgument? source (t :: opening :: ts) else none)
      = none := by
    split
    · rw [starArgument?_eq_none]
      simp [Token.isOperator, hkind]
    · rfl
  have hcallable : isCallable t.upper = false := by
    rw [hupper]
    simp only [isCallable, TimeFunction.ofUpper?, toUpper_eq]
    decide
  have hdrop : dropDistinct (t :: opening :: ts) = ⟨false, t :: opening :: ts, Nat.le_refl _⟩ := by
    simp [dropDistinct, hopening]
  have hright : t.kind ≠ .rightParen := by
    rw [hkind]
    decide
  have harguments : arguments source (dropDistinct (t :: opening :: ts)).rest
      = .error (.unsupportedFunction t.text) := by
    rw [hdrop, arguments, if_neg hright,
      expression_call_fault hkind hopening (call_unsupported _ _ hcallable)]
    rfl
  rw [call, hstar]
  simp only [hfunc, plainField?_distinct ht hopening]
  exact bind_eq_error.2 (.inl harguments)

end Calls

/-! ## The two forms -/

section Grouped

variable {name text : String} {func : Aggregate} {e : Expr}

/-- The tokens of a text in parentheses. -/
def groupTokens (pos : Nat) (text : String) (ts : List Token) : List Token :=
  ⟨.leftParen, ['('], pos⟩ :: (ts ++ [⟨.rightParen, [')'], pos + 1 + text.toList.length⟩])

theorem tokensFrom_group (pos : Nat) {ts : List Token}
    (h : Lexer.tokensFrom (pos + 1) text.toList = .ok ts) :
    Lexer.tokensFrom pos ('(' :: (text.toList ++ [')'])) = .ok (groupTokens pos text ts) := by
  rw [Lexer.tokensFrom_leftParen, Lexer.tokensFrom_append _ _ Lexer.isClosing_rightParen, h,
    Lexer.tokensFrom_rightParen]
  rfl

/-- Parentheses around a text whose own match do so too, whatever stands before them. -/
theorem isBalanced_group (h : isBalanced text.toList = true) {cs : List Char}
    (hcs : ∀ c ∈ cs, c ≠ '(' ∧ c ≠ ')') :
    isBalanced ('(' :: (cs ++ '(' :: (text.toList ++ [')']) ++ [')'])) = true := by
  have hlist : cs ++ '(' :: (text.toList ++ [')']) ++ [')']
      = cs ++ '(' :: (text.toList ++ [')', ')']) := by simp
  have hinside : isBalancedFrom 2 (text.toList ++ [')', ')']) = true :=
    isBalancedFrom_balanced h 2 [')', ')']
  rw [hlist]
  show isBalancedFrom 1 _ = true
  rw [isBalancedFrom_append hcs]
  exact hinside

theorem dropDistinct_eq_self {t : Token} (ht : t.isDistinct = false) (ts : List Token) :
    (dropDistinct (t :: ts)).value = false ∧ (dropDistinct (t :: ts)).rest = t :: ts := by
  cases ts with
  | nil => exact ⟨rfl, rfl⟩
  | cons u ts => simp [dropDistinct, ht]

/-- An aggregate over an expression in parentheses is read as one over the expression. -/
theorem parse_grouped (hname : name.toUpper = func.name) (h : Expr.parse text = .ok e) :
    Expr.parse (callText name ("(" ++ text ++ ")")) = .ok (.aggregate func e false) := by
  have hinside : ("(" ++ text ++ ")").toList = '(' :: (text.toList ++ [')']) := by simp
  obtain ⟨ts, htokens, hsum⟩ := derives_excerpt h (name.toList ++ ['(', '(']) [')', ')']
  have hsource : name.toList ++ ['(', '('] ++ (text.toList ++ [')', ')'])
      = (callText name ("(" ++ text ++ ")")).toList := by
    rw [toList_callText, hinside]
    simp
  have hlength : (name.toList ++ ['(', '(']).length = name.toList.length + 1 + 1 := by simp
  rw [hlength] at htokens
  rw [hsource] at hsum
  have hgroup := tokensFrom_group _ htokens
  have hbalanced := isBalanced_group (Expr.parse_eq_ok.1 h).2.1 (List.forall_mem_nil _)
  rw [List.nil_append] at hbalanced
  rw [← hinside] at hgroup hbalanced
  obtain ⟨hvalue, hrest⟩ : (dropDistinct (groupTokens (name.toList.length + 1) text ts)).value = false
      ∧ (dropDistinct (groupTokens (name.toList.length + 1) text ts)).rest
        = groupTokens (name.toList.length + 1) text ts := dropDistinct_eq_self rfl _
  have hargument : Derives (callText name ("(" ++ text ++ ")")).toList (.sum e)
      (dropDistinct (groupTokens (name.toList.length + 1) text ts)).rest := by
    rw [hrest]
    exact .sum (.product (.signed (.group rfl hsum rfl)))
  refine parse_callText (aggregateName_spelled hname) hbalanced hgroup ?_
  rw [← hvalue]
  refine .aggregate rfl (aggregateName_upper hname 0) rfl ?_ ?_ hargument rfl
  · simp [startsWithStar, groupTokens, Token.isOperator]
  · simp [plainPart?, groupTokens, Token.isDelimiter]

theorem isDistinct_word (pos : Nat) :
    (⟨.name, "DISTINCT".toList, pos⟩ : Token).isDistinct = true := by
  cbv

/-- With a DISTINCT before the parentheses the aggregate is refused, since there is no function of
that name. -/
theorem parse_distinctGroup (hname : name.toUpper = func.name) (h : Expr.parse text = .ok e) :
    Expr.parse (callText name ("DISTINCT (" ++ text ++ ")"))
      = .error (.unsupportedFunction "DISTINCT") := by
  have hinside : ("DISTINCT (" ++ text ++ ")").toList
      = "DISTINCT ".toList ++ '(' :: (text.toList ++ [')']) := by simp
  obtain ⟨ts, htext, -⟩ := derives_excerpt h (name.toList ++ '(' :: "DISTINCT (".toList) []
  have hlength : (name.toList ++ '(' :: "DISTINCT (".toList).length
      = name.toList.length + 1 + 8 + 1 + 1 := by simp
  rw [hlength] at htext
  have htokens : Lexer.tokensFrom (name.toList.length + 1) ("DISTINCT (" ++ text ++ ")").toList
      = .ok (⟨.name, "DISTINCT".toList, name.toList.length + 1⟩
        :: groupTokens (name.toList.length + 1 + 8 + 1) text ts) := by
    have hletters : ∀ d ∈ "ISTINCT".toList, Lexer.isNameChar d = true :=
      List.all_eq_true.1 (by decide)
    have hend : ∀ d ∈ (' ' :: '(' :: (text.toList ++ [')'])).head?,
        Lexer.isNameChar d = false := by
      rintro d ⟨⟩
      decide
    rw [hinside]
    show Lexer.tokensFrom _ ('D' :: ("ISTINCT".toList ++ ' ' :: '(' :: (text.toList ++ [')']))) = _
    rw [Lexer.tokensFrom_name _ (by decide) hletters hend, Lexer.tokensFrom_blank _ (by decide)]
    show (do
      let us ← Lexer.tokensFrom (name.toList.length + 1 + 8 + 1) ('(' :: (text.toList ++ [')']))
      return _ :: us) = _
    rw [tokensFrom_group _ htext]
    rfl
  have hword : ∀ c ∈ "DISTINCT ".toList, c ≠ '(' ∧ c ≠ ')' := by simp
  have hbalanced := isBalanced_group (Expr.parse_eq_ok.1 h).2.1 hword
  have hspelled := aggregateName_spelled hname
  rw [← hinside, ← isBalanced_callText hspelled] at hbalanced
  obtain ⟨hstripped, hblank⟩ := callText_isStripped hspelled ("DISTINCT (" ++ text ++ ")")
  have hcall : expression (callText name ("DISTINCT (" ++ text ++ ")")).toList
      (callTokens name ("DISTINCT (" ++ text ++ ")")
        (⟨.name, "DISTINCT".toList, name.toList.length + 1⟩
          :: groupTokens (name.toList.length + 1 + 8 + 1) text ts))
      = .error (.unsupportedFunction (String.ofList "DISTINCT".toList)) :=
    expression_call_fault rfl rfl
      (call_distinct _ (aggregateName_upper hname 0) (isDistinct_word _) rfl _)
  rw [String.ofList_toList] at hcall
  have hchars : parseChars (callText name ("DISTINCT (" ++ text ++ ")")).toList
      = .error (.unsupportedFunction "DISTINCT") :=
    bind_eq_error.2 (.inr ⟨_, tokens_callText hspelled htokens, bind_eq_error.2 (.inl hcall)⟩)
  unfold Expr.parse requireBalanced
  rw [hblank, hbalanced, hstripped.stripBlanks_eq]
  exact hchars

/-- **Parentheses around the argument of an aggregate.**  Whatever is read of a text on its own is the
argument of the aggregate over it in parentheses.  With a DISTINCT before them, no text is. -/
theorem groupedArgument_parses (hname : name.toUpper = func.name) (h : Expr.parse text = .ok e) :
    Expr.parse (name ++ "((" ++ text ++ "))") = .ok (.aggregate func e false)
      ∧ Expr.parse (name ++ "(DISTINCT (" ++ text ++ "))")
        = .error (.unsupportedFunction "DISTINCT") := by
  have hgroup : name ++ "((" ++ text ++ "))" = callText name ("(" ++ text ++ ")") :=
    String.toList_inj.1 (by simp [callText])
  have hdistinct : name ++ "(DISTINCT (" ++ text ++ "))"
      = callText name ("DISTINCT (" ++ text ++ ")") :=
    String.toList_inj.1 (by simp [callText])
  rw [hgroup, hdistinct]
  exact ⟨parse_grouped hname h, parse_distinctGroup hname h⟩

end Grouped

/-- A call of a time function over two arguments, with parentheses in a text. -/
theorem groupedQuotation_parses :
    "mAx".toUpper = Aggregate.max.name
      ∧ Expr.parse quotedParentheses
        = .ok (.timeCall .ytd [.field "Net", .string "it's )("] "Net , 'it''s )('")
      ∧ Expr.parse ("mAx" ++ "((" ++ quotedParentheses ++ "))")
        = .ok (.aggregate .max
          (.timeCall .ytd [.field "Net", .string "it's )("] "Net , 'it''s )('") false)
      ∧ Expr.parse ("mAx" ++ "(DISTINCT (" ++ quotedParentheses ++ "))")
        = .error (.unsupportedFunction "DISTINCT") := by
  have hname : "mAx".toUpper = Aggregate.max.name := by
    rw [toUpper_eq]
    decide
  exact ⟨hname, parse_quotedParentheses, groupedArgument_parses hname parse_quotedParentheses⟩

/-- Not even a field may stand in parentheses after a DISTINCT. -/
theorem distinctGroup_refused :
    Expr.parse "a" = .ok (.field "a")
      ∧ Expr.parse "SUM((a))" = .ok (.aggregate .sum (.field "a") false)
      ∧ Expr.parse "SUM(DISTINCT (a))" = .error (.unsupportedFunction "DISTINCT") := by
  have hname : "SUM".toUpper = Aggregate.sum.name := by
    rw [toUpper_eq]
    decide
  have hparse : Expr.parse "a" = .ok (.field "a") := by cbv
  have hgroup : callText "SUM" ("(" ++ "a" ++ ")") = "SUM((a))" := by decide
  have hdistinct : callText "SUM" ("DISTINCT (" ++ "a" ++ ")") = "SUM(DISTINCT (a))" := by decide
  exact ⟨hparse, hgroup ▸ parse_grouped hname hparse, hdistinct ▸ parse_distinctGroup hname hparse⟩

end MetricLayer
