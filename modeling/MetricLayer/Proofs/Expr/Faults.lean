import MetricLayer.Proofs.Expr.Grammar

/-!
# The faults of the reader

`FaultIn finish ts fault` says that a fault is one that the reader can find in the tokens `ts`: it
names one of them, or the end of the source at `finish`.  Every fault of the reader is one of these
(`expression_fault`).  A text without tokens is refused for a character that stands in it
(`tokensFrom_fault`).
-/

namespace MetricLayer

open MetricLayer.Parser MetricLayer.Text

/-- A text is not cut into tokens because of a character at which no lexeme starts. -/
theorem Lexer.tokensFrom_fault {pos : Nat} {cs : List Char} {fault : ExprFault}
    (h : tokensFrom pos cs = .error fault) :
    ∃ c n, fault = .unexpectedCharacter c (pos + n) ∧ cs[n]? = some c := by
  fun_induction tokensFrom pos cs with
  | case1 => cases h
  | case2 pos c cs =>
    cases h
    exact ⟨c, 0, rfl, rfl⟩
  | case3 pos c cs kind? more hlength ih =>
    rcases bind_eq_error.1 h with h | ⟨rest, -, h⟩
    · obtain ⟨d, n, hfault, hd⟩ := ih h
      refine ⟨d, 1 + more + n, ?_, ?_⟩
      · rw [hfault, Nat.add_assoc pos, Nat.add_assoc pos]
      · rw [List.getElem?_drop] at hd
        rw [Nat.add_assoc, Nat.add_comm 1, List.getElem?_cons_succ, hd]
    · cases kind? <;> cases h

namespace Parser

/-- The faults that can be found in tokens of a source that ends at `finish`. -/
inductive FaultIn (finish : Nat) (ts : List Token) : ExprFault → Prop
  | token {t : Token} (ht : t ∈ ts) (wanted : Expectation) :
      FaultIn finish ts (.unexpectedToken wanted t.text t.pos)
  | finish (wanted : Expectation) : FaultIn finish ts (.unexpectedToken wanted "" finish)
  | unsupportedFunction {t : Token} (ht : t ∈ ts) (hfunc : isCallable t.upper = false) :
      FaultIn finish ts (.unsupportedFunction t.text)
  | missingArgument {t : Token} (ht : t ∈ ts)
      (hfunc : (TimeFunction.ofUpper? t.upper).isSome = true) :
      FaultIn finish ts (.missingArgument t.text)
  | argumentCount {t : Token} {func : Aggregate} {count : Nat} (ht : t ∈ ts)
      (hfunc : Aggregate.ofName? t.upper = some func) (hcount : count ≠ 1) :
      FaultIn finish ts (.argumentCount func count)

variable {source : List Char} {finish : Nat} {ts us : List Token} {fault : ExprFault}

theorem FaultIn.of_mem (h : FaultIn finish us fault) (hsub : ∀ t ∈ us, t ∈ ts) :
    FaultIn finish ts fault := by
  cases h with
  | token ht wanted => exact .token (hsub _ ht) wanted
  | finish wanted => exact .finish wanted
  | unsupportedFunction ht hfunc => exact .unsupportedFunction (hsub _ ht) hfunc
  | missingArgument ht hfunc => exact .missingArgument (hsub _ ht) hfunc
  | argumentCount ht hfunc hcount => exact .argumentCount (hsub _ ht) hfunc hcount

/-- The tokens that are left after some were used. -/
theorem FaultIn.of_append {used : List Token} (h : FaultIn finish us fault)
    (hsplit : ts = used ++ us) : FaultIn finish ts fault :=
  h.of_mem fun _ ht => hsplit ▸ List.mem_append_right _ ht

theorem FaultIn.cons (t : Token) (h : FaultIn finish ts fault) : FaultIn finish (t :: ts) fault :=
  h.of_mem fun _ ht => List.mem_cons_of_mem _ ht

theorem faultAt_faultIn (finish : Nat) (wanted : Expectation) (ts : List Token) :
    FaultIn finish ts (faultAt finish wanted ts) := by
  cases ts with
  | nil => exact .finish wanted
  | cons t ts => exact .token List.mem_cons_self wanted

/-! ## The parts of a call -/

theorem lastName_fault {last : Token} (h : lastName finish last ts = .error fault) :
    FaultIn finish ts fault := by
  fun_induction lastName finish last ts with
  | case1 => cases h
  | case2 => cases h
  | case3 last t ht next others hnext =>
    cases h
    exact (faultAt_faultIn finish _ [t]).of_mem (by simp)
  | case4 last t ht next others hnext ih =>
    rcases bind_eq_error.1 h with h | ⟨c, -, h⟩
    · exact (ih h).cons t
    · cases h
  | case5 => cases h

theorem starArgument?_fault (h : starArgument? source ts = some (.error fault)) :
    FaultIn source.length ts fault := by
  cases ts with
  | nil => cases h
  | cons t rest =>
    cases rest with
    | nil =>
      simp only [starArgument?] at h
      split_ifs at h
      cases h
      exact .finish _
    | cons close others =>
      simp only [starArgument?] at h
      split_ifs at h
      · cases h
      · cases h
        exact (faultAt_faultIn _ _ _).cons t

/-- A call whose arguments have been read fails for their number. -/
theorem callOf_fault {name : Token} {openPos : Nat} {distinct : Bool} {given : Arguments}
    (h : callOf source name openPos distinct given = .error fault) :
    FaultIn finish [name] fault := by
  unfold callOf at h
  split at h
  · next func hfunc =>
    split_ifs at h
    cases h
    exact .missingArgument List.mem_cons_self (by rw [hfunc]; rfl)
  · next func _ hfunc =>
    split at h
    · cases h
    · next hone =>
      cases h
      refine .argumentCount List.mem_cons_self hfunc fun hcount => ?_
      obtain ⟨argument, hargument⟩ := List.length_eq_one_iff.1 hcount
      exact hone argument hargument
  · cases h

/-! ## The reader -/

mutual

/-- What keeps tokens from being read as a sum is found in them. -/
theorem expression_fault {source : List Char} {ts : List Token} {fault : ExprFault}
    (h : expression source ts = .error fault) : FaultIn source.length ts fault := by
  rw [expression] at h
  rcases bind_eq_error.1 h with h | ⟨first, hfirst, h⟩
  · exact product_fault h
  · obtain ⟨used, hused, -⟩ := product_sound hfirst
    have hshorter := first.shorter
    rcases bind_eq_error.1 h with h | ⟨whole, -, h⟩
    · exact (sumTail_fault h).of_append hused
    · cases h
termination_by (ts.length, 4)
decreasing_by
  all_goals simp only [Prod.lex_def, true_and]
  all_goals omega

theorem sumTail_fault {source : List Char} {left : Expr} {ts : List Token} {fault : ExprFault}
    (h : sumTail source left ts = .error fault) : FaultIn source.length ts fault := by
  match ts, h with
  | [], h =>
    rw [sumTail] at h
    cases h
  | t :: rest, h =>
    rw [sumTail] at h
    split at h
    · cases h
    · next op hop =>
      refine .cons t ?_
      rcases bind_eq_error.1 h with h | ⟨right, hright, h⟩
      · exact product_fault h
      · obtain ⟨used, hused, -⟩ := product_sound hright
        have hshorter := right.shorter
        rcases bind_eq_error.1 h with h | ⟨whole, -, h⟩
        · exact (sumTail_fault h).of_append hused
        · cases h
termination_by (ts.length, 0)
decreasing_by
  all_goals simp only [Prod.lex_def, List.length_cons]
  all_goals omega

theorem product_fault {source : List Char} {ts : List Token} {fault : ExprFault}
    (h : product source ts = .error fault) : FaultIn source.length ts fault := by
  rw [product] at h
  rcases bind_eq_error.1 h with h | ⟨first, hfirst, h⟩
  · exact signed_fault h
  · obtain ⟨used, hused, -⟩ := signed_sound hfirst
    have hshorter := first.shorter
    rcases bind_eq_error.1 h with h | ⟨whole, -, h⟩
    · exact (productTail_fault h).of_append hused
    · cases h
termination_by (ts.length, 3)
decreasing_by
  all_goals simp only [Prod.lex_def, true_and]
  all_goals omega

theorem productTail_fault {source : List Char} {left : Expr} {ts : List Token} {fault : ExprFault}
    (h : productTail source left ts = .error fault) : FaultIn source.length ts fault := by
  match ts, h with
  | [], h =>
    rw [productTail] at h
    cases h
  | t :: rest, h =>
    rw [productTail] at h
    split at h
    · cases h
    · next op hop =>
      refine .cons t ?_
      rcases bind_eq_error.1 h with h | ⟨right, hright, h⟩
      · exact signed_fault h
      · obtain ⟨used, hused, -⟩ := signed_sound hright
        have hshorter := right.shorter
        rcases bind_eq_error.1 h with h | ⟨whole, -, h⟩
        · exact (productTail_fault h).of_append hused
        · cases h
termination_by (ts.length, 0)
decreasing_by
  all_goals simp only [Prod.lex_def, List.length_cons]
  all_goals omega

theorem signed_fault {source : List Char} {ts : List Token} {fault : ExprFault}
    (h : signed source ts = .error fault) : FaultIn source.length ts fault := by
  match ts, h with
  | [], h =>
    rw [signed] at h
    cases h
    exact .finish _
  | t :: rest, h =>
    rw [signed] at h
    split_ifs at h
    · rcases bind_eq_error.1 h with h | ⟨operand, -, h⟩
      · exact (signed_fault h).cons t
      · cases h
    · exact primary_fault h
termination_by (ts.length, 2)
decreasing_by
  all_goals simp only [Prod.lex_def, List.length_cons, true_and]
  all_goals omega

theorem primary_fault {source : List Char} {t : Token} {rest : List Token} {fault : ExprFault}
    (h : primary source t rest = .error fault) : FaultIn source.length (t :: rest) fault := by
  unfold primary at h
  split at h
  · cases h
  · cases h
  · cases h
  · refine .cons t ?_
    rcases bind_eq_error.1 h with h | ⟨inside, hinside, h⟩
    · exact expression_fault h
    · obtain ⟨used, hused, -⟩ := expression_sound hinside
      split at h
      · cases h
        exact .finish _
      · next close others hclose =>
        rw [hclose] at hused
        split_ifs at h
        · cases h
        · cases h
          exact (faultAt_faultIn _ _ _).of_append hused
  · have ih : ∀ next others, rest = next :: others → call source t next.pos others = .error fault →
        FaultIn source.length (t :: others) fault := by
      intro next others hrest h
      exact call_fault h
    split at h
    · cases h
    · next next others =>
      split_ifs at h
      · rcases bind_eq_error.1 h with h | ⟨c, -, h⟩
        · refine (ih next others rfl h).of_mem fun u hu => ?_
          rcases List.mem_cons.1 hu with rfl | hu <;> simp [*]
        · cases h
      · refine .cons t ?_
        rcases bind_eq_error.1 h with h | ⟨last, -, h⟩
        · exact lastName_fault h
        · cases h
  · cases h
    exact faultAt_faultIn _ _ _
termination_by (rest.length + 1, 1)
decreasing_by
  · exact Prod.Lex.left _ _ (Nat.lt_succ_self _)
  · exact Prod.Lex.left _ _ (by rw [hrest, List.length_cons]; omega)

theorem call_fault {source : List Char} {name : Token} {openPos : Nat} {ts : List Token}
    {fault : ExprFault} (h : call source name openPos ts = .error fault) :
    FaultIn source.length (name :: ts) fault := by
  have hname : ∀ t ∈ [name], t ∈ name :: ts := by simp
  rw [call] at h
  split at h
  · next star hstar =>
    split_ifs at hstar
    subst h
    exact (starArgument?_fault hstar).cons name
  · split at h
    · next func hfunc =>
      split at h
      · cases h
      · have hshorter := (dropDistinct ts).noLonger
        rcases bind_eq_error.1 h with h | ⟨given, -, h⟩
        · refine (arguments_fault h).of_mem fun t ht => ?_
          exact List.mem_cons_of_mem _ (mem_of_mem_dropDistinct ht)
        · rcases bind_eq_error.1 h with h | ⟨e, -, h⟩
          · exact (callOf_fault h).of_mem hname
          · cases h
    · next hfunc =>
      split_ifs at h with hcallable
      · rcases bind_eq_error.1 h with h | ⟨given, -, h⟩
        · exact (arguments_fault h).cons name
        · rcases bind_eq_error.1 h with h | ⟨e, -, h⟩
          · exact (callOf_fault h).of_mem hname
          · cases h
      · cases h
        exact .unsupportedFunction List.mem_cons_self ((Bool.not_eq_true _).mp hcallable)
termination_by (ts.length, 6)
decreasing_by
  all_goals simp only [Prod.lex_def, true_and]
  all_goals omega

theorem arguments_fault {source : List Char} {ts : List Token} {fault : ExprFault}
    (h : arguments source ts = .error fault) : FaultIn source.length ts fault := by
  match ts, h with
  | [], h =>
    rw [arguments] at h
    cases h
    exact .finish _
  | t :: rest, h =>
    rw [arguments] at h
    split at h
    · cases h
    · rcases bind_eq_error.1 h with h | ⟨first, hfirst, h⟩
      · exact expression_fault h
      · obtain ⟨used, hused, -⟩ := expression_sound hfirst
        have hshorter : first.rest.length < rest.length + 1 := first.shorter
        rcases bind_eq_error.1 h with h | ⟨more, -, h⟩
        · exact (argumentTail_fault h).of_append hused
        · cases h
termination_by (ts.length, 5)
decreasing_by
  all_goals simp only [Prod.lex_def, List.length_cons, true_and]
  all_goals omega

theorem argumentTail_fault {source : List Char} {ts : List Token} {fault : ExprFault}
    (h : argumentTail source ts = .error fault) : FaultIn source.length ts fault := by
  match ts, h with
  | [], h =>
    rw [argumentTail] at h
    cases h
    exact .finish _
  | t :: rest, h =>
    rw [argumentTail] at h
    split at h
    · cases h
    · split at h
      · refine .cons t ?_
        rcases bind_eq_error.1 h with h | ⟨next, hnext, h⟩
        · exact expression_fault h
        · obtain ⟨used, hused, -⟩ := expression_sound hnext
          have hshorter := next.shorter
          rcases bind_eq_error.1 h with h | ⟨more, -, h⟩
          · exact (argumentTail_fault h).of_append hused
          · cases h
      · cases h
        exact faultAt_faultIn _ _ _
termination_by (ts.length, 0)
decreasing_by
  all_goals simp only [Prod.lex_def, List.length_cons]
  all_goals omega

end

/-- A source is refused for one of its characters or for what stands among its tokens. -/
theorem parseChars_fault (h : parseChars source = .error fault) :
    (∃ c n, fault = .unexpectedCharacter c n ∧ source[n]? = some c)
      ∨ ∃ ts, Lexer.tokens source = .ok ts ∧ FaultIn source.length ts fault := by
  rw [parseChars] at h
  rcases bind_eq_error.1 h with h | ⟨ts, hts, h⟩
  · obtain ⟨c, n, hfault, hc⟩ := Lexer.tokensFrom_fault h
    rw [Nat.zero_add] at hfault
    exact .inl ⟨c, n, hfault, hc⟩
  · refine .inr ⟨ts, hts, ?_⟩
    rcases bind_eq_error.1 h with h | ⟨r, hr, h⟩
    · exact expression_fault h
    · obtain ⟨used, hused, -⟩ := expression_sound hr
      split at h
      · cases h
      · next t rest hrest =>
        cases h
        rw [hrest] at hused
        exact (faultAt_faultIn _ _ _).of_append hused

end Parser

/-- A text is refused as blank, for its parentheses, or as its source is. -/
theorem Expr.parse_fault {text : String} {fault : ExprFault} (h : Expr.parse text = .error fault) :
    (fault = .blank ∧ isBlankText text = true)
      ∨ (fault = .unbalanced ∧ isBlankText text = false ∧ isBalanced text.toList = false)
      ∨ (isBalanced text.toList = true ∧ parseChars (stripBlanks text.toList) = .error fault) := by
  unfold Expr.parse requireBalanced at h
  cases hblank : isBlankText text with
  | true =>
    rw [hblank] at h
    cases h
    exact .inl ⟨rfl, rfl⟩
  | false =>
    cases hbalanced : isBalanced text.toList with
    | false =>
      rw [hblank, hbalanced] at h
      cases h
      exact .inr (.inl ⟨rfl, rfl, rfl⟩)
    | true =>
      rw [hblank, hbalanced] at h
      exact .inr (.inr ⟨rfl, h⟩)

end MetricLayer
