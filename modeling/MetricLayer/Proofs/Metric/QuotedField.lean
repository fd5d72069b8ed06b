import MetricLayer.Proofs.Metric.AggregateCall
import MetricLayer.Proofs.Metric.Diagnosis
import MetricLayer.Proofs.Text.Enclosed

/-!
# Aggregates over quoted fields

A field whose name is no word is written in double quotes, and an aggregate over it is read as such:
whatever stands in the name, the text is cut into the four tokens of the call
(`tokens_quotedField`), and the name comes back from its token as it was (`unquotedName_enclosed`).

A text is refused before that when the parentheses among all its characters do not match, those of a
quoted name among them.  So a name is within reach of an aggregate exactly when it does not break the
matching (`quotedField_compiles`), and the field named `(` is within reach of none
(`openingField_refused`).
-/

namespace MetricLayer

open MetricLayer.Parser MetricLayer.Text

/-! ## Quoted names -/

namespace Lexer

/-- A text in quotes closes where it ends, whatever quotes stand in it. -/
theorem closingLength?_double (q : Char) (cs : List Char) {rest : List Char}
    (h : rest.head? ≠ some q) :
    closingLength? q (double q cs ++ q :: rest) = some ((double q cs).length + 1) := by
  induction cs with
  | nil =>
    cases rest with
    | nil => simp [double, replaceChar, closingLength?]
    | cons d rest =>
      have hd : d ≠ q := by simpa using h
      simp [double, replaceChar, closingLength?, hd]
  | cons c cs ih =>
    by_cases hc : c = q
    · subst hc
      rw [double_cons_self, List.cons_append, List.cons_append, closingLength?, if_pos rfl,
        if_pos rfl, ih]
      rfl
    · obtain ⟨d, ds, hd⟩ : ∃ d ds, double q cs ++ q :: rest = d :: ds := by
        cases double q cs <;> exact ⟨_, _, rfl⟩
      rw [double_cons_of_ne hc, List.cons_append, hd, closingLength?, if_neg hc, ← hd, ih]
      rfl

theorem closingLengthNonempty?_double (q : Char) {cs rest : List Char} (hcs : cs ≠ [])
    (h : rest.head? ≠ some q) :
    closingLengthNonempty? q (double q cs ++ q :: rest) = some ((double q cs).length + 1) := by
  obtain ⟨c, cs, rfl⟩ := List.exists_cons_of_ne_nil hcs
  by_cases hc : c = q
  · subst hc
    rw [double_cons_self, List.cons_append, List.cons_append, closingLengthNonempty?, if_pos rfl,
      if_pos rfl, closingLength?_double c cs h]
    rfl
  · have hclosing := closingLength?_double q (c :: cs) h
    obtain ⟨d, ds, hd⟩ : ∃ d ds, double q cs ++ q :: rest = d :: ds := by
      cases double q cs <;> exact ⟨_, _, rfl⟩
    rw [double_cons_of_ne hc, List.cons_append, hd] at hclosing ⊢
    rw [closingLengthNonempty?, if_neg hc, hclosing]

/-- A name in double quotes is one token before anything but a double quote. -/
theorem tokensFrom_quotedName (pos : Nat) {n : String} (hn : n ≠ "") {rest : List Char}
    (h : rest.head? ≠ some '"') :
    tokensFrom pos ((enclosed '"' n).toList ++ rest) = do
      let ts ← tokensFrom (pos + (enclosed '"' n).toList.length) rest
      return ⟨.quotedName, (enclosed '"' n).toList, pos⟩ :: ts := by
  have hne : n.toList ≠ [] := fun hnil => hn (String.toList_inj.1 (by simpa using hnil))
  have htext : (enclosed '"' n).toList ++ rest = '"' :: (double '"' n.toList ++ '"' :: rest) := by
    simp [toList_enclosed]
  have hlength : (enclosed '"' n).toList.length = (double '"' n.toList).length + 1 + 1 := by
    simp [toList_enclosed]
  have hnumber := numberLength_eq_zero (show isDigit '"' = false by decide) (by decide)
    (double '"' n.toList ++ '"' :: rest)
  have hlexeme : lexemeLength? '"' (double '"' n.toList ++ '"' :: rest)
      = some (some .quotedName, (double '"' n.toList).length + 1) := by
    rw [lexemeLength?, hnumber, closingLengthNonempty?_double '"' hne h]
    rfl
  have hsplit : double '"' n.toList ++ '"' :: rest = (double '"' n.toList ++ ['"']) ++ rest := by
    simp
  have hshort : (double '"' n.toList).length + 1 = (double '"' n.toList ++ ['"']).length := by simp
  rw [htext, tokensFrom_lexeme pos hlexeme, hsplit, hshort, List.drop_left, List.take_left,
    ← hshort, hlength, toList_enclosed, Nat.add_assoc, Nat.add_comm 1]

end Lexer

/-- A quoted name comes back from its token as it was. -/
theorem unquotedName_enclosed (n : String) (pos : Nat) :
    unquotedName ⟨.quotedName, (enclosed '"' n).toList, pos⟩ = n := by
  have hinside : slice (enclosed '"' n).toList 1 ((enclosed '"' n).toList.length - 1)
      = double '"' n.toList := by
    rw [toList_enclosed, slice]
    simp
  rw [unquotedName]
  simp only [hinside, undouble_double, String.ofList_toList]

/-! ## The call -/

/-- The text of an aggregate over a quoted field. -/
def quotedFieldCall (name n : String) : String := name ++ "(" ++ enclosed '"' n ++ ")"

theorem quotedFieldCall_eq (name n : String) :
    quotedFieldCall name n = callText name (enclosed '"' n) := rfl

section Call

variable {name : String} {func : Aggregate} {n : String}

/-- The four tokens of the call. -/
def quotedFieldTokens (name n : String) : List Token :=
  let start := name.toList.length + 1
  [⟨.name, name.toList, 0⟩, ⟨.leftParen, ['('], name.toList.length⟩,
    ⟨.quotedName, (enclosed '"' n).toList, start⟩,
    ⟨.rightParen, [')'], start + (enclosed '"' n).toList.length⟩]

/-- Whatever stands in the name, it is one token. -/
theorem tokensFrom_enclosed (pos : Nat) (hn : n ≠ "") :
    Lexer.tokensFrom pos (enclosed '"' n).toList
      = .ok [⟨.quotedName, (enclosed '"' n).toList, pos⟩] := by
  have hrest : ([] : List Char).head? ≠ some '"' := by simp
  have htoken := Lexer.tokensFrom_quotedName pos hn hrest
  rwa [List.append_nil, Lexer.tokensFrom] at htoken

theorem tokens_quotedField (hname : name.toUpper = func.name) (hn : n ≠ "") :
    Lexer.tokens (quotedFieldCall name n).toList = .ok (quotedFieldTokens name n) :=
  tokens_callText (aggregateName_spelled hname) (tokensFrom_enclosed _ hn)

/-- The text is read as the aggregate once its parentheses match. -/
theorem parse_quotedField (hname : name.toUpper = func.name) (hn : n ≠ "")
    (h : isBalanced ('(' :: ((enclosed '"' n).toList ++ [')'])) = true) :
    Expr.parse (quotedFieldCall name n) = .ok (.aggregate func (.field n) false) := by
  let start := name.toList.length + 1
  let field : Token := ⟨.quotedName, (enclosed '"' n).toList, start⟩
  have hstar : startsWithStar ⟨.name, name.toList, 0⟩ [field] = false := by
    simp [startsWithStar, Token.isOperator, field]
  have hplain : plainPart? [field] = some (false, [field]) := rfl
  have hcall : Derives (quotedFieldCall name n).toList
      (.primary (.aggregate func (.field (unquotedName field)) false)) (quotedFieldTokens name n) :=
    .plainAggregate rfl (aggregateName_upper hname 0) rfl hstar hplain rfl
  rw [unquotedName_enclosed] at hcall
  exact parse_callText (aggregateName_spelled hname) h (tokensFrom_enclosed _ hn) hcall

/-- Only the parentheses of a name in quotes matter. -/
theorem isBalanced_enclosed (n : String) :
    isBalanced ('(' :: ((enclosed '"' n).toList ++ [')']))
      = isBalanced ('(' :: (n.toList ++ [')'])) := by
  have hquote : isParen '"' = false := by decide
  rw [← isBalanced_filter, ← isBalanced_filter ('(' :: (n.toList ++ _)), toList_enclosed]
  simp [List.filter_append, List.filter_cons, filter_double hquote, hquote]

/-- **An aggregate over a quoted field.**  In any case of its name and for every name of a field that
is not empty, the aggregate is compiled to itself over exactly that field, if the parentheses of the
name match inside those of the call.  If they do not, the text is refused. -/
theorem quotedField_compiles (hname : name.toUpper = func.name) (hn : n ≠ "") :
    (MatchedParens ('(' :: (n.toList ++ [')'])) →
      Compiled.ofText (quotedFieldCall name n) = .ok (.aggregation func n))
    ∧ (¬MatchedParens ('(' :: (n.toList ++ [')'])) →
      Compiled.ofText (quotedFieldCall name n) = .error .unbalanced) := by
  rw [← isBalanced_iff, ← isBalanced_enclosed]
  constructor
  · intro h
    rw [quotedFieldCall_eq, ofText_callText hname (parse_quotedField hname hn h)]
    rfl
  · intro h
    rw [Bool.not_eq_true, ← isBalanced_callText (aggregateName_spelled hname)] at h
    exact Compiled.ofText_unbalanced_iff.2 h

end Call

/-- A name with parentheses that match, a comma and quotes. -/
theorem quotedTotal_compiles :
    "sUm".toUpper = Aggregate.sum.name ∧ "Total (EUR), \"net\"" ≠ ""
      ∧ MatchedParens ('(' :: ("Total (EUR), \"net\"".toList ++ [')']))
      ∧ Compiled.ofText (quotedFieldCall "sUm" "Total (EUR), \"net\"")
        = .ok (.aggregation .sum "Total (EUR), \"net\"") := by
  have hname : "sUm".toUpper = Aggregate.sum.name := by
    rw [toUpper_eq]
    decide
  have hne : "Total (EUR), \"net\"" ≠ "" := by decide
  have hmatched : MatchedParens ('(' :: ("Total (EUR), \"net\"".toList ++ [')'])) :=
    isBalanced_iff.1 (by decide)
  exact ⟨hname, hne, hmatched, (quotedField_compiles hname hne).1 hmatched⟩

/-- The four tokens of `SUM("(")` are those of an aggregate over the field `(`, and the text is
refused because of the parenthesis in the name. -/
theorem openingField_refused :
    quotedFieldCall "SUM" "(" = "SUM(\"(\")" ∧ "SUM".toUpper = Aggregate.sum.name ∧ "(" ≠ ""
      ∧ Lexer.tokens "SUM(\"(\")".toList = .ok (quotedFieldTokens "SUM" "(")
      ∧ (quotedFieldTokens "SUM" "(").map Token.kind = [.name, .leftParen, .quotedName, .rightParen]
      ∧ Compiled.ofText "SUM(\"(\")" = .error .unbalanced := by
  have hname : "SUM".toUpper = Aggregate.sum.name := by
    rw [toUpper_eq]
    decide
  have hcall : quotedFieldCall "SUM" "(" = "SUM(\"(\")" := by decide
  refine ⟨hcall, hname, by decide, ?_, rfl, Compiled.ofText_unbalanced_iff.2 (by decide)⟩
  rw [← hcall]
  exact tokens_quotedField hname (by decide)

end MetricLayer
