import MetricLayer.Proofs.Outcome
import MetricLayer.Proofs.Sql.LiteralText

/-!
# Filter trees read back

The direct reading of a filter tree, and the proof that its SQL says the same.

* `fieldAtoms` are the predicates that a field of a tree stands for.
* `treeMeaning` reads a tree: the fields of an object and the operators of a field hold together, a
  connective joins those of its sub-trees that say something, and a tree or a connective without any
  says nothing.
* `filterSql_meaning` is the main result.  It rests on `readFields_pieces`: the conditions of a tree
  are pieces, each of which says what the tree says in its place.
-/

namespace MetricLayer.Sql

open Text

/-! ## What a filter tree says -/

/-- A column that is among values, or not; nothing is among no values. -/
def memberAtom (field : String) (negated : Bool) : List Value → Predicate
  | [] => .compare "=" (.number "1") (.number (if negated then "1" else "0"))
  | vs => .member negated (.column field) (vs.map literalTerm)

/-- The predicate of one operator on a field. -/
def operatorAtom (field operator : String) (v : Value) : Predicate :=
  match Comparison.ofName? operator, TextMatch.ofName? operator with
  | some op, _ =>
    if v.isNull then .isNull true (.column field)
    else .compare op.sign (.column field) (literalTerm v)
  | none, some m => .like false (.column field) (.text (m.pattern v.plain))
  | none, none => memberAtom field (operator = "notIn") (v.items?.getD [])

/-- The predicates of a field with a value, which hold together. -/
def fieldAtoms (field : String) : Value → List Predicate
  | .null => [.isNull false (.column field)]
  | .object operators => operators.map fun f => operatorAtom field f.1 f.2
  | .list vs => [memberAtom field false vs]
  | .tuple vs => [memberAtom field false vs]
  | v => [.compare "=" (.column field) (literalTerm v)]

/-- Meanings joined by a connective; none of them say nothing. -/
def connected (connective : Connective) (ms : List Meaning) : Option Meaning :=
  if ms.isEmpty then none
  else
    match connective with
    | .and => some (Meaning.all ms)
    | .or => some (Meaning.any ms)

mutual

/-- What a filter tree says, if it says anything. -/
def treeMeaning : Value → Option Meaning
  | .object fields => connected .and (fieldMeanings fields)
  | _ => none

/-- What the fields of a tree say, in order. -/
def fieldMeanings : List (String × Value) → List Meaning
  | [] => []
  | (key, v) :: rest =>
    (match Connective.ofWord? key with
      | some connective => (connectiveMeaning connective v).toList
      | none => (fieldAtoms key v).map Meaning.atom) ++ fieldMeanings rest

/-- What a connective over a list of trees says, if one of them says anything. -/
def connectiveMeaning (connective : Connective) : Value → Option Meaning
  | .list trees => connected connective (treeMeanings trees)
  | .tuple trees => connected connective (treeMeanings trees)
  | _ => none

/-- What those trees of a list say that say anything. -/
def treeMeanings : List Value → List Meaning
  | [] => []
  | tree :: rest => (treeMeaning tree).toList ++ treeMeanings rest

end

/-! ## Predicates -/

/-- A column and what is said of it. -/
theorem Piece.ofColumn {field column tail : String} {ts : List Lexeme} {p : Predicate}
    (hcolumn : sqlName field = .ok column) (hl : Lexes tail.toList ts)
    (hboundary : AtBoundary tail.toList) (hb : Balanced tail.toList) (hc : Lexeme.comment ∉ ts)
    (hr : ReadsCondition .primary ([.name field] ++ ts) (.predicate p)) :
    Piece (column ++ tail) (Meaning.atom p) := by
  obtain ⟨rfl, hne⟩ := sqlName_inv hcolumn
  refine ⟨⟨_, _, ?_, by simpa using hc, hr, fun _ => rfl⟩, ?_, fun hhead => ?_⟩
  · rw [String.toList_append]
    exact (Lexes.name hne).append hl hboundary
  · rw [String.toList_append]
    exact (Balanced.enclosed (.inr rfl) field).append hb
  · rw [String.toList_append, toList_enclosed, List.cons_append, List.head?_cons] at hhead
    cases hhead

theorem Reads.columnSum (field : String) : Reads .sum [.name field] (.column field) :=
  (Reads.column field).signed.product.sum

/-- A column compared with the term that a text spells. -/
theorem Piece.compare {field column sign literal : String} {t : Term}
    (hcolumn : sqlName field = .ok column)
    (hsign : (decide (sign ∈ comparisonSigns) && isOperatorText sign
      && sign.toList.all isUnpaired) = true)
    (ht : SpellsLiteral literal t) :
    Piece (column ++ " " ++ sign ++ " " ++ literal)
      (Meaning.atom (.compare sign (.column field) t)) := by
  simp only [Bool.and_eq_true, decide_eq_true_eq] at hsign
  obtain ⟨⟨hmem, hop⟩, hunpaired⟩ := hsign
  obtain ⟨ts, hl, hr, hc⟩ := ht.spells.toSum
  have htext : column ++ " " ++ sign ++ " " ++ literal
      = column ++ (" " ++ sign ++ " " ++ literal) := by
    simp only [String.append_assoc]
  have hlex := ((Lexes.operator hop).append hl.space (by simp [isBoundary])).space
  have hspace : Balanced [' '] := Balanced.unpaired (by decide)
  have hbalanced := (hspace.append (Balanced.unpaired hunpaired)).append
    (hspace.append ht.balanced)
  rw [htext]
  refine Piece.ofColumn hcolumn (by simpa using hlex) (by simp [isBoundary])
    (by simpa using hbalanced) (by simpa using hc) ?_
  exact ReadsCondition.compare (Reads.columnSum field) rfl hmem hr

/-- The predicate of a column that is null, or not. -/
theorem Piece.isNull {field column : String} (negated : Bool) (hcolumn : sqlName field = .ok column) :
    Piece (column ++ (if negated then " IS NOT NULL" else " IS NULL"))
      (Meaning.atom (.isNull negated (.column field))) := by
  have hread := ReadsCondition.isNull negated (Reads.columnSum field) rfl
  have hnull := ((Lexes.keyword "NULL" (w := "null") (by decide)).space)
  cases negated with
  | false =>
    have hlex := ((Lexes.keyword "IS" (w := "is") (by decide)).append hnull
      (by simp [isBoundary])).space
    exact Piece.ofColumn hcolumn hlex (by simp [isBoundary]) (Balanced.unpaired (by decide))
      (by simp) hread
  | true =>
    have hnot := ((Lexes.keyword "NOT" (w := "not") (by decide)).append hnull
      (by simp [isBoundary])).space
    have hlex := ((Lexes.keyword "IS" (w := "is") (by decide)).append hnot
      (by simp [isBoundary])).space
    exact Piece.ofColumn hcolumn hlex (by simp [isBoundary]) (Balanced.unpaired (by decide))
      (by simp) hread

/-- The predicate of a column that matches a pattern. -/
theorem Piece.like {field column literal pattern : String} (hcolumn : sqlName field = .ok column)
    (ht : SpellsLiteral literal (.text pattern)) :
    Piece (column ++ " LIKE " ++ literal)
      (Meaning.atom (.like false (.column field) (.text pattern))) := by
  obtain ⟨ts, hl, hr, hc⟩ := ht.spells.toSum
  have hlex := ((Lexes.keyword "LIKE" (w := "like") (by decide)).append hl.space
    (by simp [isBoundary])).space
  have hword : Balanced " LIKE ".toList := Balanced.unpaired (by decide)
  have hbalanced := hword.append ht.balanced
  rw [String.append_assoc]
  exact Piece.ofColumn hcolumn (by simpa using hlex) (by simp [isBoundary])
    (by simpa using hbalanced) (by simpa using hc) (ReadsCondition.like (Reads.columnSum field) rfl hr)

/-- The predicate of a column that is among literals, or not. -/
theorem Piece.member {field column : String} {literals : List String} {ts : List Term}
    (negated : Bool) (hcolumn : sqlName field = .ok column)
    (h : List.Forall₂ SpellsLiteral literals ts) (hne : literals ≠ []) :
    Piece (column ++ (if negated then " NOT IN (" else " IN (") ++ joined ", " literals ++ ")")
      (Meaning.atom (.member negated (.column field) ts)) := by
  obtain ⟨tss, hl, hr, hc⟩ := spells_forall₂ (h.imp fun _ _ hlit => hlit.spells.toSum)
  have htss : tss ≠ [] := by
    rintro rfl
    cases hl
    exact hne rfl
  have hread := ReadsCondition.member negated (Reads.columnSum field) rfl hr htss
  have hcomment := comment_notMem_separatedBy (l := .comma) (by decide) hc
  have hlist := ((Lexes.separated Lexes.commaSpace hl).append (Lexes.rightParen Lexes.nil)
    (by simp [isBoundary])).leftParen.space
  have hin := ((Lexes.keyword "IN" (w := "in") (by decide)).append hlist
    (by simp [isBoundary])).space
  have hbalanced : Balanced (joined ", " literals).toList := by
    refine Balanced.joined (Balanced.unpaired (by decide)) fun s hs => ?_
    obtain ⟨t, ht⟩ := forall₂_mem_left h s hs
    exact ht.balanced
  cases negated with
  | false =>
    have hword : Balanced " IN ".toList := Balanced.unpaired (by decide)
    have hb := hword.append hbalanced.group
    have htext : column ++ " IN (" ++ joined ", " literals ++ ")"
        = column ++ (" IN (" ++ joined ", " literals ++ ")") := by
      simp only [String.append_assoc]
    refine htext ▸ Piece.ofColumn hcolumn (by simpa using hin) (by simp [isBoundary])
      (by simpa using hb) (by simpa using hcomment) hread
  | true =>
    have hnot := ((Lexes.keyword "NOT" (w := "not") (by decide)).append hin
      (by simp [isBoundary])).space
    have hword : Balanced " NOT IN ".toList := Balanced.unpaired (by decide)
    have hb := hword.append hbalanced.group
    have htext : column ++ " NOT IN (" ++ joined ", " literals ++ ")"
        = column ++ (" NOT IN (" ++ joined ", " literals ++ ")") := by
      simp only [String.append_assoc]
    refine htext ▸ Piece.ofColumn hcolumn (by simpa using hnot) (by simp [isBoundary])
      (by simpa using hb) (by simpa using hcomment) hread

/-- Membership in no list at all is a comparison of two numbers. -/
theorem Piece.constant (negated : Bool) :
    Piece (if negated then "1 = 1" else "1 = 0")
      (Meaning.atom (.compare "=" (.number "1") (.number (if negated then "1" else "0")))) := by
  have hdigit : ∀ d : Char, d.isDigit = true → IsNumeral [d] := fun d hd =>
    (IsMantissa.whole (isDigits_of_all (by simpa using hd))).isNumeral
  have key : ∀ s : String, IsNumeral s.toList → s.toList.all isUnpaired = true →
      Piece ("1" ++ " " ++ "=" ++ " " ++ s)
        (Meaning.atom (.compare "=" (.number "1") (.number s))) := by
    intro s hs hunpaired
    have hone : Lexes "1".toList [.number "1"] := Lexes.number (hdigit '1' (by decide))
    have hlex := hone.between (s := "=") (by decide) (Lexes.number hs)
    refine ⟨⟨_, _, hlex, by simp, ReadsCondition.compare (Reads.number "1").signed.product.sum rfl
      (by decide) (Reads.number s).signed.product.sum, fun _ => rfl⟩, ?_, fun hhead => ?_⟩
    · rw [String.toList_append]
      exact (Balanced.unpaired (by decide)).append (Balanced.unpaired hunpaired)
    · rw [String.toList_append] at hhead
      cases hhead
  cases negated with
  | false => exact key "0" (hdigit '0' (by decide)) (by decide)
  | true => exact key "1" (hdigit '1' (by decide)) (by decide)

/-! ## The predicates of a field -/

/-- The sign of a comparison is one operator and no quote or parenthesis. -/
theorem comparison_sign (op : Comparison) :
    (decide (op.sign ∈ comparisonSigns) && isOperatorText op.sign
      && op.sign.toList.all isUnpaired) = true := by
  cases op <;> decide

theorem comparePredicate_piece {field column sql : String} {op : Comparison} {v : Value}
    (hcolumn : sqlName field = .ok column) (h : comparePredicate column op v = .ok sql) :
    Piece sql (Meaning.atom (if v.isNull then .isNull true (.column field)
      else .compare op.sign (.column field) (literalTerm v))) := by
  by_cases hv : v.isNull = true
  · obtain rfl : v = .null := by
      cases v <;> first | rfl | cases hv
    cases op with
    | ne =>
      rw [← Except.ok.inj h]
      exact Piece.isNull true hcolumn
    | _ => cases h
  · have hliteral : ∃ literal, sqlLiteral v = .ok literal
        ∧ column ++ " " ++ op.sign ++ " " ++ literal = sql := by
      cases v with
      | null => exact absurd rfl hv
      | _ =>
        obtain ⟨literal, hl, h⟩ := bind_eq_ok.1 h
        exact ⟨literal, hl, pure_eq_ok.1 h⟩
    obtain ⟨literal, hl, rfl⟩ := hliteral
    rw [if_neg hv]
    exact Piece.compare hcolumn (comparison_sign op) (sqlLiteral_spells hl)

theorem memberPredicate_piece {field column sql : String} {negated : Bool} {v : Value}
    (hcolumn : sqlName field = .ok column) (h : memberPredicate column negated v = .ok sql) :
    Piece sql (Meaning.atom (memberAtom field negated (v.items?.getD []))) := by
  unfold memberPredicate at h
  split at h
  · cases h
  · next hitems =>
    rw [hitems, ← Except.ok.inj h]
    exact Piece.constant negated
  · next vs hne hitems =>
    obtain ⟨literals, hl, h⟩ := bind_eq_ok.1 h
    rw [← pure_eq_ok.1 h, hitems]
    have hall : List.Forall₂ SpellsLiteral literals (vs.map literalTerm) := by
      rw [List.forall₂_map_right_iff]
      exact (mapM_eq_ok hl).flip.imp fun _ _ hliteral => sqlLiteral_spells hliteral
    have hliterals : literals ≠ [] := by
      rintro rfl
      cases mapM_eq_ok hl
      exact hne rfl
    have hatom : memberAtom field negated vs
        = .member negated (.column field) (vs.map literalTerm) := by
      cases vs with
      | nil => exact absurd rfl hne
      | cons => rfl
    rw [Option.getD_some, hatom]
    exact Piece.member negated hcolumn hall hliterals

theorem operatorPredicate_piece {field operator sql : String} {v : Value}
    (h : operatorPredicate field operator v = .ok sql) :
    Piece sql (Meaning.atom (operatorAtom field operator v)) := by
  obtain ⟨column, hcolumn, h⟩ := bind_eq_ok.1 h
  unfold operatorAtom
  cases hop : Comparison.ofName? operator with
  | some op =>
    rw [hop] at h
    exact comparePredicate_piece hcolumn h
  | none =>
    cases hmatch : TextMatch.ofName? operator with
    | some m =>
      rw [hop, hmatch] at h
      obtain ⟨literal, hliteral, h⟩ := bind_eq_ok.1 h
      rw [← pure_eq_ok.1 h]
      exact Piece.like hcolumn (sqlText_spells hliteral)
    | none =>
      rw [hop, hmatch] at h
      simp only at h ⊢
      split_ifs at h with hin hnotIn
      · have hnegated : decide (operator = "notIn") = false := by rw [hin]; decide
        rw [hnegated]
        exact memberPredicate_piece hcolumn h
      · rw [decide_eq_true hnotIn]
        exact memberPredicate_piece hcolumn h

/-- The predicates of a field are pieces, one for each atom. -/
theorem fieldPredicates_pieces {field : String} {v : Value} {texts : List String}
    (h : fieldPredicates field v = .ok texts) :
    List.Forall₂ Piece texts ((fieldAtoms field v).map Meaning.atom) := by
  have hequal : ∀ {v : Value}, (do
      let column ← sqlName field
      return [column ++ " = " ++ (← sqlLiteral v)]) = .ok texts →
      List.Forall₂ Piece texts
        ([Predicate.compare "=" (.column field) (literalTerm v)].map Meaning.atom) := by
    intro v h
    obtain ⟨column, hcolumn, h⟩ := bind_eq_ok.1 h
    obtain ⟨literal, hliteral, h⟩ := bind_eq_ok.1 h
    rw [← pure_eq_ok.1 h]
    have htext : column ++ " " ++ "=" ++ " " ++ literal = column ++ " = " ++ literal := by
      simp [String.append_assoc]
    exact .cons (htext ▸ Piece.compare hcolumn (by decide) (sqlLiteral_spells hliteral)) .nil
  cases v with
  | null =>
    obtain ⟨column, hcolumn, h⟩ := bind_eq_ok.1 h
    rw [← pure_eq_ok.1 h]
    exact .cons (Piece.isNull false hcolumn) .nil
  | object operators =>
    cases operators with
    | nil => cases h
    | cons f rest =>
      rw [fieldAtoms, List.map_map, List.forall₂_map_right_iff]
      exact (mapM_eq_ok h).flip.imp fun _ _ hop => operatorPredicate_piece hop
  | list vs =>
    obtain ⟨sql, hsql, h⟩ := bind_eq_ok.1 h
    rw [← pure_eq_ok.1 h]
    exact .cons (operatorPredicate_piece hsql) .nil
  | tuple vs =>
    obtain ⟨sql, hsql, h⟩ := bind_eq_ok.1 h
    rw [← pure_eq_ok.1 h]
    exact .cons (operatorPredicate_piece hsql) .nil
  | _ => exact hequal h

/-! ## Trees -/

/-- The rendered conditions that say something. -/
def presentEach (conditions : List Condition) : List String :=
  (renderEach conditions).filter (· ≠ "")

/-- The rendered parts of a connective that say something. -/
def presentParts (parts : List (List Condition)) : List String :=
  (renderParts parts).filter (· ≠ "")

theorem presentEach_append (cs ds : List Condition) :
    presentEach (cs ++ ds) = presentEach cs ++ presentEach ds := by
  have hrender : renderEach (cs ++ ds) = renderEach cs ++ renderEach ds := by
    induction cs with
    | nil => rfl
    | cons c cs ih => rw [List.cons_append, renderEach, renderEach, ih, List.cons_append]
  rw [presentEach, hrender, List.filter_append]
  rfl

/-- Predicates are rendered as they are, and none of them is empty. -/
theorem presentEach_predicates {texts : List String} {ms : List Meaning}
    (h : List.Forall₂ Piece texts ms) : presentEach (texts.map .predicate) = texts := by
  induction h with
  | nil => rfl
  | @cons s m texts ms hs _ ih =>
    have hne := hs.reads.ne_empty
    unfold presentEach at ih ⊢
    rw [List.map_cons, renderEach, Condition.render, List.filter_cons_of_pos (by simpa using hne), ih]

/-- Conditions that hold together are a clause, if one of them says something. -/
theorem renderAll_clause {conditions : List Condition} {ms : List Meaning}
    (h : List.Forall₂ Piece (presentEach conditions) ms) :
    (renderAll conditions = "" ∧ connected .and ms = none)
      ∨ ∃ m, Clause (renderAll conditions) m ∧ connected .and ms = some m := by
  have hrender : renderAll conditions = joined " AND " (presentEach conditions) := rfl
  rw [hrender]
  generalize presentEach conditions = pieces at h
  cases h with
  | nil => exact .inl ⟨rfl, rfl⟩
  | @cons s m pieces ms hs hrest =>
    exact .inr ⟨Meaning.all (m :: ms), ⟨_, _, .cons hs hrest, by simp, rfl, rfl⟩, rfl⟩

theorem Clause.ne_empty {s : String} {m : Meaning} (h : Clause s m) : s ≠ "" := by
  rintro rfl
  have hpiece := h.parenthesised
  exact hpiece.reads.ne_empty rfl

/-- A connective over clauses is one piece. -/
theorem group_piece {connective : Connective} {parts : List (List Condition)} {ms : List Meaning}
    (h : List.Forall₂ Clause (presentParts parts) ms) :
    ((Condition.group connective parts).render = "" ∧ connected connective ms = none)
      ∨ ∃ m, Piece (Condition.group connective parts).render m
          ∧ connected connective ms = some m := by
  have hrender : (Condition.group connective parts).render
      = if (presentParts parts).isEmpty then ""
        else "(" ++ joined (" " ++ connective.word ++ " ") ((presentParts parts).map parenthesised)
          ++ ")" := by
    rw [Condition.render]
    rfl
  rw [hrender]
  generalize presentParts parts = texts at h
  cases h with
  | nil => exact .inl ⟨rfl, rfl⟩
  | @cons s m texts ms hs hrest =>
    refine .inr ?_
    have hpieces : List.Forall₂ Piece ((s :: texts).map parenthesised) (m :: ms) := by
      rw [List.forall₂_map_left_iff]
      exact (List.Forall₂.cons hs hrest).imp fun _ _ hclause => hclause.parenthesised
    have hbalanced : ∀ t ∈ (s :: texts).map parenthesised, Balanced t.toList := fun t ht => by
      obtain ⟨n, hn⟩ := forall₂_mem_left hpieces t ht
      exact hn.balanced
    cases connective with
    | and =>
      have hreads := (Says.conjunction (hpieces.imp fun _ _ hp => hp.reads.factor) (by simp)).whole
      exact ⟨_, Piece.group hreads (Balanced.joined (Balanced.unpaired (by decide)) hbalanced), rfl⟩
    | or =>
      have hreads := Says.disjunction (hpieces.imp fun _ _ hp => hp.reads.factor.term) (by simp)
      exact ⟨_, Piece.group hreads (Balanced.joined (Balanced.unpaired (by decide)) hbalanced), rfl⟩

/-- The condition of a connective, if it says anything. -/
theorem presentEach_group {connective : Connective} {parts : List (List Condition)}
    {ms : List Meaning} (h : List.Forall₂ Clause (presentParts parts) ms) :
    List.Forall₂ Piece (presentEach [.group connective parts]) (connected connective ms).toList := by
  have heach : presentEach [.group connective parts]
      = [(Condition.group connective parts).render].filter (· ≠ "") := rfl
  rw [heach]
  rcases group_piece h with ⟨hrender, hms⟩ | ⟨m, hpiece, hms⟩
  · rw [hrender, hms]
    exact .nil
  · rw [hms, List.filter_cons_of_pos (by simpa using hpiece.reads.ne_empty)]
    exact .cons hpiece .nil

/-- The first part of a connective before the others, if it says anything. -/
theorem presentParts_cons {first : List Condition} {others : List (List Condition)}
    {ms ns : List Meaning} (hfirst : List.Forall₂ Piece (presentEach first) ms)
    (hothers : List.Forall₂ Clause (presentParts others) ns) :
    List.Forall₂ Clause (presentParts (first :: others)) ((connected .and ms).toList ++ ns) := by
  have hparts : presentParts (first :: others)
      = [renderAll first].filter (· ≠ "") ++ presentParts others :=
    List.filter_append [renderAll first] (renderParts others)
  rw [hparts]
  rcases renderAll_clause hfirst with ⟨hrender, hms⟩ | ⟨m, hclause, hms⟩
  · rw [hrender, hms]
    exact hothers
  · rw [hms, List.filter_cons_of_pos (by simpa using hclause.ne_empty)]
    exact .cons hclause hothers

mutual

/-- The conditions of a tree are pieces, which together say what the tree says. -/
theorem readConditions_pieces :
    ∀ (tree : Value) {conditions : List Condition}, readConditions tree = .ok conditions →
      ∃ ms, List.Forall₂ Piece (presentEach conditions) ms ∧ treeMeaning tree = connected .and ms
  | .object fields, conditions, h => ⟨_, readFields_pieces fields h, rfl⟩
  | .null, _, h | .bool _, _, h | .int _, _, h | .float _, _, h | .decimal _, _, h | .text _, _, h
  | .date _, _, h | .moment _, _, h | .duration _, _, h | .bytes _, _, h | .list _, _, h
  | .tuple _, _, h => by
    refine ⟨[], ?_, rfl⟩
    unfold readConditions at h
    split at h
    · cases h
    · rw [← Except.ok.inj h]
      exact .nil

/-- The conditions of the fields of a tree are pieces, each of which says what its field says. -/
theorem readFields_pieces :
    ∀ (fields : List (String × Value)) {conditions : List Condition},
      readFields fields = .ok conditions →
      List.Forall₂ Piece (presentEach conditions) (fieldMeanings fields)
  | [], _, h => by
    rw [← Except.ok.inj h]
    exact .nil
  | (key, v) :: rest, conditions, h => by
    -- whatever the first field says, the other fields follow
    have hjoin : ∀ {first ms}, List.Forall₂ Piece (presentEach first) ms →
        (do return first ++ (← readFields rest)) = .ok conditions →
        List.Forall₂ Piece (presentEach conditions) (ms ++ fieldMeanings rest) := by
      intro first ms hfirst hothers
      obtain ⟨others, hothers, hconditions⟩ := bind_eq_ok.1 hothers
      rw [← pure_eq_ok.1 hconditions, presentEach_append]
      exact List.rel_append hfirst (readFields_pieces rest hothers)
    rw [readFields] at h
    rw [fieldMeanings]
    cases hkey : Connective.ofWord? key with
    | some connective =>
      rw [hkey] at h
      obtain ⟨first, hfirst, h⟩ := bind_eq_ok.1 h
      exact hjoin (readGroup_pieces connective v hfirst) h
    | none =>
      rw [hkey] at h
      obtain ⟨first, hfirst, h⟩ := bind_eq_ok.1 h
      obtain ⟨texts, htexts, rfl⟩ := map_eq_ok.1 hfirst
      have hpieces := fieldPredicates_pieces htexts
      refine hjoin ?_ h
      rw [presentEach_predicates hpieces]
      exact hpieces

/-- The condition of a connective is a piece, if it says anything. -/
theorem readGroup_pieces (connective : Connective) :
    ∀ (v : Value) {conditions : List Condition}, readGroup connective v = .ok conditions →
      List.Forall₂ Piece (presentEach conditions) (connectiveMeaning connective v).toList
  | .list trees, conditions, h | .tuple trees, conditions, h => by
    rw [readGroup] at h
    obtain ⟨parts, hparts, h⟩ := bind_eq_ok.1 h
    rw [← pure_eq_ok.1 h, connectiveMeaning]
    exact presentEach_group (readTrees_clauses trees hparts)
  | .null, _, h | .bool _, _, h | .int _, _, h | .float _, _, h | .decimal _, _, h | .text _, _, h
  | .date _, _, h | .moment _, _, h | .duration _, _, h | .bytes _, _, h | .object _, _, h => by
    cases h

/-- Those trees of a list that say something are clauses. -/
theorem readTrees_clauses :
    ∀ (trees : List Value) {parts : List (List Condition)}, readTrees trees = .ok parts →
      List.Forall₂ Clause (presentParts parts) (treeMeanings trees)
  | [], _, h => by
    rw [← Except.ok.inj h]
    exact .nil
  | tree :: rest, parts, h => by
    rw [readTrees] at h
    obtain ⟨first, hfirst, h⟩ := bind_eq_ok.1 h
    obtain ⟨others, hothers, h⟩ := bind_eq_ok.1 h
    rw [← pure_eq_ok.1 h, treeMeanings]
    obtain ⟨ms, hms, htree⟩ := readConditions_pieces tree hfirst
    rw [htree]
    exact presentParts_cons hms (readTrees_clauses rest hothers)

end

/-- The SQL of a filter tree is empty when the tree says nothing, and else a clause that says what
the tree says. -/
theorem filterSql_clause {tree : Value} {sql : String} (h : filterSql tree = .ok sql) :
    (sql = "" ∧ treeMeaning tree = none) ∨ ∃ m, Clause sql m ∧ treeMeaning tree = some m := by
  obtain ⟨conditions, hconditions, h⟩ := bind_eq_ok.1 h
  rw [← pure_eq_ok.1 h]
  obtain ⟨ms, hms, htree⟩ := readConditions_pieces tree hconditions
  rw [htree]
  exact renderAll_clause hms

/-- The SQL of a filter tree is empty, and then the tree says nothing, or it is read whole as a
condition whose value is that of the tree, whatever the values of the predicates are. -/
theorem filterSql_meaning {tree : Value} {sql : String} (h : filterSql tree = .ok sql) :
    (sql = "" ∧ treeMeaning tree = none) ∨
      ∃ ts c m, lex sql.toList = some ts ∧ Lexeme.comment ∉ ts ∧ readCondition ts = some c
        ∧ treeMeaning tree = some m ∧ ∀ v, c.eval v = m v := by
  rcases filterSql_clause h with hempty | ⟨m, hclause, htree⟩
  · exact .inl hempty
  · obtain ⟨ts, c, hl, hc, hr, hv⟩ := hclause.reads.whole
    exact .inr ⟨ts, c, m, hl.lex_eq, hc, hr.readCondition_eq, htree, hv⟩

/-- A tree whose values hold connectives, quotes and parentheses. -/
def quotedTree : Value :=
  .object [("a", .null), ("OR", .list [.object [("b) OR (\"c", .text "x' AND ('y"), ("d", .null)],
    .object [("AND", .list [])], .object [("e", .list [])]])]

theorem quotedTree_meaning :
    ∃ sql, filterSql quotedTree = .ok sql ∧ ((sql = "" ∧ treeMeaning quotedTree = none) ∨
      ∃ ts c m, lex sql.toList = some ts ∧ Lexeme.comment ∉ ts ∧ readCondition ts = some c
        ∧ treeMeaning quotedTree = some m ∧ ∀ v, c.eval v = m v) := by
  have h : filterSql quotedTree
      = .ok ("\"a\" IS NULL AND "
        ++ "((\"b) OR (\"\"c\" = 'x'' AND (''y' AND \"d\" IS NULL) OR 1 = 0)") := by
    rfl
  exact ⟨_, h, filterSql_meaning h⟩

end MetricLayer.Sql
