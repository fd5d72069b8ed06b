import MetricLayer.Proofs.Metric.Executable
import MetricLayer.Proofs.Sql.FilterOrder
import MetricLayer.Proofs.Sql.FilterText

/-!
# LIKE patterns

A text that a column has to contain, to start with or to end with is written as a LIKE pattern.

* `readPattern` takes a pattern apart as the database does: a backslash makes the character after it
  stand for itself, a percent sign stands for any run of characters, an underscore for any single
  one.
* `isMatch` matches the parts of a pattern with a whole text; for a run it tries every rest.
* `isMatch_parts` is what the parts of a match say: the text occurs anywhere, at the start or at the
  end.
* `like_matches_literally` puts it together: whatever stands in the text, its predicate is read as a
  LIKE whose pattern matches just the texts that hold it.
-/

namespace MetricLayer.Sql

open Text

/-! ## Patterns as the database reads them -/

/-- A part of a pattern. -/
inductive PatternPart where
  /-- A character that stands for itself. -/
  | one (c : Char)
  /-- Any single character. -/
  | anyOne
  /-- Any run of characters. -/
  | anyRun
  deriving DecidableEq, Repr

/-- The parts of a pattern; it may not end in a backslash that escapes nothing. -/
def readPattern : List Char → Option (List PatternPart)
  | [] => some []
  | '\\' :: rest =>
    match rest with
    | [] => none
    | c :: rest => (readPattern rest).map (.one c :: ·)
  | '%' :: rest => (readPattern rest).map (.anyRun :: ·)
  | '_' :: rest => (readPattern rest).map (.anyOne :: ·)
  | c :: rest => (readPattern rest).map (.one c :: ·)

/-- The parts match the whole text; a run is tried with every rest of the text behind it. -/
def isMatch : List PatternPart → List Char → Bool
  | [], t => t.isEmpty
  | .one c :: parts, t => t.head? = some c && isMatch parts t.tail
  | .anyOne :: parts, t => !t.isEmpty && isMatch parts t.tail
  | .anyRun :: parts, t => t.tails.any (isMatch parts)

/-! ## Characters that stand for themselves -/

/-- A character that has been escaped where that is needed is read as itself. -/
theorem readPattern_escapeChar (c : Char) (rest : List Char) :
    readPattern (TextMatch.escapeChar c ++ rest) = (readPattern rest).map (.one c :: ·) := by
  unfold TextMatch.escapeChar
  split
  · rw [List.cons_append, List.singleton_append, readPattern]
  · next hc =>
    simp only [Bool.or_eq_true, decide_eq_true_eq, not_or] at hc
    obtain ⟨⟨hbackslash, hpercent⟩, hunderscore⟩ := hc
    rw [List.singleton_append]
    rw [readPattern] <;> assumption

/-- A text is read back character by character, whatever stands beside what in it. -/
theorem readPattern_escaped (cs rest : List Char) :
    readPattern (cs.flatMap TextMatch.escapeChar ++ rest)
      = (readPattern rest).map (cs.map .one ++ ·) := by
  induction cs with
  | nil => simp
  | cons c cs ih =>
    rw [List.flatMap_cons, List.append_assoc, readPattern_escapeChar, ih, Option.map_map]
    rfl

theorem isMatch_one {c : Char} {parts : List PatternPart} {t : List Char} :
    isMatch (.one c :: parts) t = true ↔ ∃ u, t = c :: u ∧ isMatch parts u = true := by
  cases t with
  | nil => simp [isMatch]
  | cons d t => simp [isMatch, and_assoc]

/-- Characters that stand for themselves match a text that starts with them. -/
theorem isMatch_literal {cs : List Char} {parts : List PatternPart} {t : List Char} :
    isMatch (cs.map .one ++ parts) t = true ↔ ∃ u, t = cs ++ u ∧ isMatch parts u = true := by
  induction cs generalizing t with
  | nil => simp
  | cons c cs ih =>
    rw [List.map_cons, List.cons_append, isMatch_one]
    constructor
    · rintro ⟨u, rfl, hu⟩
      obtain ⟨w, rfl, hw⟩ := ih.1 hu
      exact ⟨w, rfl, hw⟩
    · rintro ⟨w, rfl, hw⟩
      exact ⟨cs ++ w, rfl, ih.2 ⟨w, rfl, hw⟩⟩

theorem isMatch_anyRun {parts : List PatternPart} {t : List Char} :
    isMatch (.anyRun :: parts) t = true ↔ ∃ u, u <:+ t ∧ isMatch parts u = true := by
  rw [isMatch, List.any_eq_true]
  simp only [List.mem_tails]

theorem isMatch_nil {t : List Char} : isMatch [] t = true ↔ t = [] := by
  rw [isMatch, List.isEmpty_iff]

/-- A run at the end matches everything. -/
theorem isMatch_lastRun (t : List Char) : isMatch [.anyRun] t = true :=
  isMatch_anyRun.2 ⟨[], List.nil_suffix, rfl⟩

end MetricLayer.Sql

namespace MetricLayer.TextMatch

open MetricLayer.Sql

/-! ## The pattern of a match -/

/-- The text `t` holds the text `s` where the match looks for it. -/
def Finds (s t : List Char) : TextMatch → Prop
  | contains => s <:+: t
  | startsWith => s <+: t
  | endsWith => s <:+ t

/-- The parts of the pattern of a match. -/
def parts (s : List Char) : TextMatch → List PatternPart
  | contains => .anyRun :: (s.map .one ++ [.anyRun])
  | startsWith => s.map .one ++ [.anyRun]
  | endsWith => .anyRun :: s.map .one

theorem readPattern_pattern (m : TextMatch) (s : String) :
    readPattern (m.pattern s).toList = some (m.parts s.toList) := by
  have hrun : readPattern ['%'] = some [.anyRun] := rfl
  have hanywhere : ∀ cs, readPattern ('%' :: cs) = (readPattern cs).map (.anyRun :: ·) := by
    intro cs
    rw [readPattern]
  unfold pattern
  rw [String.toList_ofList]
  cases m with
  | contains =>
    show readPattern ('%' :: (_ ++ ['%'])) = _
    rw [hanywhere, readPattern_escaped, hrun]
    rfl
  | startsWith =>
    rw [readPattern_escaped, hrun]
    rfl
  | endsWith =>
    show readPattern ('%' :: s.toList.flatMap escapeChar) = _
    rw [hanywhere, ← List.append_nil (s.toList.flatMap escapeChar), readPattern_escaped]
    simp [readPattern, parts]

/-- The parts of a match match just the texts that hold the text. -/
theorem isMatch_parts (m : TextMatch) (s t : List Char) :
    isMatch (m.parts s) t = true ↔ m.Finds s t := by
  have hstarts : ∀ u, isMatch (s.map .one ++ [.anyRun]) u = true ↔ s <+: u := by
    intro u
    rw [isMatch_literal]
    constructor
    · rintro ⟨w, rfl, -⟩
      exact List.prefix_append s w
    · rintro ⟨w, rfl⟩
      exact ⟨w, rfl, isMatch_lastRun w⟩
  cases m with
  | contains =>
    rw [parts, isMatch_anyRun, Finds, List.infix_iff_prefix_suffix]
    simp only [hstarts, and_comm]
  | startsWith => exact hstarts t
  | endsWith =>
    have hwhole : ∀ u, isMatch (s.map .one) u = true ↔ u = s := by
      intro u
      rw [← List.append_nil (s.map PatternPart.one), isMatch_literal]
      simp only [isMatch_nil, exists_eq_right, List.append_nil]
    rw [parts, isMatch_anyRun, Finds]
    simp only [hwhole, exists_eq_right]

end MetricLayer.TextMatch

namespace MetricLayer.Sql

/-! ## The predicate of a match -/

/-- A column and a pattern with LIKE between them. -/
theorem like_reads {field column pattern literal : String} (hcolumn : sqlName field = .ok column)
    (hliteral : sqlText pattern = .ok literal) :
    ∃ ts, lex (column ++ " LIKE " ++ literal).toList = some ts ∧ Lexeme.comment ∉ ts
      ∧ readCondition ts = some (.predicate (.like false (.column field) (.text pattern))) := by
  obtain ⟨rfl, hne⟩ := sqlName_inv hcolumn
  obtain rfl := sqlText_inv hliteral
  have hlike := ((Lexes.keyword "LIKE" (w := "like") (by decide)).append (Lexes.text pattern).space
    (by simp [isBoundary])).space
  have hlex := (Lexes.name hne).append hlike (by simp [isBoundary])
  have hread := ReadsCondition.like (Reads.columnSum field) rfl
    (Reads.text pattern).signed.product.sum
  refine ⟨_, ?_, by simp, hread.factor.term.whole.readCondition_eq⟩
  simpa using hlex.lex_eq

theorem operatorPredicate_match (field : String) (m : TextMatch) (v : Value) :
    operatorPredicate field m.name v
      = sqlName field >>= fun column => likePredicate column m v := by
  cases m <;> rfl

/-- **A text is matched literally.**  The predicate that a column contains a text, starts with it or
ends with it has SQL for every column that has a name in SQL.  That is one LIKE about the column,
and its pattern matches exactly the texts that hold the text there. -/
theorem like_matches_literally (field : String) (m : TextMatch) (s : String)
    (hnul : '\x00' ∉ s.toList) :
    (Succeeds (operatorPredicate field m.name (.text s)) ↔ IsSqlName field)
    ∧ ∀ sql, operatorPredicate field m.name (.text s) = .ok sql →
      ∃ ts pattern parts, lex sql.toList = some ts ∧ Lexeme.comment ∉ ts
        ∧ readCondition ts = some (.predicate (.like false (.column field) (.text pattern)))
        ∧ readPattern pattern.toList = some parts
        ∧ ∀ t : String, isMatch parts t.toList = true ↔ m.Finds s.toList t.toList := by
  rw [operatorPredicate_match]
  constructor
  · rw [succeeds_bind, ← succeeds_sqlName]
    exact ⟨fun ⟨column, hcolumn, _⟩ => ⟨column, hcolumn⟩,
      fun ⟨column, hcolumn⟩ => ⟨column, hcolumn, likePredicate_of_noNul column m hnul⟩⟩
  · intro sql hsql
    obtain ⟨column, hcolumn, hsql⟩ := bind_eq_ok.1 hsql
    obtain ⟨literal, hliteral, hsql⟩ := bind_eq_ok.1 hsql
    obtain rfl := pure_eq_ok.1 hsql
    obtain ⟨ts, hlex, hcomment, hread⟩ := like_reads hcolumn hliteral
    exact ⟨ts, m.pattern s, m.parts s.toList, hlex, hcomment, hread, m.readPattern_pattern s,
      fun t => m.isMatch_parts s.toList t.toList⟩

/-- The wildcards of a text find themselves and nothing else. -/
theorem wildcards_match_literally :
    '\x00' ∉ "5%_\\'".toList
      ∧ ∃ sql pattern parts, operatorPredicate "no\"te" "contains" (.text "5%_\\'") = .ok sql
        ∧ (lex sql.toList).bind readCondition
          = some (.predicate (.like false (.column "no\"te") (.text pattern)))
        ∧ readPattern pattern.toList = some parts
        ∧ isMatch parts "now 5%_\\' off".toList = true
        ∧ isMatch parts "now 50%_\\' off".toList = false := by
  have hnul : '\x00' ∉ "5%_\\'".toList := by decide
  obtain ⟨hsucceeds, hreads⟩ := like_matches_literally "no\"te" .contains "5%_\\'" hnul
  obtain ⟨sql, hsql⟩ := hsucceeds.2 ⟨by decide, by decide⟩
  obtain ⟨ts, pattern, parts, hlex, -, hread, hparts, hmatch⟩ := hreads sql hsql
  refine ⟨hnul, sql, pattern, parts, hsql, by rw [hlex]; exact hread, hparts, ?_, ?_⟩
  · rw [hmatch]
    exact ⟨"now ".toList, " off".toList, by decide⟩
  · rw [← Bool.not_eq_true, hmatch]
    show ¬"5%_\\'".toList <:+: "now 50%_\\' off".toList
    decide

end MetricLayer.Sql
