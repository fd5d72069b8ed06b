import MetricLayer.Proofs.Metric.Executable

/-!
# Period and filters

The condition of a query over a period is put together from two texts, the predicate of the period
and the filters, and parentheses are decided on these texts.  Nonetheless it says exactly that the
row is in the period and that the filters hold, whatever the date column is called and whatever
texts the filters hold.  The same is true of the range of dates of a time series.

The two queries that compare periods are one text but for the predicate of the period.  For the
predicates of one pair begin alike and end without a connective, so either both stand in parentheses
or none (`yearPair_alike`, `monthPair_alike`).  `period_queries_mean` puts everything together.
-/

namespace MetricLayer

open Sql Text

/-! ## Ranges of dates -/

/-- The predicates of the range of dates of a time series. -/
def SeriesRequest.rangePredicates (r : SeriesRequest) : List Predicate :=
  (if r.start.isNull then [] else [.compare ">=" (.column r.dateField) (literalTerm r.start)])
    ++ if r.finish.isNull then [] else [.compare "<=" (.column r.dateField) (literalTerm r.finish)]

namespace Sql

/-- A column with operators is no connective when its filter has a text. -/
theorem ofWord?_of_operators {field sql : String} {operators : Fields}
    (h : filterSql (.object [(field, .object operators)]) = .ok sql) :
    Connective.ofWord? field = none := by
  cases hword : Connective.ofWord? field with
  | none => rfl
  | some connective =>
    rw [filterSql, readConditions, readFields, hword] at h
    cases h

/-- A bound that is not null is compared with the column. -/
theorem operatorAtom_of_comparison (field : String) {operator : String} {op : Comparison}
    {v : Value} (hop : Comparison.ofName? operator = some op) (hv : v.isNull = false) :
    operatorAtom field operator v = .compare op.sign (.column field) (literalTerm v) := by
  rw [operatorAtom, hop]
  exact if_neg (by rw [hv]; exact Bool.false_ne_true)

/-- The filter on the date column says that the date is in the range. -/
theorem rangeFilter_meaning {r : SeriesRequest} {sql : String}
    (h : filterSql (rangeFilter r) = .ok sql) :
    treeMeaning (rangeFilter r) = connected .and (r.rangePredicates.map Meaning.atom) := by
  unfold rangeFilter at h ⊢
  generalize hbounds : (if r.start.isNull then [] else [("gte", r.start)])
    ++ (if r.finish.isNull then [] else [("lte", r.finish)]) = bounds at h ⊢
  have hgte : Comparison.ofName? "gte" = some .gte := by decide
  have hlte : Comparison.ofName? "lte" = some .lte := by decide
  have hpredicates : r.rangePredicates
      = bounds.map fun f => operatorAtom r.dateField f.1 f.2 := by
    rw [← hbounds, SeriesRequest.rangePredicates, List.map_append]
    congr 1
    · cases hstart : r.start.isNull with
      | true => rfl
      | false =>
        have hbound := operatorAtom_of_comparison r.dateField hgte hstart
        exact congrArg (· :: []) hbound.symm
    · cases hfinish : r.finish.isNull with
      | true => rfl
      | false =>
        have hbound := operatorAtom_of_comparison r.dateField hlte hfinish
        exact congrArg (· :: []) hbound.symm
  rw [hpredicates]
  dsimp only at h ⊢
  by_cases hempty : bounds.isEmpty = true
  · rw [if_pos hempty, List.isEmpty_iff.1 hempty]
    rfl
  · rw [if_neg hempty] at h ⊢
    rw [treeMeaning, fieldMeanings, ofWord?_of_operators h, fieldMeanings, List.append_nil]
    rfl

/-! ## Texts that differ in a predicate -/

/-- A pattern without the character ends before it. -/
theorem isPrefixOf_separated {pattern : List Char} {c : Char} (hc : c ∉ pattern)
    (before after : List Char) :
    pattern.isPrefixOf (before ++ c :: after) = pattern.isPrefixOf before := by
  induction pattern generalizing before with
  | nil => rfl
  | cons d pattern ih =>
    rw [List.mem_cons, not_or] at hc
    cases before with
    | nil =>
      rw [List.nil_append, List.isPrefixOf_cons_cons, beq_false_of_ne (Ne.symm hc.1)]
      rfl
    | cons x before =>
      rw [List.cons_append, List.isPrefixOf_cons_cons, List.isPrefixOf_cons_cons, ih hc.2]

/-- What a character that is not in the pattern separates is searched part by part. -/
theorem occurs_separated {pattern : List Char} {c : Char} (hc : c ∉ pattern)
    (before after : List Char) :
    occurs pattern (before ++ c :: after) = (occurs pattern before || occurs pattern after) := by
  induction before with
  | nil =>
    have hhead : pattern.isPrefixOf (c :: after) = pattern.isPrefixOf [] :=
      isPrefixOf_separated hc [] after
    cases pattern <;> simp_all [occurs]
  | cons x before ih =>
    have hhead : pattern.isPrefixOf (x :: (before ++ c :: after))
        = pattern.isPrefixOf (x :: before) := isPrefixOf_separated hc (x :: before) after
    rw [List.cons_append, occurs, hhead, ih, ← Bool.or_assoc]
    rfl

/-- Whether a text needs parentheses does not depend on an end without connectives, if it does not
start with a parenthesis. -/
theorem needsParentheses_append {before after : String}
    (hhead : (before ++ ")" ++ after).toList.head? ≠ some '(')
    (hafter : (occurs " AND ".toList after.toList || occurs " OR ".toList after.toList) = false) :
    needsParentheses (before ++ ")" ++ after)
      = (occurs " AND ".toList before.toList || occurs " OR ".toList before.toList) := by
  have hopen : isEnclosed (before ++ ")" ++ after) = false := by
    rw [isEnclosed, decide_eq_false hhead]
    rfl
  have htext : (before ++ ")" ++ after).toList = before.toList ++ ')' :: after.toList := by
    simp
  rw [Bool.or_eq_false_iff] at hafter
  rw [needsParentheses, hopen, htext, occurs_separated (by decide), occurs_separated (by decide),
    hafter.1, hafter.2]
  simp

theorem yearPair_alike (column : String) :
    needsParentheses (yearPair column).current = needsParentheses (yearPair column).previous := by
  have hcurrent : (yearPair column).current
      = "EXTRACT(YEAR FROM " ++ column ++ ")" ++ " = EXTRACT(YEAR FROM CURRENT_DATE)" := by
    rw [← String.toList_inj]
    unfold yearPair
    simp
  have hprevious : (yearPair column).previous
      = "EXTRACT(YEAR FROM " ++ column ++ ")" ++ " = EXTRACT(YEAR FROM CURRENT_DATE) - 1" := by
    rw [← String.toList_inj]
    unfold yearPair
    simp
  rw [hcurrent, hprevious, needsParentheses_append (by simp) (by decide),
    needsParentheses_append (by simp) (by decide)]

theorem monthPair_alike (column : String) :
    needsParentheses (monthPair column).current = needsParentheses (monthPair column).previous := by
  have hcurrent : (monthPair column).current
      = "DATE_TRUNC('month', " ++ column ++ ")" ++ " = DATE_TRUNC('month', CURRENT_DATE)" := by
    rw [← String.toList_inj]
    unfold monthPair
    simp
  have hprevious : (monthPair column).previous = "DATE_TRUNC('month', " ++ column ++ ")"
      ++ " = DATE_TRUNC('month', CURRENT_DATE - INTERVAL '1 month')" := by
    rw [← String.toList_inj]
    unfold monthPair
    simp
  rw [hcurrent, hprevious, needsParentheses_append (by simp) (by decide),
    needsParentheses_append (by simp) (by decide)]

/-- Conditions with the same filters are one text but for the predicate before the filters. -/
theorem conjunction_around {p q : String} (hp : p ≠ "") (hq : q ≠ "")
    (halike : needsParentheses p = needsParentheses q) (filters : String) :
    ∃ before after, conjunction [p, filters] = before ++ p ++ after
      ∧ conjunction [q, filters] = before ++ q ++ after := by
  by_cases hfilters : filters = ""
  · have halone : ∀ s : String, s ≠ "" → conjunction [s, filters] = "" ++ s ++ "" := by
      intro s hs
      rw [String.empty_append, String.append_empty]
      simp [conjunction, hs, hfilters]
    exact ⟨"", "", halone p hp, halone q hq⟩
  · have hboth : ∀ s : String, s ≠ "" →
        conjunction [s, filters] = parenthesised s ++ (" AND " ++ parenthesised filters) := by
      intro s hs
      simp [conjunction, hs, hfilters, joined, String.append_assoc]
    by_cases hneeds : needsParentheses p = true
    · refine ⟨"(", ")" ++ (" AND " ++ parenthesised filters), ?_, ?_⟩
      · rw [hboth p hp, parenthesised, if_pos hneeds]
        simp only [String.append_assoc]
      · rw [hboth q hq, parenthesised, if_pos (halike ▸ hneeds)]
        simp only [String.append_assoc]
    · refine ⟨"", " AND " ++ parenthesised filters, ?_, ?_⟩
      · rw [hboth p hp, parenthesised, if_neg hneeds, String.empty_append]
      · rw [hboth q hq, parenthesised, if_neg (halike ▸ hneeds), String.empty_append]

/-- The text of a statement around its condition. -/
theorem statement_around {select : List String} {table condition sql : String}
    (hcondition : condition ≠ "")
    (h : Statement.render ⟨select, table, condition, [], []⟩ = .ok sql) :
    ∃ name, sqlName table = .ok name
      ∧ sql = "SELECT " ++ joined ", " select ++ " FROM " ++ name ++ " WHERE " ++ condition := by
  obtain ⟨name, hname, h⟩ := bind_eq_ok.1 h
  refine ⟨name, hname, ?_⟩
  rw [← pure_eq_ok.1 h, if_neg hcondition, ← String.toList_inj]
  simp [listClause, joined]

/-- The queries of the two periods are one text but for the predicate of the period. -/
theorem comparisonStatement_around {r : MetricRequest} {inner : Expr} {pair : PeriodPair}
    {sql : String} (hcurrent : pair.current ≠ "") (hprevious : pair.previous ≠ "")
    (halike : needsParentheses pair.current = needsParentheses pair.previous)
    (h : comparisonStatement r inner pair = .ok sql) :
    ∃ before after, sql = comparisonText pair.change (before ++ pair.current ++ after)
      (before ++ pair.previous ++ after) := by
  obtain ⟨value, filters, current, previous, -, -, hfirst, hsecond, rfl⟩ :=
    comparisonStatement_eq_ok h
  obtain ⟨before, after, hthis, hlast⟩ := conjunction_around hcurrent hprevious halike filters
  have hne : ∀ {s : String}, s ≠ "" → before ++ s ++ after ≠ "" := by
    intro s hs hempty
    have hchars := congrArg String.toList hempty
    rw [String.toList_append, String.toList_append, String.toList_empty, List.append_eq_nil_iff,
      List.append_eq_nil_iff] at hchars
    exact hs (String.toList_inj.1 (hchars.1.2.trans String.toList_empty.symm))
  rw [hthis] at hfirst
  rw [hlast] at hsecond
  obtain ⟨name, hname, rfl⟩ := statement_around (hne hcurrent) hfirst
  obtain ⟨name', hname', rfl⟩ := statement_around (hne hprevious) hsecond
  obtain rfl : name = name' := Except.ok.inj (hname.symm.trans hname')
  refine ⟨"SELECT " ++ joined ", " [value ++ " AS value"] ++ " FROM " ++ name ++ " WHERE "
    ++ before, after, ?_⟩
  simp only [String.append_assoc]

/-- The predicates, as texts, of the two periods that a time function compares. -/
def comparedPair? (column : String) : TimeFunction → Option PeriodPair
  | .yoy => some (yearPair column)
  | .mom => some (monthPair column)
  | _ => none

theorem timeQuery_around {r : MetricRequest} {func : TimeFunction} {text sql column : String}
    {pair : PeriodPair} (h : timeQuery r func text = .ok sql)
    (hcolumn : sqlName (r.dateField.getD "") = .ok column)
    (hpair : comparedPair? column func = some pair) :
    ∃ before after, sql = comparisonText pair.change (before ++ pair.current ++ after)
      (before ++ pair.previous ++ after) := by
  obtain ⟨shape, args, column', hshape, -, hcolumn', hstatement⟩ := timeQuery_eq_ok h
  obtain rfl : column = column' := Except.ok.inj (hcolumn.symm.trans hcolumn')
  cases func with
  | yoy =>
    cases hpair
    cases hshape
    obtain ⟨hthis, hlast⟩ := yearPair_pieces hcolumn
    exact comparisonStatement_around hthis.reads.ne_empty hlast.reads.ne_empty
      (yearPair_alike column) hstatement
  | mom =>
    cases hpair
    cases hshape
    obtain ⟨hthis, hlast⟩ := monthPair_pieces hcolumn
    exact comparisonStatement_around hthis.reads.ne_empty hlast.reads.ne_empty
      (monthPair_alike column) hstatement
  | _ => cases hpair

end Sql

/-! ## What the queries mean -/

/-- Whatever the date column is called and whatever the filters say, each time that the query of a
time function reads its table, the condition is exactly the predicate of a period and the filters,
and the queries of two periods that are compared are one text but for that predicate.  A time series
reads its table under exactly the filters and its range of dates. -/
theorem period_queries_mean :
    (∀ (func : TimeFunction) (text : String) (dependencies : List String) (r : MetricRequest)
      (sql : String), (Compiled.timeIntel func text dependencies).query r = .ok sql →
        ReadsUnder sql r.table
          ((periodsOf (r.dateField.getD "") func).map (periodCondition r.filters))
        ∧ ∀ column pair, sqlName (r.dateField.getD "") = .ok column →
          comparedPair? column func = some pair →
            ∃ before after, sql = comparisonText pair.change (before ++ pair.current ++ after)
              (before ++ pair.previous ++ after))
    ∧ ∀ (r : SeriesRequest) (table sql : String), r.render table = .ok sql →
      ReadsUnder sql table [together [treeMeaning r.filters,
        connected .and (r.rangePredicates.map Meaning.atom)]] := by
  refine ⟨?_, ?_⟩
  · intro func text dependencies r sql h
    exact ⟨(timeQuery_readsUnder h).2, fun column pair hcolumn hpair =>
      timeQuery_around h hcolumn hpair⟩
  · intro r table sql h
    obtain ⟨⟨-, range, hrange⟩, hquery⟩ := series_queries h
    rw [rangeFilter_meaning hrange] at hquery
    exact hquery.readsUnder

/-- A date column whose name means to end the predicate of the period. -/
def trickyDay : String := "day\" AND (night OR 'x"

/-- Filters with connectives in a name and in a text. -/
def trickyFilters : Value :=
  .object [("OR", .list [.object [("a AND b", .text "x' OR '1' = '1")], .object [("b", .null)]])]

/-- A request over these. -/
def trickyRequest : MetricRequest := ⟨"orders", trickyFilters, [], some trickyDay⟩

/-- A time series from a day on over these. -/
def trickySeries : SeriesRequest :=
  ⟨[], trickyDay, "month", .text "2024-01-01", .null, trickyFilters⟩

/-- The tokens of `YOY(amount)`. -/
def yearlyTokens : List Token :=
  [⟨.name, "YOY".toList, 0⟩, ⟨.leftParen, ['('], 3⟩, ⟨.name, "amount".toList, 4⟩,
    ⟨.rightParen, [')'], 10⟩]

theorem tokens_yearly : Lexer.tokens "YOY(amount)".toList = .ok yearlyTokens := by
  have hfield : Lexer.tokensFrom 4 "amount)".toList
      = .ok [⟨.name, "amount".toList, 4⟩, ⟨.rightParen, [')'], 10⟩] := by
    rw [show "amount)".toList = 'a' :: ("mount".toList ++ [')']) from rfl,
      Lexer.tokensFrom_name 4 (by decide) (List.all_eq_true.1 (by decide)) (by rintro d ⟨⟩; decide),
      Lexer.tokensFrom_rightParen]
    rfl
  rw [show "YOY(amount)".toList = 'Y' :: ("OY".toList ++ '(' :: "amount)".toList) from rfl,
    Lexer.tokens,
    Lexer.tokensFrom_name 0 (by decide) (List.all_eq_true.1 (by decide)) (by rintro d ⟨⟩; decide),
    Lexer.tokensFrom_leftParen, show 0 + ('Y' :: "OY".toList).length + 1 = 4 from rfl, hfield]
  rfl

theorem storedCall_yearly : storedCall .yoy "amount" = .ok [.field "amount"] := by
  have hparse : Expr.parse "YOY(amount)" = .ok (.timeCall .yoy [.field "amount"] "amount") := by
    refine Expr.parse_eq_ok.2 ⟨by decide, by decide, ?_⟩
    have hstripped : stripBlanks "YOY(amount)".toList = "YOY(amount)".toList := by decide
    rw [hstripped]
    refine Parser.parseChars_complete tokens_yearly (by decide) (.sum (.product (.signed ?_)))
    have hname : (⟨.name, "amount".toList, 4⟩ : Token).text = "amount" := by cbv
    have hfield : Derives "YOY(amount)".toList (.primary (.field "amount"))
        [⟨.name, "amount".toList, 4⟩] := hname ▸ .loneField rfl
    have hyoy : TimeFunction.ofUpper? (⟨.name, "YOY".toList, 0⟩ : Token).upper = some .yoy := by cbv
    have hleft : (⟨.leftParen, ['('], 3⟩ : Token).kind = .leftParen := rfl
    have hright : (⟨.rightParen, [')'], 10⟩ : Token).kind = .rightParen := rfl
    exact .timeCall rfl hyoy hleft (.lastArgument (.sum (.product (.signed hfield)))) hright
  rw [storedCall, show TimeFunction.yoy.name ++ "(" ++ "amount" ++ ")" = "YOY(amount)" by decide,
    hparse]
  rfl

theorem trickyPeriods_mean :
    (∃ sql before after, (Compiled.timeIntel .yoy "amount" []).query trickyRequest = .ok sql
      ∧ ReadsUnder sql "orders" [periodCondition trickyFilters (some (.thisYear trickyDay)),
          periodCondition trickyFilters (some (.lastYear trickyDay))]
      ∧ sql = comparisonText "yoy_change"
          (before ++ (yearPair (enclosed '"' trickyDay)).current ++ after)
          (before ++ (yearPair (enclosed '"' trickyDay)).previous ++ after))
    ∧ ∃ sql, trickySeries.render "orders" = .ok sql
      ∧ ReadsUnder sql "orders" [together [treeMeaning trickyFilters, connected .and
          [Meaning.atom (.compare ">=" (.column trickyDay) (.text "2024-01-01"))]]] := by
  obtain ⟨hperiods, hseries⟩ := period_queries_mean
  have hwritable : trickyRequest.IsWritable :=
    ⟨⟨by decide, by decide⟩, succeeds_ok _, ⟨_, rfl⟩, trickyDay, rfl, ⟨by decide, by decide⟩⟩
  have hquery : ∃ sql, (Compiled.timeIntel .yoy "amount" []).query trickyRequest = .ok sql := by
    refine failure?_eq_none.1 ?_
    rw [Compiled.query, timeQuery_failure? hwritable rfl storedCall_yearly]
    rfl
  have hrender : ∃ sql, trickySeries.render "orders" = .ok sql := ⟨_, rfl⟩
  have hcolumn : sqlName trickyDay = .ok (enclosed '"' trickyDay) := rfl
  obtain ⟨sql, hsql⟩ := hquery
  obtain ⟨hreads, haround⟩ := hperiods _ _ _ _ _ hsql
  obtain ⟨before, after, htext⟩ := haround _ _ hcolumn rfl
  obtain ⟨series, hseriesSql⟩ := hrender
  exact ⟨⟨sql, before, after, hsql, hreads, htext⟩, series, hseriesSql, hseries _ _ _ hseriesSql⟩

end MetricLayer
