import MetricLayer.Proofs.Metric.Diagnosis
import MetricLayer.Proofs.Metric.Kind
import MetricLayer.Proofs.Metric.StoredForm
import MetricLayer.Proofs.Warehouse.Contents

/-!
# Which metrics have a query

A text that compiles has a query unless one of three things is in the way (`query_of_valid`).  Three
of the time functions have no rendering; a name that is blank or holds a NUL, or a text that holds a
NUL, cannot be written as SQL (`IsQueryable`); and the window of a rolling function may be a number
of more digits than are read (`HasLongWindow`).  Compiling looks for none of them.

The way there is `Expr.render_failure?`: an expression has no SQL for the reason of the first part,
in reading order, that has none of its own.
-/

namespace MetricLayer

open MetricLayer.Parser MetricLayer.Text

/-! ## Names and texts -/

/-- The text can be a name in SQL: it is not blank and holds no NUL. -/
def IsSqlName (name : String) : Prop := isBlankText name = false ∧ '\x00' ∉ name.toList

theorem holdsNul_eq_false {s : String} : holdsNul s = false ↔ '\x00' ∉ s.toList := by
  rw [holdsNul, ← Bool.not_eq_true, List.contains_iff_mem]

theorem succeeds_sqlName {name : String} : Succeeds (sqlName name) ↔ IsSqlName name := by
  rw [IsSqlName, ← holdsNul_eq_false, sqlName]
  cases isBlankText name with
  | true => exact iff_of_false (not_succeeds_error _) fun h => absurd h.1 (by decide)
  | false =>
    cases holdsNul name with
    | true => exact iff_of_false (not_succeeds_error _) fun h => absurd h.2 (by decide)
    | false => exact iff_of_true (succeeds_ok _) ⟨rfl, rfl⟩

theorem succeeds_sqlText {value : String} : Succeeds (sqlText value) ↔ '\x00' ∉ value.toList := by
  rw [← holdsNul_eq_false, sqlText]
  cases holdsNul value with
  | true => exact iff_of_false (not_succeeds_error _) (by decide)
  | false => exact iff_of_true (succeeds_ok _) rfl

theorem IsSqlName.ne_empty {name : String} (h : IsSqlName name) : name ≠ "" := by
  rintro rfl
  exact absurd h.1 (by decide)

/-! ## Expressions -/

namespace Expr

/-- Why an expression has no SQL, its parts apart. -/
def ownFailure? : Expr → Option Failure
  | .string value => failure? (sqlText value)
  | .field name => failure? (sqlName name)
  | .timeCall func _ _ => some (.expression (.embeddedTimeCall func))
  | _ => none

mutual

/-- An expression has no SQL for the reason of the first part that has none of its own. -/
theorem render_failure? : (e : Expr) → failure? e.render = e.subterms.findSome? ownFailure?
  | .number text => rfl
  | .string value => by
    rw [render, subterms, List.findSome?_singleton, ownFailure?]
  | .field name => by
    rw [render, subterms, List.findSome?_singleton, ownFailure?]
  | .star => rfl
  | .negate operand => by
    rw [render, failure?_bind_pure, render_failure? operand]
    rfl
  | .binary op left right => by
    rw [render, failure?_bind fun _ _ => failure?_bind_pure, render_failure? left,
      render_failure? right, ← List.findSome?_append]
    rfl
  | .aggregate func argument distinct => by
    rw [render, failure?_bind_pure, render_failure? argument]
    rfl
  | .call name args => by
    rw [render, failure?_bind_pure, renderArgs_failure? args]
    rfl
  | .timeCall func args argsText => rfl

theorem renderArgs_failure? : (es : List Expr) →
    failure? (renderArgs es) = (subtermsOf es).findSome? ownFailure?
  | [] => rfl
  | e :: rest => by
    rw [renderArgs, failure?_bind fun _ _ => failure?_bind_pure, render_failure? e,
      renderArgs_failure? rest, ← List.findSome?_append]
    rfl

end

/-- The names and the texts of the expression can be written as SQL. -/
structure IsWritable (e : Expr) : Prop where
  /-- No name is blank or holds a NUL. -/
  names : ∀ name, .field name ∈ e.subterms → IsSqlName name
  /-- No text holds a NUL. -/
  texts : ∀ value, .string value ∈ e.subterms → '\x00' ∉ value.toList

theorem succeeds_render {e : Expr} (h : e.containsTimeCall = false) :
    Succeeds e.render ↔ e.IsWritable := by
  rw [← failure?_eq_none, render_failure?, List.findSome?_eq_none_iff]
  rw [containsTimeCall_eq_false] at h
  constructor
  · intro hnone
    exact ⟨fun name hname => succeeds_sqlName.1 (failure?_eq_none.1 (hnone _ hname)),
      fun value hvalue => succeeds_sqlText.1 (failure?_eq_none.1 (hnone _ hvalue))⟩
  · intro hwritable t ht
    cases t with
    | string value => exact failure?_eq_none.2 (succeeds_sqlText.2 (hwritable.texts value ht))
    | field name => exact failure?_eq_none.2 (succeeds_sqlName.2 (hwritable.names name ht))
    | timeCall => cases h _ ht
    | _ => rfl

theorem render_failsInText {e : Expr} (h : e.containsTimeCall = false) : FailsInText e.render := by
  intro failure hfailure
  rw [← failure?_eq_some, render_failure?] at hfailure
  obtain ⟨t, ht, hown⟩ := List.exists_of_findSome?_eq_some hfailure
  cases t with
  | string value => exact sqlLiteral_failsInText (.text value) failure (failure?_eq_some.1 hown)
  | field name => exact sqlName_failsInText name failure (failure?_eq_some.1 hown)
  | timeCall => cases containsTimeCall_eq_false.1 h _ ht
  | _ => cases hown

theorem renderAsAggregate_failure? (e : Expr) (fallback : Aggregate) :
    failure? (e.renderAsAggregate fallback) = failure? e.render := by
  rw [renderAsAggregate, failure?_bind_pure]

end Expr

/-! ## Windows -/

theorem readDigits?_isSome {cs : List Char} :
    (readDigits? cs).isSome = true ↔ ∀ c ∈ cs, isDigit c = true := by
  have hfold : ∀ (cs : List Char) (read : Option Nat),
      (cs.foldl (fun n c => n.bind fun n => (digitValue? c).map (10 * n + ·)) read).isSome
        = (read.isSome && cs.all isDigit) := by
    intro cs
    induction cs with
    | nil => simp
    | cons c cs ih =>
      intro read
      rw [List.foldl_cons, ih, List.all_cons, isDigit]
      cases read <;> simp
  rw [readDigits?, hfold, Option.isSome_some, Bool.true_and, List.all_eq_true]

/-- The window, the last of several arguments, is a whole number of more digits than are read. -/
def IsLongWindow (args : List Expr) : Prop :=
  ∃ digits, args.tail.getLast? = some (.number digits) ∧ (∀ c ∈ digits.toList, isDigit c = true)
    ∧ digitLimit < digits.length

theorem succeeds_windowOf {args : List Expr} : Succeeds (windowOf args) ↔ ¬IsLongWindow args := by
  match args with
  | [] | [_] => exact iff_of_true (succeeds_ok _) (by rintro ⟨_, h, -⟩; cases h)
  | first :: second :: others =>
    rw [IsLongWindow, List.tail_cons, windowOf, List.getLast?_cons_cons]
    cases hlast : (second :: others).getLast? with
    | none => exact iff_of_true (succeeds_ok _) (by rintro ⟨_, h, -⟩; cases h)
    | some last =>
      cases last with
      | number text =>
        have hlong : (∃ digits, some (Expr.number text) = some (.number digits)
            ∧ (∀ c ∈ digits.toList, isDigit c = true) ∧ digitLimit < digits.length)
            ↔ (readDigits? text.toList).isSome = true ∧ digitLimit < text.length := by
          rw [readDigits?_isSome]
          simp
        rw [hlong]
        dsimp only
        cases readDigits? text.toList with
        | none => exact iff_of_true (succeeds_ok _) (by simp)
        | some n =>
          dsimp only
          rw [Option.isSome_some, eq_self, true_and]
          by_cases hlimit : digitLimit < text.length
          · rw [if_pos hlimit]
            exact iff_of_false (not_succeeds_error _) (not_not_intro hlimit)
          · rw [if_neg hlimit]
            exact iff_of_true (succeeds_ok _) hlimit
      | _ => exact iff_of_true (succeeds_ok _) (by rintro ⟨_, h, -⟩; cases h)

theorem windowOf_failsInText (args : List Expr) : FailsInText (windowOf args) := by
  unfold windowOf
  split
  · split
    · split
      · split_ifs <;> first | exact .of_error _ | exact .of_ok _
      · exact .of_ok _
    · exact .of_ok _
  · exact .of_ok _

/-! ## Statements -/

/-- Everything that a request asks for beside the metric can be written as SQL. -/
structure MetricRequest.IsWritable (r : MetricRequest) : Prop where
  /-- The table has a name. -/
  table : IsSqlName r.table
  /-- The columns to group by have names. -/
  groups : Succeeds (sqlNames r.groupBy)
  /-- The filters have SQL. -/
  filters : Succeeds (filterSql r.filters)
  /-- There is a date column, and it has a name. -/
  date : ∃ field, r.dateField = some field ∧ IsSqlName field

theorem isWritable_plain {table field : String} (htable : IsSqlName table)
    (hfield : IsSqlName field) : (⟨table, .null, [], some field⟩ : MetricRequest).IsWritable :=
  ⟨htable, succeeds_ok _, succeeds_ok "", field, rfl, hfield⟩

section Statements

variable {r : MetricRequest} (hr : r.IsWritable)

theorem statement_failure? {s : Statement} (h : IsSqlName s.table) : failure? s.render = none :=
  failure?_eq_none.2 (succeeds_bind_pure.2 (succeeds_sqlName.2 h))

include hr

theorem groupedQuery_failure? (groups : List String) (value : String) :
    failure? (groupedQuery r groups value) = none := by
  obtain ⟨condition, hcondition⟩ := hr.filters
  rw [groupedQuery, hcondition]
  exact statement_failure? hr.table

theorem toDateStatement_failure? (inner : Expr) (period column : String) :
    failure? (toDateStatement r inner period column) = failure? inner.render := by
  obtain ⟨groups, hgroups⟩ := hr.groups
  obtain ⟨condition, hcondition⟩ := hr.filters
  rw [toDateStatement, hgroups, hcondition]
  show failure? (inner.renderAsAggregate .sum >>= fun _ => Statement.render _) = _
  rw [failure?_bind fun _ _ => statement_failure? hr.table, Expr.renderAsAggregate_failure?,
    Option.or_none]

theorem comparisonStatement_failure? (inner : Expr) (pair : PeriodPair) :
    failure? (comparisonStatement r inner pair) = failure? inner.render := by
  obtain ⟨condition, hcondition⟩ := hr.filters
  rw [comparisonStatement, hcondition]
  refine (failure?_bind fun value _ => ?_).trans
    (Option.or_none.trans (inner.renderAsAggregate_failure? .sum))
  -- both statements are about one table
  show failure? (Statement.render _ >>= fun _ => Statement.render _ >>= fun _ => pure _) = _
  rw [failure?_bind fun _ _ => failure?_bind_pure, statement_failure? hr.table,
    statement_failure? hr.table]
  rfl

theorem rollingStatement_failure? (func : Aggregate) (args : List Expr) (inner : Expr)
    (column : String) : failure? (rollingStatement r func args inner column)
      = (failure? (windowOf args)).or (failure? inner.render) := by
  obtain ⟨groups, hgroups⟩ := hr.groups
  obtain ⟨condition, hcondition⟩ := hr.filters
  rw [rollingStatement, hgroups, hcondition]
  refine failure?_bind fun rows _ => ?_
  show failure? (inner.render >>= fun _ => Statement.render _) = _
  rw [failure?_bind fun _ _ => statement_failure? hr.table, Option.or_none]

/-- Why the window of a rolling function cannot be read; the other functions have none. -/
def TimeShape.windowFailure? (args : List Expr) : TimeShape → Option Failure
  | rolling _ => failure? (windowOf args)
  | _ => none

theorem timeQuery_failure? {func : TimeFunction} {shape : TimeShape} {text : String}
    {args : List Expr} (hshape : func.shape? = some shape) (hargs : storedCall func text = .ok args) :
    failure? (timeQuery r func text)
      = (shape.windowFailure? args).or (failure? (args.headD .star).render) := by
  obtain ⟨field, hfield, hname⟩ := hr.date
  obtain ⟨column, hcolumn⟩ := succeeds_sqlName.2 hname
  rw [timeQuery, hshape]
  simp only [hfield, Option.getD_some, if_neg hname.ne_empty]
  rw [hargs]
  show failure? (sqlName field >>= fun _ => _) = _
  rw [hcolumn]
  cases shape with
  | toDate period => exact toDateStatement_failure? hr _ period column
  | yearOverYear => exact comparisonStatement_failure? hr _ (yearPair column)
  | monthOverMonth => exact comparisonStatement_failure? hr _ (monthPair column)
  | rolling func => exact rollingStatement_failure? hr func args _ column

/-- An aggregate or a formula has a query when it has SQL as a part of one. -/
theorem ordinaryQuery_failure? {c : Compiled} (h : c.isTimeIntel = false) :
    failure? (c.query r) = failure? c.selectExpression := by
  obtain ⟨groups, hgroups⟩ := hr.groups
  cases c with
  | aggregation func field =>
    rw [Compiled.query, hgroups]
    show failure? (aggregateOf func field >>= fun _ => groupedQuery r groups _) = _
    rw [failure?_bind fun _ _ => groupedQuery_failure? hr groups _, Option.or_none]
    rfl
  | formula text dependencies =>
    rw [Compiled.query, hgroups, Compiled.selectExpression, failure?_bind_pure]
    show failure? (formulaSql text >>= fun _ => groupedQuery r groups _) = _
    rw [failure?_bind fun _ _ => groupedQuery_failure? hr groups _, Option.or_none]
  | timeIntel => cases h

end Statements

/-! ## Compiled texts -/

namespace Expr

/-- The part of an expression that its query is made of: the first argument of a time function, all
of any other expression. -/
def queried : Expr → Expr
  | .timeCall _ args _ => args.headD .star
  | e => e

theorem queried_of_isTimeCall {e : Expr} (h : e.isTimeCall = false) : e.queried = e := by
  cases e <;> first | rfl | cases h

end Expr

/-- What a text that compiles means, and that no time function is called inside it. -/
theorem ofText_queried {text : String} {c : Compiled} (h : Compiled.ofText text = .ok c) :
    ∃ e, Expr.parse text = .ok e ∧ c.Means e ∧ c.isTimeIntel = e.isTimeCall
      ∧ e.queried.containsTimeCall = false := by
  obtain ⟨e, hparse, hmeans⟩ := ofText_means h
  refine ⟨e, hparse, hmeans, ?_⟩
  obtain ⟨-, hcompiles⟩ := (Compiled.ofText_of_parse hparse).1 h
  cases hcompiles with
  | @timeIntel func args argsText hargs =>
    refine ⟨rfl, ?_⟩
    cases args with
    | nil => rfl
    | cons first others => exact hargs first List.mem_cons_self
  | aggregation => exact ⟨rfl, rfl⟩
  | formula _ hcall =>
    have htime := Expr.isTimeCall_of_contains hcall
    rw [htime, Expr.queried_of_isTimeCall htime]
    exact ⟨rfl, hcall⟩

/-! ## Queries -/

namespace Expr

/-- The time function that an expression calls, if it is one that no query is built for. -/
def unsupportedCall? : Expr → Option TimeFunction
  | .timeCall func _ _ => if func ∈ [.qoq, .previousPeriod, .cagr] then some func else none
  | _ => none

/-- The window of a rolling function is a whole number of more digits than are read. -/
def HasLongWindow : Expr → Prop
  | .timeCall func args _ =>
    func ∈ [TimeFunction.rollingAverage, .rollingSum] ∧ IsLongWindow args
  | _ => False

/-- The query of the expression can be written: the names and texts that it is made of have SQL, and
its window is read. -/
structure IsQueryable (e : Expr) : Prop where
  /-- The names and texts have SQL. -/
  writable : e.queried.IsWritable
  /-- The window is read. -/
  window : ¬e.HasLongWindow

end Expr

theorem shape?_eq_none {func : TimeFunction} :
    func.shape? = none ↔ func ∈ [.qoq, .previousPeriod, .cagr] := by
  cases func <;> simp [TimeFunction.shape?]

theorem windowFailure?_eq_none {func : TimeFunction} {shape : TimeShape} {args : List Expr}
    (hshape : func.shape? = some shape) : shape.windowFailure? args = none
      ↔ ¬(func ∈ [TimeFunction.rollingAverage, .rollingSum] ∧ IsLongWindow args) := by
  cases func <;> cases hshape <;>
    simp [TimeShape.windowFailure?, failure?_eq_none, succeeds_windowOf]

theorem selectExpression_failure? {c : Compiled} {e : Expr} (hmeans : c.Means e)
    (h : c.isTimeIntel = false) : failure? c.selectExpression = failure? e.render := by
  cases c with
  | aggregation func field => rw [show Compiled.selectExpression _ = _ from hmeans]
  | formula text dependencies =>
    rw [show Compiled.selectExpression _ = _ from hmeans]
    cases e.render <;> rfl
  | timeIntel => cases h

theorem windowFailure?_sqlText {shape : TimeShape} {args : List Expr} {failure : Failure}
    (h : shape.windowFailure? args = some failure) : ∃ fault, failure = .sqlText fault := by
  cases shape with
  | rolling func => exact windowOf_failsInText args failure (failure?_eq_some.1 h)
  | _ => cases h

section Compiled

variable {r : MetricRequest} {c : Compiled} {e : Expr}

/-- The query of an aggregate or a formula. -/
theorem ordinaryQuery_outcome (hr : r.IsWritable) (hmeans : c.Means e)
    (hkind : c.isTimeIntel = false) (hcalls : e.containsTimeCall = false) :
    (Succeeds (c.query r) ↔ e.IsWritable) ∧ FailsInText (c.query r) := by
  have hfailure := (ordinaryQuery_failure? hr hkind).trans (selectExpression_failure? hmeans hkind)
  constructor
  · rw [← failure?_eq_none, hfailure, failure?_eq_none, Expr.succeeds_render hcalls]
  · intro failure hquery
    rw [← failure?_eq_some, hfailure, failure?_eq_some] at hquery
    exact Expr.render_failsInText hcalls failure hquery

/-- The query of a time function that has a rendering. -/
theorem timeQuery_outcome (hr : r.IsWritable) {func : TimeFunction} {shape : TimeShape}
    {text : String} {args : List Expr} (hshape : func.shape? = some shape)
    (hargs : storedCall func text = .ok args)
    (hcalls : (args.headD .star).containsTimeCall = false) :
    (Succeeds (timeQuery r func text)
      ↔ shape.windowFailure? args = none ∧ (args.headD .star).IsWritable)
    ∧ FailsInText (timeQuery r func text) := by
  have hfailure := timeQuery_failure? hr hshape hargs
  constructor
  · rw [← failure?_eq_none, hfailure, Option.or_eq_none_iff, failure?_eq_none,
      Expr.succeeds_render hcalls]
  · intro failure hquery
    rw [← failure?_eq_some, hfailure, Option.or_eq_some_iff] at hquery
    rcases hquery with hwindow | ⟨-, hrender⟩
    · exact windowFailure?_sqlText hwindow
    · exact Expr.render_failsInText hcalls failure (failure?_eq_some.1 hrender)

/-- A text that compiles has a query exactly if the query can be written, unless its time function
is not supported. -/
theorem query_of_ofText (hr : r.IsWritable) {text : String} (h : Compiled.ofText text = .ok c) :
    ∃ e, Expr.parse text = .ok e ∧ match e.unsupportedCall? with
      | some func => c.query r = .error (.unsupportedTimeFunction func)
      | none => (Succeeds (c.query r) ↔ e.IsQueryable) ∧ FailsInText (c.query r) := by
  obtain ⟨e, hparse, hmeans, hkind, hcalls⟩ := ofText_queried h
  refine ⟨e, hparse, ?_⟩
  cases c with
  | timeIntel func argsText dependencies =>
    obtain ⟨args, rfl, -, hargs⟩ := hmeans
    rw [Expr.unsupportedCall?]
    cases hshape : func.shape? with
    | none =>
      rw [if_pos (shape?_eq_none.1 hshape)]
      show timeQuery r func argsText = _
      rw [timeQuery, hshape]
      rfl
    | some shape =>
      have hsupported : func ∉ [.qoq, .previousPeriod, .cagr] := by
        rw [← shape?_eq_none, hshape]
        exact Option.some_ne_none shape
      obtain ⟨hsucceeds, hfails⟩ := timeQuery_outcome hr hshape hargs hcalls
      rw [if_neg hsupported]
      refine ⟨hsucceeds.trans ?_, hfails⟩
      rw [windowFailure?_eq_none hshape]
      exact ⟨fun h => ⟨h.2, h.1⟩, fun h => ⟨h.window, h.writable⟩⟩
  | _ =>
    have hcall : e.isTimeCall = false := hkind.symm
    obtain ⟨hunsupported, hlong⟩ : e.unsupportedCall? = none ∧ ¬e.HasLongWindow := by
      cases e <;> first | exact ⟨rfl, not_false⟩ | cases hcall
    have hall := Expr.queried_of_isTimeCall hcall
    rw [hall] at hcalls
    obtain ⟨hsucceeds, hfails⟩ := ordinaryQuery_outcome hr hmeans rfl hcalls
    rw [hunsupported]
    exact ⟨hsucceeds.trans ⟨fun h => ⟨hall.symm ▸ h, hlong⟩, fun h => hall ▸ h.writable⟩, hfails⟩

end Compiled

/-- A text that is reported as valid compiles.  Its query is refused if it calls a time function
without a rendering.  Otherwise there is one for every table and date column exactly if the names
and texts that it is made of have SQL and its window is read, and a failure is one of writing
SQL. -/
theorem query_of_valid {text table field : String} (hvalid : (diagnose text).isValid = true)
    (htable : IsSqlName table) (hfield : IsSqlName field) :
    ∃ c e, Compiled.ofText text = .ok c ∧ Expr.parse text = .ok e ∧ match e.unsupportedCall? with
      | some func =>
        c.query ⟨table, .null, [], some field⟩ = .error (.unsupportedTimeFunction func)
      | none => ((∃ sql, c.query ⟨table, .null, [], some field⟩ = .ok sql) ↔ e.IsQueryable)
        ∧ ∀ failure, c.query ⟨table, .null, [], some field⟩ = .error failure →
          ∃ fault, failure = .sqlText fault := by
  obtain ⟨c, hc⟩ := isValid_iff.1 hvalid
  obtain ⟨e, hparse, hquery⟩ := query_of_ofText (isWritable_plain htable hfield) hc
  exact ⟨c, e, hc, hparse, hquery⟩

theorem quotedParentheses_query :
    (diagnose quotedParentheses).isValid = true ∧ IsSqlName "t" ∧ IsSqlName "d"
      ∧ ∃ c sql, Compiled.ofText quotedParentheses = .ok c
        ∧ c.query ⟨"t", .null, [], some "d"⟩ = .ok sql := by
  have hleading : Compiled.leadingTimeCall? (strip quotedParentheses).toList = some "Ytd" := by
    cbv
  have hvalid : (diagnose quotedParentheses).isValid = true := by
    refine isValid_iff.2 ⟨.timeIntel .ytd "Net , 'it''s )('" ["Net"], ?_⟩
    rw [Compiled.ofText_timeCall parse_quotedParentheses hleading]
    decide
  have htable : IsSqlName "t" := ⟨by decide, by decide⟩
  have hfield : IsSqlName "d" := ⟨by decide, by decide⟩
  obtain ⟨c, e, hc, hparse, hquery⟩ := query_of_valid hvalid htable hfield
  rw [parse_quotedParentheses] at hparse
  cases hparse
  have hwritable : (Expr.field "Net").IsWritable := by
    constructor
    · intro name hname
      obtain rfl : name = "Net" := by simpa [Expr.subterms] using hname
      exact ⟨by decide, by decide⟩
    · simp [Expr.subterms]
  have hqueryable : (Expr.timeCall .ytd [.field "Net", .string "it's )("]
      "Net , 'it''s )('").IsQueryable :=
    ⟨hwritable, fun h => absurd h.1 (by decide)⟩
  obtain ⟨sql, hsql⟩ := hquery.1.2 hqueryable
  exact ⟨hvalid, htable, hfield, c, sql, hc, hsql⟩

/-- The tokens of `SUM(" ")`. -/
def blankFieldTokens : List Token :=
  [⟨.name, "SUM".toList, 0⟩, ⟨.leftParen, ['('], 3⟩, ⟨.quotedName, ['"', ' ', '"'], 4⟩,
    ⟨.rightParen, [')'], 7⟩]

theorem tokens_blankField : Lexer.tokens "SUM(\" \")".toList = .ok blankFieldTokens := by
  have hname : Lexer.lexemeLength? '"' " \")".toList = some (some .quotedName, 2) := by decide
  rw [show "SUM(\" \")".toList = 'S' :: ("UM".toList ++ '(' :: '"' :: " \")".toList) from rfl,
    Lexer.tokens,
    Lexer.tokensFrom_name 0 (by decide) (List.all_eq_true.1 (by decide)) (by rintro d ⟨⟩; decide),
    Lexer.tokensFrom_leftParen, Lexer.tokensFrom_lexeme _ hname,
    show " \")".toList.drop 2 = [')'] from rfl, Lexer.tokensFrom_rightParen]
  rfl

theorem parse_blankField : Expr.parse "SUM(\" \")" = .ok (.aggregate .sum (.field " ") false) := by
  refine Expr.parse_eq_ok.2 ⟨by decide, by decide, ?_⟩
  have hstripped : stripBlanks "SUM(\" \")".toList = "SUM(\" \")".toList := by decide
  rw [hstripped]
  refine parseChars_complete tokens_blankField (by decide) (.sum (.product (.signed ?_)))
  have hfield : fieldOf "SUM(\" \")".toList 7 [⟨.quotedName, ['"', ' ', '"'], 4⟩] = .field " " := by
    cbv
  have hsum : Aggregate.ofName? (⟨.name, "SUM".toList, 0⟩ : Token).upper = some .sum := by cbv
  have hplain : plainPart? [⟨.quotedName, ['"', ' ', '"'], 4⟩]
      = some (false, [⟨.quotedName, ['"', ' ', '"'], 4⟩]) := by decide
  have hright : (⟨.rightParen, [')'], 7⟩ : Token).kind = .rightParen := rfl
  rw [← hfield]
  exact .plainAggregate rfl hsum rfl rfl hplain hright

/-- A quoted name may be blank for the parser, but not in SQL. -/
theorem blankField_refused :
    (diagnose "SUM(\" \")").isValid = true
      ∧ Compiled.ofText "SUM(\" \")" = .ok (.aggregation .sum " ")
      ∧ IsSqlName "t" ∧ IsSqlName "d"
      ∧ Compiled.query (.aggregation .sum " ") ⟨"t", .null, [], some "d"⟩
        = .error (.sqlText (.invalidName "' '")) := by
  have hcompiled : Compiled.ofText "SUM(\" \")" = .ok (.aggregation .sum " ") := by
    have hleading : Compiled.leadingTimeCall? (strip "SUM(\" \")").toList = none := by cbv
    rw [Compiled.ofText_ordinary parse_blankField hleading]
    rfl
  exact ⟨isValid_iff.2 ⟨_, hcompiled⟩, hcompiled, ⟨by decide, by decide⟩, ⟨by decide, by decide⟩,
    rfl⟩

end MetricLayer
