import MetricLayer.Proofs.Sql.FormulaLexemes
import MetricLayer.Proofs.Sql.Writable

/-!
# Queries that are refused

A request for a metric is made of names and values (`MetricRequest.parts`).  When all of them can be
written, the query is either written or refused with the status 422; otherwise there is no query,
and the failure may be that of a name or a value, which has no status (`query_refused`).
-/

namespace MetricLayer

/-! ## Expressions -/

namespace Expr

/-- The name or the text that an expression is. -/
def ownPart? : Expr → Option SqlPart
  | .string value => some (.value (.text value))
  | .field name => some (.name name)
  | _ => none

/-- The names and texts of an expression, in reading order. -/
def parts (e : Expr) : List SqlPart := e.subterms.filterMap ownPart?

theorem mem_parts {e : Expr} {p : SqlPart} :
    p ∈ e.parts ↔ ∃ t ∈ e.subterms, t.ownPart? = some p := List.mem_filterMap

theorem render_writes {e : Expr} (h : e.containsTimeCall = false) : Writes e.render e.parts := by
  constructor
  · intro hsucceeds p hp
    have hwritable := (succeeds_render h).1 hsucceeds
    obtain ⟨t, ht, hpart⟩ := mem_parts.1 hp
    cases t with
    | string value =>
      cases hpart
      exact hwritable.texts value ht
    | field name =>
      cases hpart
      exact hwritable.names name ht
    | _ => cases hpart
  · intro failure hfailure
    rw [← failure?_eq_some, render_failure?] at hfailure
    obtain ⟨t, ht, hown⟩ := List.exists_of_findSome?_eq_some hfailure
    cases t with
    | string value => exact .inr ⟨_, mem_parts.2 ⟨_, ht, rfl⟩, failure?_eq_some.1 hown⟩
    | field name => exact .inr ⟨_, mem_parts.2 ⟨_, ht, rfl⟩, failure?_eq_some.1 hown⟩
    | timeCall => cases containsTimeCall_eq_false.1 h _ ht
    | _ => cases hown

theorem renderAsAggregate_writes {e : Expr} (h : e.containsTimeCall = false) (func : Aggregate) :
    Writes (e.renderAsAggregate func) e.parts :=
  (render_writes h).of_failure? (e.renderAsAggregate_failure? func)

end Expr

/-! ## Requests -/

namespace MetricRequest

variable (r : MetricRequest)

/-- The columns to group by. -/
def groupParts : List SqlPart := r.groupBy.map .name

/-- What every query holds beside its value: the filters and the table. -/
def sourceParts : List SqlPart := treeParts r.filters ++ [.name r.table]

/-- What a time function needs beside its argument; the change against a period before is not
grouped. -/
def shapeParts (args : List Expr) : TimeShape → List SqlPart
  | .toDate _ => r.groupParts
  | .yearOverYear | .monthOverMonth => []
  | .rolling _ => .window args :: r.groupParts

/-- The names and values of which the query of an expression is made. -/
def parts : Expr → List SqlPart
  | .timeCall func args _ =>
    .name (r.dateField.getD "")
      :: (func.shape?.elim [] (r.shapeParts args) ++ ((args.headD .star).parts ++ r.sourceParts))
  | e => r.groupParts ++ (e.parts ++ r.sourceParts)

end MetricRequest

section Statements

variable {r : MetricRequest} {inner : Expr}

theorem sqlNames_writes (names : List String) : Writes (sqlNames names) (names.map .name) := by
  rw [List.map_eq_flatMap]
  exact .mapM sqlName_writes names

theorem statement_writes (s : Statement) : Writes s.render [.name s.table] :=
  (sqlName_writes s.table).bind_pure

theorem groupedQuery_writes (groups : List String) (value : String) :
    Writes (groupedQuery r groups value) r.sourceParts :=
  (filterSql_writes r.filters).bind fun _ => statement_writes _

theorem toDateStatement_writes (hinner : inner.containsTimeCall = false) (period column : String) :
    Writes (toDateStatement r inner period column)
      (r.groupParts ++ (inner.parts ++ r.sourceParts)) :=
  (sqlNames_writes r.groupBy).bind fun _ => (Expr.renderAsAggregate_writes hinner .sum).bind fun _ =>
    (filterSql_writes r.filters).bind fun _ => statement_writes _

theorem comparisonStatement_writes (hinner : inner.containsTimeCall = false) (pair : PeriodPair) :
    Writes (comparisonStatement r inner pair) (inner.parts ++ r.sourceParts) := by
  have hwrites : Writes (comparisonStatement r inner pair)
      (inner.parts ++ (treeParts r.filters ++ ([.name r.table] ++ [.name r.table]))) :=
    (Expr.renderAsAggregate_writes hinner .sum).bind fun _ => (filterSql_writes r.filters).bind
      fun _ => (statement_writes _).bind fun _ => (statement_writes _).bind_pure
  -- both periods are selected from the one table
  exact hwrites.of_same_parts fun p => by simp [MetricRequest.sourceParts]

theorem rollingStatement_writes (hinner : inner.containsTimeCall = false) (func : Aggregate)
    (args : List Expr) (column : String) :
    Writes (rollingStatement r func args inner column)
      (.window args :: r.groupParts ++ (inner.parts ++ r.sourceParts)) := by
  have hwindow : Writes (windowOf args) [.window args] :=
    (Writes.of_part (.window args)).of_failure? failure?_bind_pure.symm
  exact hwindow.bind fun _ => (sqlNames_writes r.groupBy).bind fun _ =>
    (Expr.render_writes hinner).bind fun _ => (filterSql_writes r.filters).bind fun _ =>
      statement_writes _

theorem timeQuery_writes {func : TimeFunction} {text : String} {args : List Expr}
    (hargs : storedCall func text = .ok args)
    (hcalls : (args.headD .star).containsTimeCall = false) :
    Writes (timeQuery r func text) (r.parts (.timeCall func args text)) := by
  rw [timeQuery, MetricRequest.parts]
  cases func.shape? with
  | none => exact .of_refused rfl _
  | some shape =>
    simp only [Option.elim_some]
    by_cases hdate : r.dateField.getD "" = ""
    · rw [if_pos hdate]
      exact .of_refused rfl _
    rw [if_neg hdate, hargs]
    refine (sqlName_writes _).bind fun column => ?_
    cases shape with
    | toDate period => exact toDateStatement_writes hcalls period column
    | yearOverYear => exact comparisonStatement_writes hcalls (yearPair column)
    | monthOverMonth => exact comparisonStatement_writes hcalls (monthPair column)
    | rolling aggregate => exact rollingStatement_writes hcalls aggregate args column

/-- The query of an aggregate or a formula. -/
theorem ordinaryQuery_writes {c : Compiled} {e : Expr} (hmeans : c.Means e)
    (hkind : c.isTimeIntel = false) (hcalls : e.containsTimeCall = false) :
    Writes (c.query r) (r.groupParts ++ (e.parts ++ r.sourceParts)) := by
  have hselect : Writes c.selectExpression e.parts :=
    (Expr.render_writes hcalls).of_failure? (selectExpression_failure? hmeans hkind)
  have hgroups := sqlNames_writes r.groupBy
  cases c with
  | aggregation func field =>
    exact hgroups.bind fun groups => hselect.bind fun _ => groupedQuery_writes groups _
  | formula text dependencies =>
    have hformula : Writes (formulaSql text) e.parts := hselect.of_failure? failure?_bind_pure.symm
    exact hgroups.bind fun groups => hformula.bind fun _ => groupedQuery_writes groups _
  | timeIntel => cases hkind

end Statements

/-- The query of a text that compiles. -/
theorem query_writes {text : String} {c : Compiled} (h : Compiled.ofText text = .ok c)
    (r : MetricRequest) : ∃ e, Expr.parse text = .ok e ∧ Writes (c.query r) (r.parts e) := by
  obtain ⟨e, hparse, hmeans, hkind, hcalls⟩ := ofText_queried h
  refine ⟨e, hparse, ?_⟩
  cases c with
  | timeIntel func argsText dependencies =>
    obtain ⟨args, rfl, -, hargs⟩ := hmeans
    exact timeQuery_writes hargs hcalls
  | _ =>
    have hcall : e.isTimeCall = false := hkind.symm
    rw [Expr.queried_of_isTimeCall hcall] at hcalls
    have hparts : r.parts e = r.groupParts ++ (e.parts ++ r.sourceParts) := by
      cases e <;> first | rfl | cases hcall
    rw [hparts]
    exact ordinaryQuery_writes hmeans rfl hcalls

/-- Whatever a metric is asked for, its query is written or refused with the status 422 when every
name and value that it is made of can be written.  When one cannot, there is no query, and the
failure is a refusal or, without a status, that of such a name or value. -/
theorem query_refused {text : String} {c : Compiled} (h : Compiled.ofText text = .ok c)
    (r : MetricRequest) :
    ∃ e, Expr.parse text = .ok e
      ∧ ((∀ p ∈ r.parts e, p.IsWritable) →
        (∃ sql, c.query r = .ok sql)
          ∨ ∃ failure, c.query r = .error failure ∧ failure.status? = some 422)
      ∧ ((∃ p ∈ r.parts e, ¬p.IsWritable) →
        ∃ failure, c.query r = .error failure
          ∧ (failure.status? = some 422
            ∨ failure.status? = none ∧ ∃ p ∈ r.parts e, p.write = .error failure)) := by
  obtain ⟨e, hparse, hwrites⟩ := query_writes h r
  refine ⟨e, hparse, fun hwritable => ?_, fun ⟨p, hp, hunwritable⟩ => ?_⟩
  · cases hquery : c.query r with
    | ok sql => exact .inl ⟨sql, rfl⟩
    | error failure =>
      refine .inr ⟨failure, rfl, (hwrites.refused failure hquery).resolve_right ?_⟩
      rintro ⟨p, hp, hwrite⟩
      obtain ⟨sql, hsql⟩ := SqlPart.succeeds_write.2 (hwritable p hp)
      cases hwrite.symm.trans hsql
  · cases hquery : c.query r with
    | ok sql => exact absurd (hwrites.written ⟨sql, hquery⟩ p hp) hunwritable
    | error failure =>
      refine ⟨failure, rfl, (hwrites.refused failure hquery).imp_right ?_⟩
      rintro ⟨q, hq, hwrite⟩
      exact ⟨SqlPart.status?_of_write hwrite, q, hq, hwrite⟩

theorem parse_seven : Expr.parse "7" = .ok (.number "7") := parse_digit (c := '7') (by decide)

theorem compiled_seven : Compiled.ofText "7" = .ok (.formula "7" []) := by
  rw [Compiled.ofText_ordinary parse_seven (by cbv)]
  rfl

/-- The formula `7` by region, where the amount is one of two numbers. -/
def sevenByRegion : MetricRequest :=
  ⟨"t", .object [("amount", .list [.int 1, .int 2])], ["region"], none⟩

theorem sevenByRegion_written :
    Compiled.ofText "7" = .ok (.formula "7" [])
      ∧ ((∃ sql, Compiled.query (.formula "7" []) sevenByRegion = .ok sql)
        ∨ ∃ failure, Compiled.query (.formula "7" []) sevenByRegion = .error failure
          ∧ failure.status? = some 422) := by
  obtain ⟨e, hparse, hwritten, -⟩ := query_refused compiled_seven sevenByRegion
  obtain rfl := Except.ok.inj (parse_seven.symm.trans hparse)
  refine ⟨compiled_seven, hwritten ?_⟩
  have hparts : sevenByRegion.parts (.number "7")
      = [.name "region", .name "amount", .value (.int 1), .value (.int 2), .name "t"] := by rfl
  rw [hparts]
  simp only [List.forall_mem_cons]
  exact ⟨⟨by decide, by decide⟩, ⟨by decide, by decide⟩, trivial, trivial,
    ⟨by decide, by decide⟩, List.forall_mem_nil _⟩

/-- The formula `7` where the amount is one of one thing, a list. -/
def sevenOfLists : MetricRequest :=
  ⟨"t", .object [("amount", .list [.list [.int 1]])], [], none⟩

/-- A list in a list of values is neither written nor refused. -/
theorem sevenOfLists_fails :
    Compiled.ofText "7" = .ok (.formula "7" [])
      ∧ Compiled.query (.formula "7" []) sevenOfLists = .error (.sqlText (.unwritable "list"))
      ∧ (Failure.sqlText (.unwritable "list")).status? = none := by
  refine ⟨compiled_seven, ?_, rfl⟩
  show (formulaSql "7" >>= fun sql => groupedQuery sevenOfLists [] ("(" ++ sql ++ ")")) = _
  rw [formulaSql_digit (c := '7') (by decide)]
  rfl

end MetricLayer
