import MetricLayer.Proofs.Sql.PeriodText
import MetricLayer.Proofs.Sql.QueryText
import MetricLayer.Sql.Select

/-!
# The queries of metrics

Every query that is built for metrics reads its table under the caller's filters: the query of a
compiled metric of any kind (`query_readsTable`), of a chart (`chart_readsTable`) and of a time
series (`series_readsTable`).  `ReadsTable sql table n m` says this of a text: it reads the table `n`
times and nothing else, each time under a condition that implies `m`.
-/

namespace MetricLayer

open Number Sql Text

namespace Sql

/-- The filters can be written as SQL, and the statement reads the table a number of times and
nothing else, each time under a condition that implies what the filters say. -/
def ReadsTable (sql table : String) (times : Nat) (filters : Value) : Prop :=
  (∃ condition, filterSql filters = .ok condition)
    ∧ ∃ scans, Statements sql scans ∧ scans.length = times
        ∧ ∀ s ∈ scans, s.table = table ∧ ∃ n, Means s.condition n ∧ Implies n (treeMeaning filters)

theorem ReadsUnder.readsTable {sql table condition : String} {ms : List (Option Meaning)}
    {filters : Value} (h : ReadsUnder sql table ms) (hfilters : filterSql filters = .ok condition)
    (himplies : ∀ m ∈ ms, Implies m (treeMeaning filters)) :
    ReadsTable sql table ms.length filters := by
  obtain ⟨scans, hstatement, hscans⟩ := h
  refine ⟨⟨_, hfilters⟩, scans, hstatement, hscans.length_eq, fun s hs => ?_⟩
  have hboth := (List.forall₂_and_left _ _).2 ⟨himplies, hscans.flip⟩
  obtain ⟨m, himplied, htable, hmeans⟩ := forall₂_mem_left hboth.flip s hs
  exact ⟨htable, m, hmeans, himplied⟩

theorem Queries.readsTable {sql table condition : String} {m : Option Meaning} {filters : Value}
    (h : Queries sql table m) (hfilters : filterSql filters = .ok condition)
    (himplies : Implies m (treeMeaning filters)) : ReadsTable sql table 1 filters :=
  h.readsUnder.readsTable hfilters (by simpa using himplies)

/-! ## Items -/

theorem sqlName_solid {name sql : String} (h : sqlName name = .ok sql) : Solid sql.toList := by
  obtain ⟨rfl, hne⟩ := sqlName_inv h
  exact .name hne

theorem mapM_solid {α : Type} {f : α → Outcome String} {as : List α} {sqls : List String}
    (hf : ∀ {a sql}, f a = .ok sql → Solid sql.toList) (h : as.mapM f = .ok sqls) :
    ∀ sql ∈ sqls, Solid sql.toList := by
  intro sql hsql
  obtain ⟨a, ha⟩ := forall₂_mem_left (mapM_eq_ok h).flip sql hsql
  exact hf ha

theorem sqlNames_solid {names sqls : List String} (h : sqlNames names = .ok sqls) :
    ∀ sql ∈ sqls, Solid sql.toList :=
  mapM_solid sqlName_solid h

/-- A value under the name that single values have. -/
theorem solid_asValue {value : String} (h : Solid value.toList) :
    Solid (value ++ " AS value").toList := by
  have := h.aliased (Solid.word (s := "value") (by decide))
  simpa using this

theorem aggregateOf_solid {func : Aggregate} {field sql : String}
    (h : aggregateOf func field = .ok sql) : Solid sql.toList := by
  obtain ⟨name, hname, h⟩ := bind_eq_ok.1 h
  rw [← pure_eq_ok.1 h]
  exact .call (Expr.isPassedWord_aggregate func) (sqlName_solid hname).passed

theorem ofExpr_eq_ok {α : Type} {x : Except ExprFault α} {a : α} :
    Failure.ofExpr x = .ok a ↔ x = .ok a := by
  cases x <;> simp [Failure.ofExpr]

/-- The SQL of a stored formula, whatever its text is. -/
theorem formulaSql_solid {text sql : String} (h : formulaSql text = .ok sql) :
    Solid sql.toList := by
  obtain ⟨e, he, h⟩ := bind_eq_ok.1 h
  exact ((Expr.parse_written (ofExpr_eq_ok.1 he)).render_solid h).1

/-- The arguments of a stored time function can be spelled. -/
theorem storedCall_written {func : TimeFunction} {text : String} {args : List Expr}
    (h : storedCall func text = .ok args) : ∀ e ∈ args, e.Written := by
  obtain ⟨e, he, h⟩ := bind_eq_ok.1 h
  have hwritten := Expr.parse_written (ofExpr_eq_ok.1 he)
  cases hwritten with
  | timeCall hargs =>
    rw [← pure_eq_ok.1 h]
    exact hargs
  | _ => cases h

/-- The first argument of a time function, or the star that stands for none. -/
theorem render_headD_solid {args : List Expr} {sql : String} (h : ∀ e ∈ args, e.Written)
    (hrender : (args.headD .star).render = .ok sql) : Solid sql.toList := by
  cases args with
  | nil =>
    rw [List.headD_nil, Expr.render] at hrender
    rw [← Except.ok.inj hrender]
    exact .operator (s := "*") (by decide)
  | cons e args => exact ((h e (by simp)).render_solid hrender).1

theorem renderAsAggregate_solid {args : List Expr} {sql : String} {fallback : Aggregate}
    (h : ∀ e ∈ args, e.Written)
    (hrender : (args.headD .star).renderAsAggregate fallback = .ok sql) : Solid sql.toList := by
  obtain ⟨inner, hinner, hrender⟩ := bind_eq_ok.1 hrender
  have hsolid := render_headD_solid h hinner
  rw [← pure_eq_ok.1 hrender]
  split
  · exact hsolid
  · exact .call (Expr.isPassedWord_aggregate fallback) hsolid.passed

/-! ## Statements of one table -/

theorem statement_queries {s : Statement} {sql : String} {m : Option Meaning}
    (h : s.render = .ok sql) (hselect : ∀ i ∈ s.select, Solid i.toList)
    (hcondition : Restricts s.condition m) (hgroup : ∀ i ∈ s.groupBy, Solid i.toList)
    (horder : ∀ i ∈ s.orderBy, Solid i.toList) : Queries sql s.table m := by
  obtain ⟨name, hname, h⟩ := bind_eq_ok.1 h
  rw [← pure_eq_ok.1 h, List.append_assoc]
  refine queries_joined _ (Passed.joined hselect) hname hcondition fun i hi => ?_
  rcases List.mem_append.1 hi with hi | hi
  · exact listClause_isTailText (.inl rfl) hgroup i hi
  · exact listClause_isTailText (.inr rfl) horder i hi

/-! ## Compiled metrics -/

/-- One value for each group. -/
theorem groupedQuery_readsTable {r : MetricRequest} {groups : List String} {value sql : String}
    (h : groupedQuery r groups value = .ok sql) (hgroups : sqlNames r.groupBy = .ok groups)
    (hvalue : Solid value.toList) : ReadsTable sql r.table 1 r.filters := by
  obtain ⟨condition, hcondition, h⟩ := bind_eq_ok.1 h
  have hsolid := sqlNames_solid hgroups
  refine (statement_queries h ?_ (filterSql_restricts hcondition) hsolid (by simp)).readsTable
    hcondition (.refl _)
  intro i hi
  rcases List.mem_append.1 hi with hi | hi
  · exact hsolid i hi
  · rw [List.mem_singleton.1 hi]
    exact solid_asValue hvalue

/-- A period and the filters, as a condition. -/
theorem period_restricts {period filters : String} {m : Meaning} {r : MetricRequest}
    (hperiod : Piece period m) (hfilters : filterSql r.filters = .ok filters) :
    Restricts (conjunction [period, filters]) (together [some m, treeMeaning r.filters]) := by
  have hparts : List.Forall₂ Restricts [period, filters] [some m, treeMeaning r.filters] :=
    .cons hperiod.clause (.cons (filterSql_restricts hfilters) .nil)
  exact conjunction_restricts hparts

/-- The names of periods hold no quotes. -/
theorem toDate_unquoted {func : TimeFunction} {period : String}
    (h : func.shape? = some (.toDate period)) : double '\'' period.toList = period.toList := by
  cases func <;> cases h <;> decide

/-- The table is read once, in the period and under the filters. -/
theorem toDate_queries {r : MetricRequest} {args : List Expr} {period column sql : String}
    {func : TimeFunction} {field : String} (hcolumn : sqlName field = .ok column)
    (hshape : func.shape? = some (.toDate period)) (hargs : ∀ e ∈ args, e.Written)
    (h : toDateStatement r (args.headD .star) period column = .ok sql) :
    (∃ filters, filterSql r.filters = .ok filters)
      ∧ Queries sql r.table
        (together [some (Meaning.atom (.since period field)), treeMeaning r.filters]) := by
  obtain ⟨groups, hgroups, h⟩ := bind_eq_ok.1 h
  obtain ⟨value, hvalue, h⟩ := bind_eq_ok.1 h
  obtain ⟨filters, hfilters, h⟩ := bind_eq_ok.1 h
  have hsolid := sqlNames_solid hgroups
  have hrestricts := period_restricts (toDate_piece hcolumn (toDate_unquoted hshape)) hfilters
  refine ⟨⟨_, hfilters⟩, statement_queries h ?_ hrestricts hsolid (by simp)⟩
  intro i hi
  rcases List.mem_append.1 hi with hi | hi
  · exact hsolid i hi
  · rw [List.mem_singleton.1 hi]
    exact solid_asValue (renderAsAggregate_solid hargs hvalue)

/-- The parts of a query over two periods. -/
theorem comparisonStatement_eq_ok {r : MetricRequest} {inner : Expr} {pair : PeriodPair}
    {sql : String} (h : comparisonStatement r inner pair = .ok sql) :
    ∃ value filters current previous, inner.renderAsAggregate .sum = .ok value
      ∧ filterSql r.filters = .ok filters
      ∧ Statement.render
          ⟨[value ++ " AS value"], r.table, conjunction [pair.current, filters], [], []⟩
            = .ok current
      ∧ Statement.render
          ⟨[value ++ " AS value"], r.table, conjunction [pair.previous, filters], [], []⟩
            = .ok previous
      ∧ sql = comparisonText pair.change current previous := by
  obtain ⟨value, hvalue, h⟩ := bind_eq_ok.1 h
  obtain ⟨filters, hfilters, h⟩ := bind_eq_ok.1 h
  obtain ⟨current, hcurrent, h⟩ := bind_eq_ok.1 h
  obtain ⟨previous, hprevious, h⟩ := bind_eq_ok.1 h
  refine ⟨value, filters, current, previous, hvalue, hfilters, hcurrent, hprevious, ?_⟩
  have hjoin : ") AS current_period CROSS JOIN (" = ") AS current_period " ++ "CROSS JOIN (" := rfl
  rw [← pure_eq_ok.1 h, comparisonText, changeItems, joined_cons, joined_cons, joined, hjoin]
  simp only [← String.append_assoc]
  simp only [String.reduceAppend]

/-- The table is read once in each of two periods, both times under the filters. -/
theorem comparison_queries {r : MetricRequest} {args : List Expr} {pair : PeriodPair} {sql : String}
    {m n : Meaning} (hargs : ∀ e ∈ args, e.Written) (hm : Piece pair.current m)
    (hn : Piece pair.previous n) (h : comparisonStatement r (args.headD .star) pair = .ok sql) :
    (∃ filters, filterSql r.filters = .ok filters)
      ∧ ∃ current previous, Queries current r.table (together [some m, treeMeaning r.filters])
        ∧ Queries previous r.table (together [some n, treeMeaning r.filters])
        ∧ sql = comparisonText pair.change current previous := by
  obtain ⟨value, filters, current, previous, hvalue, hfilters, hcurrent, hprevious, hsql⟩ :=
    comparisonStatement_eq_ok h
  have hselect : ∀ i ∈ [value ++ " AS value"], Solid i.toList := by
    intro i hi
    rw [List.mem_singleton.1 hi]
    exact solid_asValue (renderAsAggregate_solid hargs hvalue)
  refine ⟨⟨_, hfilters⟩, current, previous, ?_, ?_, hsql⟩
  · exact statement_queries hcurrent hselect (period_restricts hm hfilters) (by simp) (by simp)
  · exact statement_queries hprevious hselect (period_restricts hn hfilters) (by simp) (by simp)

theorem Solid.decimal (n : Nat) : Solid (decimalText n).toList := by
  refine .number ?_
  rw [decimalText, String.toList_ofList]
  exact (IsMantissa.whole (isDigits_decimalChars n)).isNumeral

/-- The window of the latest rows, in parentheses. -/
theorem solid_window {groups : List String} {column : String} (n : Nat)
    (hgroups : ∀ i ∈ groups, Solid i.toList) (hcolumn : Solid column.toList) :
    Solid ("(" ++ ((if groups.isEmpty then "" else "PARTITION BY " ++ joined ", " groups ++ " ")
      ++ "ORDER BY " ++ column ++ " ROWS BETWEEN " ++ decimalText n
      ++ " PRECEDING AND CURRENT ROW") ++ ")").toList := by
  have hpreceding : Solid "PRECEDING AND CURRENT ROW".toList :=
    Solid.words "PRECEDING" ["AND", "CURRENT", "ROW"] (by decide)
  have hbetween : Solid "ROWS BETWEEN".toList := Solid.words "ROWS" ["BETWEEN"] (by decide)
  have horder : Solid "ORDER BY".toList := Solid.words "ORDER" ["BY"] (by decide)
  have hpartition : Solid "PARTITION BY".toList := Solid.words "PARTITION" ["BY"] (by decide)
  have hrows := horder.beside (hcolumn.beside (hbetween.beside ((Solid.decimal n).beside hpreceding)))
  refine Solid.enclosed ?_
  split
  · simpa using hrows.passed
  · have := hpartition.passed.append
      ((Passed.joined hgroups).append hrows.passed.space (by simp [isBoundary])).space
      (by simp [isBoundary])
    simpa using this

/-- An aggregate over a window of the latest rows. -/
theorem solid_rolling {groups : List String} {column inner : String} (func : Aggregate) (n : Nat)
    (hgroups : ∀ i ∈ groups, Solid i.toList) (hcolumn : Solid column.toList)
    (hinner : Solid inner.toList) :
    Solid (func.name ++ "(" ++ inner ++ ") " ++ ("OVER ("
      ++ (if groups.isEmpty then "" else "PARTITION BY " ++ joined ", " groups ++ " ")
      ++ "ORDER BY " ++ column ++ " ROWS BETWEEN " ++ decimalText n
      ++ " PRECEDING AND CURRENT ROW)")).toList := by
  have hcall : Solid (func.name ++ "(" ++ inner ++ ")").toList :=
    .call (Expr.isPassedWord_aggregate func) hinner.passed
  have hover := (Solid.word (s := "OVER") (by decide)).beside (solid_window n hgroups hcolumn)
  simpa [String.append_assoc] using hcall.beside hover

theorem rolling_queries {r : MetricRequest} {func : Aggregate} {args : List Expr}
    {column sql : String} {field : String} (hcolumn : sqlName field = .ok column)
    (hargs : ∀ e ∈ args, e.Written)
    (h : rollingStatement r func args (args.headD .star) column = .ok sql) :
    (∃ filters, filterSql r.filters = .ok filters)
      ∧ Queries sql r.table (treeMeaning r.filters) := by
  obtain ⟨rows, -, h⟩ := bind_eq_ok.1 h
  obtain ⟨groups, hgroups, h⟩ := bind_eq_ok.1 h
  obtain ⟨inner, hinner, h⟩ := bind_eq_ok.1 h
  obtain ⟨condition, hcondition, h⟩ := bind_eq_ok.1 h
  have hsolid := sqlNames_solid hgroups
  have hkeys : ∀ i ∈ groups ++ [column], Solid i.toList := by
    intro i hi
    rcases List.mem_append.1 hi with hi | hi
    · exact hsolid i hi
    · rw [List.mem_singleton.1 hi]
      exact sqlName_solid hcolumn
  have hvalue := solid_asValue (solid_rolling func (rows - 1) hsolid (sqlName_solid hcolumn)
    (render_headD_solid hargs hinner))
  refine ⟨⟨_, hcondition⟩,
    statement_queries h ?_ (filterSql_restricts hcondition) ?_ hkeys⟩
  · intro i hi
    rcases List.mem_append.1 hi with hi | hi
    · exact hkeys i hi
    · rw [List.mem_singleton.1 hi]
      exact hvalue
  · show ∀ i ∈ if (args.headD .star).containsAggregate then groups ++ [column] else [], _
    split
    · exact hkeys
    · simp

/-- The parts of the query of a time function, whose statement depends on its family. -/
theorem timeQuery_eq_ok {r : MetricRequest} {func : TimeFunction} {text sql : String}
    (h : timeQuery r func text = .ok sql) :
    ∃ (shape : TimeShape) (args : List Expr) (column : String),
      func.shape? = some shape ∧ (∀ e ∈ args, e.Written)
      ∧ sqlName (r.dateField.getD "") = .ok column
      ∧ (match shape with
        | .toDate period => toDateStatement r (args.headD .star) period column
        | .yearOverYear => comparisonStatement r (args.headD .star) (yearPair column)
        | .monthOverMonth => comparisonStatement r (args.headD .star) (monthPair column)
        | .rolling aggregate => rollingStatement r aggregate args (args.headD .star) column)
          = .ok sql := by
  rw [timeQuery] at h
  cases hshape : func.shape? with
  | none =>
    rw [hshape] at h
    cases h
  | some shape =>
    rw [hshape] at h
    simp only at h
    split at h
    · cases h
    · obtain ⟨args, hargs, hquery⟩ := bind_eq_ok.1 h
      obtain ⟨column, hcolumn, hstatement⟩ := bind_eq_ok.1 hquery
      exact ⟨shape, args, column, rfl, storedCall_written hargs, hcolumn, hstatement⟩

/-- The condition under which a table is read for a period, if there is one, and the filters. -/
def periodCondition (filters : Value) (period : Option Predicate) : Option Meaning :=
  together [period.map Meaning.atom, treeMeaning filters]

theorem periodCondition_none (filters : Value) :
    periodCondition filters none = treeMeaning filters := by
  unfold periodCondition together
  cases treeMeaning filters with
  | none => rfl
  | some m => exact congrArg some (Meaning.all_singleton m)

/-- The query of a time function reads its table once for each of its periods, under exactly the
predicate of the period and the filters. -/
theorem timeQuery_readsUnder {r : MetricRequest} {func : TimeFunction} {text sql : String}
    (h : timeQuery r func text = .ok sql) :
    (∃ filters, filterSql r.filters = .ok filters)
      ∧ ReadsUnder sql r.table
        ((periodsOf (r.dateField.getD "") func).map (periodCondition r.filters)) := by
  obtain ⟨shape, args, column, hshape, hwritten, hcolumn, hstatement⟩ := timeQuery_eq_ok h
  cases shape with
  | toDate period =>
    obtain ⟨hfilters, hquery⟩ := toDate_queries hcolumn hshape hwritten hstatement
    rw [periodsOf_toDate hshape]
    exact ⟨hfilters, hquery.readsUnder⟩
  | yearOverYear =>
    obtain rfl : func = .yoy := by cases func <;> cases hshape; rfl
    obtain ⟨hthis, hlast⟩ := yearPair_pieces hcolumn
    obtain ⟨hfilters, current, previous, hcurrent, hprevious, rfl⟩ :=
      comparison_queries hwritten hthis hlast hstatement
    have hchange : isPassedWord "yoy_change" = true := by decide
    exact ⟨hfilters, hcurrent.readsUnder_comparison hprevious hchange⟩
  | monthOverMonth =>
    obtain rfl : func = .mom := by cases func <;> cases hshape; rfl
    obtain ⟨hthis, hlast⟩ := monthPair_pieces hcolumn
    obtain ⟨hfilters, current, previous, hcurrent, hprevious, rfl⟩ :=
      comparison_queries hwritten hthis hlast hstatement
    have hchange : isPassedWord "mom_change" = true := by decide
    exact ⟨hfilters, hcurrent.readsUnder_comparison hprevious hchange⟩
  | rolling aggregate =>
    have hnone : periodsOf (r.dateField.getD "") func = [none] := by
      cases func <;> cases hshape <;> rfl
    obtain ⟨hfilters, hquery⟩ := rolling_queries hcolumn hwritten hstatement
    rw [hnone, List.map_singleton, periodCondition_none]
    exact ⟨hfilters, hquery.readsUnder⟩

/-- The number of times that the query of a time function reads its table. -/
def scanCount : TimeFunction → Nat
  | .yoy | .mom => 2
  | _ => 1

theorem length_periodsOf (field : String) (func : TimeFunction) :
    (periodsOf field func).length = scanCount func := by
  cases func <;> rfl

theorem timeQuery_readsTable {r : MetricRequest} {func : TimeFunction} {text sql : String}
    (h : timeQuery r func text = .ok sql) : ReadsTable sql r.table (scanCount func) r.filters := by
  obtain ⟨⟨filters, hfilters⟩, hreads⟩ := timeQuery_readsUnder h
  rw [← length_periodsOf (r.dateField.getD ""), ← List.length_map]
  refine hreads.readsTable hfilters fun m hm => ?_
  obtain ⟨period, -, rfl⟩ := List.mem_map.1 hm
  exact together_implies (by simp)

/-- The number of times that the query of a compiled metric reads its table. -/
def queryScans : Compiled → Nat
  | .timeIntel func _ _ => scanCount func
  | _ => 1

theorem query_readsTable {c : Compiled} {r : MetricRequest} {sql : String}
    (h : c.query r = .ok sql) : ReadsTable sql r.table (queryScans c) r.filters := by
  cases c with
  | aggregation func field =>
    obtain ⟨groups, hgroups, h⟩ := bind_eq_ok.1 h
    obtain ⟨value, hvalue, h⟩ := bind_eq_ok.1 h
    exact groupedQuery_readsTable h hgroups (aggregateOf_solid hvalue)
  | formula text dependencies =>
    obtain ⟨groups, hgroups, h⟩ := bind_eq_ok.1 h
    obtain ⟨value, hvalue, h⟩ := bind_eq_ok.1 h
    exact groupedQuery_readsTable h hgroups (.enclosed (formulaSql_solid hvalue).passed)
  | timeIntel func text dependencies => exact timeQuery_readsTable h

/-! ## Charts and time series -/

theorem selectExpression_solid {c : Compiled} {sql : String} (h : c.selectExpression = .ok sql) :
    Solid sql.toList := by
  cases c with
  | aggregation func field => exact aggregateOf_solid h
  | formula text dependencies =>
    obtain ⟨value, hvalue, h⟩ := bind_eq_ok.1 h
    rw [← pure_eq_ok.1 h]
    exact .enclosed (formulaSql_solid hvalue).passed
  | timeIntel func text dependencies => cases h

/-- The item is a column, or SQL that is solid. -/
def SolidItem : SelectItem → Prop
  | .column _ => True
  | .aliased expr _ raw => raw = true → Solid expr.toList

theorem metricItems_solid {metrics : List NamedMetric} {items : List SelectItem}
    (h : metricItems metrics = .ok items) : ∀ i ∈ items, SolidItem i := by
  intro i hi
  obtain ⟨m, hm⟩ := forall₂_mem_left (mapM_eq_ok h).flip i hi
  obtain ⟨sql, hsql, hm⟩ := bind_eq_ok.1 hm
  rw [← pure_eq_ok.1 hm]
  exact fun _ => selectExpression_solid hsql

theorem SolidItem.render {i : SelectItem} {sql : String} (h : SolidItem i)
    (hrender : i.render = .ok sql) : Solid sql.toList := by
  cases i with
  | column name => exact sqlName_solid hrender
  | aliased expr name raw =>
    obtain ⟨s, hsolid, hrender⟩ : ∃ s, Solid s.toList
        ∧ (SelectItem.aliased s name true).render = .ok sql := by
      cases raw with
      | true => exact ⟨expr, h rfl, hrender⟩
      | false =>
        obtain ⟨s, hs, hrender⟩ := bind_eq_ok.1 hrender
        exact ⟨s, sqlName_solid hs, hrender⟩
    cases name with
    | none =>
      rw [← show s = sql from pure_eq_ok.1 hrender]
      exact hsolid
    | some name =>
      change (if name = "" then pure s else do return s ++ " AS " ++ (← sqlName name)) = .ok sql
        at hrender
      split at hrender
      · rw [← pure_eq_ok.1 hrender]
        exact hsolid
      · obtain ⟨quoted, hquoted, hrender⟩ := bind_eq_ok.1 hrender
        rw [← pure_eq_ok.1 hrender]
        exact hsolid.aliased (sqlName_solid hquoted)

theorem selectItems_solid {items : List SelectItem} {sqls : List String}
    (h : ∀ i ∈ items, SolidItem i) (hrender : items.mapM SelectItem.render = .ok sqls) :
    ∀ sql ∈ sqls, Solid sql.toList := by
  have hboth := (List.forall₂_and_left _ _).2 ⟨h, mapM_eq_ok hrender⟩
  intro sql hsql
  obtain ⟨i, hi, hsql⟩ := forall₂_mem_left hboth.flip sql hsql
  exact hi.render hsql

theorem orderField_solid {o : OrderField} {sql : String} (h : o.render = .ok sql) :
    Solid sql.toList := by
  obtain ⟨name, hname, h⟩ := bind_eq_ok.1 h
  rw [← pure_eq_ok.1 h]
  have hword : Solid o.direction.word.toList := by
    cases o.direction <;> exact .word (by decide)
  exact (sqlName_solid hname).beside hword

/-- A tree that counts as absent says nothing. -/
theorem filters_absent {filters : Value} (h : filters.isTruthy = false) :
    filterSql filters = .ok "" ∧ treeMeaning filters = none := by
  cases filters with
  | object fields =>
    obtain rfl : fields = [] := by simpa [Value.isTruthy] using h
    exact ⟨rfl, rfl⟩
  | _ =>
    refine ⟨?_, rfl⟩
    rw [filterSql, readConditions, h]
    · rfl
    · simp

/-- The clause that limits the rows, if there is one. -/
def limitClause : Option Nat → List String
  | some n => ["LIMIT " ++ decimalText n]
  | none => []

theorem limitClause_isTailText (limit : Option Nat) : ∀ s ∈ limitClause limit, IsTailText s := by
  intro s hs
  cases limit with
  | none => cases hs
  | some n =>
    have htail := IsTailText.ofKeyword "LIMIT" (w := "limit") (by decide) (by decide)
      (Solid.decimal n).passed
    have htext : "LIMIT" ++ " " ++ decimalText n = "LIMIT " ++ decimalText n := by
      rw [← String.toList_inj]
      simp
    rw [List.mem_singleton.1 hs, ← htext]
    exact htail

/-- The query of one table without an offset. -/
theorem selectQuery_readsTable {q : SelectQuery} {sql : String} (hjoins : q.joins = [])
    (hoffset : q.offset = none) (hselect : ∀ i ∈ q.select, SolidItem i)
    (h : q.render = .ok sql) : ReadsTable sql q.table 1 q.filters := by
  rw [SelectQuery.render, hjoins, hoffset] at h
  split at h
  · cases h
  · obtain ⟨items, hitems, h⟩ := bind_eq_ok.1 h
    obtain ⟨table, htable, h⟩ := bind_eq_ok.1 h
    obtain ⟨joins, hnone, h⟩ := bind_eq_ok.1 h
    obtain ⟨condition, hcondition, h⟩ := bind_eq_ok.1 h
    obtain ⟨groups, hgroups, h⟩ := bind_eq_ok.1 h
    obtain ⟨orders, horders, h⟩ := bind_eq_ok.1 h
    obtain rfl : [] = joins := pure_eq_ok.1 hnone
    rw [← pure_eq_ok.1 h]
    have hqueries := queries_joined
      (listClause "GROUP BY " groups ++ listClause "ORDER BY " orders ++ limitClause q.limit)
      (Passed.joined (selectItems_solid hselect hitems)) htable
      (filterSql_restricts hcondition) ?_
    · refine Queries.readsTable ?_ hcondition (.refl _)
      cases hlimit : q.limit <;> rw [hlimit] at hqueries <;> simpa [limitClause] using hqueries
    · intro i hi
      rcases List.mem_append.1 hi with hi | hi
      · rcases List.mem_append.1 hi with hi | hi
        · exact listClause_isTailText (.inl rfl) (sqlNames_solid hgroups) i hi
        · exact listClause_isTailText (.inr rfl) (mapM_solid orderField_solid horders) i hi
      · exact limitClause_isTailText q.limit i hi

theorem chart_readsTable {r : ChartRequest} {table sql : String} (h : r.render table = .ok sql) :
    ReadsTable sql table 1 r.filters := by
  obtain ⟨items, hitems, h⟩ := bind_eq_ok.1 h
  simp only at h
  split at h
  · have hselect : ∀ i ∈ r.dimensions.map .column ++ items, SolidItem i := by
      intro i hi
      rcases List.mem_append.1 hi with hi | hi
      · obtain ⟨name, -, rfl⟩ := List.mem_map.1 hi
        trivial
      · exact metricItems_solid hitems i hi
    have hreads := selectQuery_readsTable rfl rfl hselect h
    cases hfilters : r.filters.isTruthy with
    | true =>
      rw [hfilters] at hreads
      exact hreads
    | false =>
      obtain ⟨hsql, hnone⟩ := filters_absent hfilters
      rw [hfilters] at hreads
      obtain ⟨-, hscans⟩ := hreads
      refine ⟨⟨_, hsql⟩, ?_⟩
      rw [hnone]
      exact hscans
  · cases h

/-- The first item of a time series. -/
theorem solid_period {granularity column : String} (hg : granularity ∈ granularities)
    (hcolumn : Solid column.toList) :
    Solid ("DATE_TRUNC('" ++ granularity ++ "', " ++ column ++ ")").toList := by
  have hunquoted : ∀ g ∈ granularities, double '\'' g.toList = g.toList := by decide
  have hcall := Solid.call (f := "DATE_TRUNC") (by decide) (.pair (.text granularity) hcolumn)
  rw [joined_cons, joined, enclosed_eq (hunquoted _ hg)] at hcall
  simpa using hcall

theorem series_tail : IsTailText "GROUP BY 1 ORDER BY 1 ASC" := by
  have hone : Solid "1".toList := .number (IsMantissa.whole (isDigits_of_all (by decide))).isNumeral
  have hby : Solid "BY".toList := .word (by decide)
  have horder : Solid "ORDER".toList := .word (by decide)
  have hlast := horder.beside (hby.beside (hone.beside (Solid.word (s := "ASC") (by decide))))
  have htail := IsTailText.ofKeyword "GROUP" (w := "group") (by decide) (by decide)
    (hby.beside (hone.beside hlast)).passed
  simpa only [String.reduceAppend] using htail

/-- The table is read once, under the filters and the range of dates. -/
theorem series_queries {r : SeriesRequest} {table sql : String} (h : r.render table = .ok sql) :
    ((∃ filters, filterSql r.filters = .ok filters)
        ∧ ∃ range, filterSql (rangeFilter r) = .ok range)
      ∧ Queries sql table (together [treeMeaning r.filters, treeMeaning (rangeFilter r)]) := by
  rw [SeriesRequest.render] at h
  simp only at h
  split at h
  · cases h
  · next hknown =>
    have hg : r.granularity ∈ granularities := by simpa using hknown
    obtain ⟨column, hcolumn, h⟩ := bind_eq_ok.1 h
    obtain ⟨items, hitems, h⟩ := bind_eq_ok.1 h
    obtain ⟨filters, hfilters, h⟩ := bind_eq_ok.1 h
    obtain ⟨range, hrange, h⟩ := bind_eq_ok.1 h
    obtain ⟨select, hselect, h⟩ := bind_eq_ok.1 h
    obtain ⟨name, hname, h⟩ := bind_eq_ok.1 h
    have hsolid : ∀ s ∈ select, Solid s.toList := by
      refine selectItems_solid (fun i hi => ?_) hselect
      rcases List.mem_cons.1 hi with rfl | hi
      · exact fun _ => solid_period hg (sqlName_solid hcolumn)
      · exact metricItems_solid hitems i hi
    have hparts : List.Forall₂ Restricts [filters, range]
        [treeMeaning r.filters, treeMeaning (rangeFilter r)] :=
      .cons (filterSql_restricts hfilters) (.cons (filterSql_restricts hrange) .nil)
    have hqueries := queries_joined ["GROUP BY 1 ORDER BY 1 ASC"] (Passed.joined hsolid) hname
      (conjunction_restricts hparts) (by simpa using series_tail)
    rw [← pure_eq_ok.1 h]
    exact ⟨⟨⟨_, hfilters⟩, _, hrange⟩, hqueries⟩

theorem series_readsTable {r : SeriesRequest} {table sql : String} (h : r.render table = .ok sql) :
    ReadsTable sql table 1 r.filters := by
  obtain ⟨⟨⟨filters, hfilters⟩, -⟩, hquery⟩ := series_queries h
  exact hquery.readsTable hfilters (together_implies (by simp))

end Sql

end MetricLayer
