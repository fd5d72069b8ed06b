import MetricLayer.Metric.Compiled
import MetricLayer.Sql.Condition
import MetricLayer.Sql.Formula

/-!
# Queries of metrics

The SELECT statement of one compiled metric against its table.  Aggregates and formulas are one
value for each group; the time functions have shapes of their own: the period to date, the change
against the period before, and windows of rows.
-/

namespace MetricLayer

open Number Text

/-- The clauses of a SELECT statement; an empty clause is left out. -/
structure Statement where
  /-- The selected expressions. -/
  select : List String
  /-- The table. -/
  table : String
  /-- The condition. -/
  condition : String
  /-- The expressions to group by. -/
  groupBy : List String
  /-- The expressions to order by. -/
  orderBy : List String

/-- A clause of a statement, unless it has nothing to list. -/
def listClause (head : String) (items : List String) : List String :=
  if items.isEmpty then [] else [head ++ joined ", " items]

/-- The statement on one line. -/
def Statement.render (s : Statement) : Outcome String := do
  let table ← sqlName s.table
  let condition := if s.condition = "" then [] else ["WHERE " ++ s.condition]
  return joined " " (["SELECT " ++ joined ", " s.select, "FROM " ++ table] ++ condition
    ++ listClause "GROUP BY " s.groupBy ++ listClause "ORDER BY " s.orderBy)

/-- Column names as quoted identifiers. -/
def sqlNames (names : List String) : Outcome (List String) := names.mapM sqlName

/-- What a metric is asked for. -/
structure MetricRequest where
  /-- The physical table. -/
  table : String
  /-- The filter tree. -/
  filters : Value
  /-- The columns to group by. -/
  groupBy : List String
  /-- The date column, which the time functions need. -/
  dateField : Option String

/-! ## Aggregates and formulas -/

/-- One value for each group. -/
def groupedQuery (r : MetricRequest) (groups : List String) (value : String) : Outcome String := do
  let condition ← filterSql r.filters
  Statement.render ⟨groups ++ [value ++ " AS value"], r.table, condition, groups, []⟩

/-- An aggregate of a column as SQL. -/
def aggregateOf (func : Aggregate) (field : String) : Outcome String := do
  return func.name ++ "(" ++ (← sqlName field) ++ ")"

/-! ## Time functions -/

/-- The families of time functions that have a rendering. -/
inductive TimeShape where
  /-- From the start of the period until today. -/
  | toDate (period : String)
  /-- The current year against the one before. -/
  | yearOverYear
  /-- The current month against the one before. -/
  | monthOverMonth
  /-- An aggregate over the latest rows. -/
  | rolling (func : Aggregate)

/-- The family of a time function; some have no rendering. -/
def TimeFunction.shape? : TimeFunction → Option TimeShape
  | ytd => some (.toDate "year")
  | qtd => some (.toDate "quarter")
  | mtd => some (.toDate "month")
  | yoy => some .yearOverYear
  | mom => some .monthOverMonth
  | rollingAverage => some (.rolling .avg)
  | rollingSum => some (.rolling .sum)
  | qoq | previousPeriod | cagr => none

/-- The number of rows of a window when the call does not give it. -/
def defaultWindow : Nat := 3

/-- The number of rows of a window: the last of several arguments when it is a positive whole
number.  A numeral with too many digits is refused. -/
def windowOf (args : List Expr) : Outcome Nat :=
  match args with
  | _ :: _ :: _ =>
    match args.getLast? with
    | some (.number text) =>
      match readDigits? text.toList with
      | some n =>
        if digitLimit < text.length then .error (.sqlText (.tooManyDigits text.length))
        else .ok (if 1 ≤ n then n else defaultWindow)
      | none => .ok defaultWindow
    | _ => .ok defaultWindow
  | _ => .ok defaultWindow

/-- The value from the start of the current period until today. -/
def toDateStatement (r : MetricRequest) (inner : Expr) (period dateColumn : String) :
    Outcome String := do
  let groups ← sqlNames r.groupBy
  let value ← inner.renderAsAggregate .sum
  let filters ← filterSql r.filters
  let condition := conjunction
    [dateColumn ++ " >= DATE_TRUNC('" ++ period ++ "', CURRENT_DATE)", filters]
  Statement.render ⟨groups ++ [value ++ " AS value"], r.table, condition, groups, []⟩

/-- The predicates of the current and the previous period and the name of the change. -/
structure PeriodPair where
  /-- The predicate of the current period. -/
  current : String
  /-- The predicate of the period before. -/
  previous : String
  /-- The name of the column with the change in per cent. -/
  change : String

/-- The current year and the one before. -/
def yearPair (dateColumn : String) : PeriodPair :=
  let head := "EXTRACT(YEAR FROM " ++ dateColumn ++ ") = EXTRACT(YEAR FROM CURRENT_DATE)"
  ⟨head, head ++ " - 1", "yoy_change"⟩

/-- The current month and the one before. -/
def monthPair (dateColumn : String) : PeriodPair :=
  let head := "DATE_TRUNC('month', " ++ dateColumn ++ ") = DATE_TRUNC('month', CURRENT_DATE"
  ⟨head ++ ")", head ++ " - INTERVAL '1 month')", "mom_change"⟩

/-- The values of two periods and the change between them. -/
def comparisonStatement (r : MetricRequest) (inner : Expr) (pair : PeriodPair) :
    Outcome String := do
  let value ← inner.renderAsAggregate .sum
  let filters ← filterSql r.filters
  let select := [value ++ " AS value"]
  let current ← Statement.render
    ⟨select, r.table, conjunction [pair.current, filters], [], []⟩
  let previous ← Statement.render
    ⟨select, r.table, conjunction [pair.previous, filters], [], []⟩
  return "SELECT current_period.value AS value, previous_period.value AS previous_value, "
    ++ "((current_period.value - previous_period.value) "
    ++ "/ NULLIF(CAST(previous_period.value AS DOUBLE PRECISION), 0) * 100) "
    ++ "AS " ++ pair.change ++ " FROM (" ++ current ++ ") AS current_period "
    ++ "CROSS JOIN (" ++ previous ++ ") AS previous_period"

/-- An aggregate over a window of the latest rows.  An argument that already aggregates needs one
row for each date and group. -/
def rollingStatement (r : MetricRequest) (func : Aggregate) (args : List Expr) (inner : Expr)
    (dateColumn : String) : Outcome String := do
  let rows ← windowOf args
  let groups ← sqlNames r.groupBy
  let partition := if groups.isEmpty then "" else "PARTITION BY " ++ joined ", " groups ++ " "
  let window := "OVER (" ++ partition ++ "ORDER BY " ++ dateColumn ++ " ROWS BETWEEN "
    ++ decimalText (rows - 1) ++ " PRECEDING AND CURRENT ROW)"
  let sql ← inner.render
  let value := func.name ++ "(" ++ sql ++ ") " ++ window ++ " AS value"
  let condition ← filterSql r.filters
  let keys := groups ++ [dateColumn]
  Statement.render
    ⟨keys ++ [value], r.table, condition, if inner.containsAggregate then keys else [], keys⟩

/-- The call that a stored time function makes of its argument text. -/
def storedCall (func : TimeFunction) (text : String) : Outcome (List Expr) := do
  match ← Failure.ofExpr (Expr.parse (func.name ++ "(" ++ text ++ ")")) with
  | .timeCall _ args _ => return args
  | _ => throw (.expression (.storedCall func))

/-- The query of a time function. -/
def timeQuery (r : MetricRequest) (func : TimeFunction) (text : String) : Outcome String := do
  let some shape := func.shape? | throw (.unsupportedTimeFunction func)
  let dateField := r.dateField.getD ""
  if dateField = "" then throw (.dateFieldRequired func)
  let args ← storedCall func text
  let dateColumn ← sqlName dateField
  let inner := args.headD .star
  match shape with
  | .toDate period => toDateStatement r inner period dateColumn
  | .yearOverYear => comparisonStatement r inner (yearPair dateColumn)
  | .monthOverMonth => comparisonStatement r inner (monthPair dateColumn)
  | .rolling aggregate => rollingStatement r aggregate args inner dateColumn

namespace Compiled

/-- The query of a compiled metric. -/
def query (c : Compiled) (r : MetricRequest) : Outcome String :=
  match c with
  | aggregation func field => do
    let groups ← sqlNames r.groupBy
    groupedQuery r groups (← aggregateOf func field)
  | formula text _ => do
    let groups ← sqlNames r.groupBy
    groupedQuery r groups ("(" ++ (← formulaSql text) ++ ")")
  | timeIntel func text _ => timeQuery r func text

/-- The expression of a compiled metric beside other metrics in one query. -/
def selectExpression : Compiled → Outcome String
  | aggregation func field => aggregateOf func field
  | formula text _ => do return "(" ++ (← formulaSql text) ++ ")"
  | timeIntel func _ _ => .error (.uncombinableTimeFunction func)

/-- The compiled metric is a time function. -/
def isTimeIntel : Compiled → Bool
  | timeIntel .. => true
  | _ => false

end Compiled

end MetricLayer
