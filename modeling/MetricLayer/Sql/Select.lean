import MetricLayer.Sql.MetricQuery

/-!
# Queries by columns

A `SelectQuery` describes one SELECT statement: what it projects, from which table and joins, under
which filter, grouped, ordered and cut how.  Charts and time series over several metrics are built
from it.
-/

namespace MetricLayer

open Number Text

/-- Something that a query projects. -/
inductive SelectItem where
  /-- A column under its own name. -/
  | column (name : String)
  /-- A column, or SQL as it stands when `raw`, under another name unless that is empty. -/
  | aliased (expr : String) (name : Option String) (raw : Bool)
  deriving DecidableEq, Repr

/-- The kinds of joins. -/
inductive JoinKind where
  | inner | left | right
  deriving DecidableEq, Repr

namespace JoinKind

/-- The word for a kind of join. -/
def word : JoinKind → String
  | inner => "INNER"
  | left => "LEFT"
  | right => "RIGHT"

/-- The kind of join with a word. -/
def ofWord? (s : String) : Option JoinKind := [inner, left, right].find? (·.word = s)

end JoinKind

/-- A joined table with the pairs of columns that are equal. -/
structure Join where
  /-- The kind of join. -/
  kind : JoinKind
  /-- The joined table. -/
  table : String
  /-- The equal columns, of the first table and of the joined one. -/
  on : List (String × String)
  deriving DecidableEq, Repr

/-- The directions of an order. -/
inductive Direction where
  | ascending | descending
  deriving DecidableEq, Repr

namespace Direction

/-- The word for a direction. -/
def word : Direction → String
  | ascending => "ASC"
  | descending => "DESC"

/-- The direction with a word. -/
def ofWord? (s : String) : Option Direction := [ascending, descending].find? (·.word = s)

end Direction

/-- A column to order by. -/
structure OrderField where
  /-- The column. -/
  field : String
  /-- The direction. -/
  direction : Direction
  deriving DecidableEq, Repr

/-- The description of one SELECT statement. -/
structure SelectQuery where
  /-- What is projected. -/
  select : List SelectItem
  /-- The first table. -/
  table : String
  /-- The joined tables. -/
  joins : List Join
  /-- The filter tree. -/
  filters : Value
  /-- The columns to group by. -/
  groupBy : List String
  /-- The columns to order by. -/
  orderBy : List OrderField
  /-- The greatest number of rows. -/
  limit : Option Nat
  /-- The number of rows to leave out. -/
  offset : Option Nat

/-! ## Rendering -/

/-- A projected item as SQL. -/
def SelectItem.render : SelectItem → Outcome String
  | column name => sqlName name
  | aliased expr name raw => do
    let sql ← if raw then pure expr else sqlName expr
    match name with
    | none => return sql
    | some name => if name = "" then return sql else return sql ++ " AS " ++ (← sqlName name)

/-- A column with its table; a column with a point in it names its own. -/
def qualified (table column : String) : Outcome String := do
  let (t, c) := match splitAtFirst? '.' column.toList with
    | some (t, c) => (String.ofList t, String.ofList c)
    | none => (table, column)
  return (← sqlName t) ++ "." ++ (← sqlName c)

/-- A join as SQL. -/
def Join.render (first : String) (j : Join) : Outcome String := do
  let pairs ← j.on.mapM fun (l, r) => do
    return (← qualified first l) ++ " = " ++ (← qualified j.table r)
  let table ← sqlName j.table
  return j.kind.word ++ " JOIN " ++ table ++ " ON " ++ joined " AND " pairs

/-- An order as SQL. -/
def OrderField.render (o : OrderField) : Outcome String := do
  return (← sqlName o.field) ++ " " ++ o.direction.word

/-- The query as a statement on one line. -/
def SelectQuery.render (q : SelectQuery) : Outcome String := do
  if q.select.isEmpty then throw (.filter .nothingSelected)
  let items ← q.select.mapM SelectItem.render
  let table ← sqlName q.table
  let joins ← q.joins.mapM (Join.render q.table)
  let condition ← filterSql q.filters
  let groups ← sqlNames q.groupBy
  let orders ← q.orderBy.mapM OrderField.render
  let limit := match q.limit with
    | some n => ["LIMIT " ++ decimalText n]
    | none => []
  let offset := match q.offset.getD 0 with
    | 0 => []
    | n => ["OFFSET " ++ decimalText n]
  return joined " " (["SELECT " ++ joined ", " items, "FROM " ++ table] ++ joins
    ++ (if condition = "" then [] else ["WHERE " ++ condition])
    ++ listClause "GROUP BY " groups ++ listClause "ORDER BY " orders ++ limit ++ offset)

/-! ## Reading -/

namespace SelectQuery

open Reader

/-- Reads an item given as an object. -/
def readAliased (source : Reader.Source) : Reader SelectItem :=
  record source fun fs =>
    .aliased <$> required fs "expr" text <*> optional fs "alias" none (nullable text)
      <*> optional fs "raw" false truth

/-- Reads a projected item: a column name or an object.  What is neither has the issues of both. -/
def readItem (source : Reader.Source) : Reader SelectItem := fun v =>
  match v with
  | .text name => .valid (.column name)
  | v =>
    match readAliased source v with
    | .valid item => .valid item
    | .invalid issues =>
      .invalid (⟨[.field "str"], .stringType⟩ :: issues.map (Issue.under (.field "SelectField")))

/-- Reads a join. -/
def readJoin (source : Reader.Source) : Reader Join :=
  record source fun fs =>
    Join.mk <$> optional fs "type" .inner (literal JoinKind.ofWord?) <*> required fs "table" text
      <*> required fs "on" (nonemptyListOf (pairOf text text))

/-- Reads a column to order by. -/
def readOrder (source : Reader.Source) : Reader OrderField :=
  record source fun fs =>
    OrderField.mk <$> required fs "field" text
      <*> optional fs "direction" .ascending (literal Direction.ofWord?)

/-- Reads a number of rows. -/
def readCount : Reader Nat := fun v => (integerFrom 0 v).map Int.toNat

/-- Reads a query. -/
def read : Reader SelectQuery :=
  record .data fun fs =>
    SelectQuery.mk <$> required fs "select" (listOf (readItem .data))
      <*> required fs "from_table" text
      <*> optional fs "joins" [] (listOf (readJoin .data))
      <*> optional fs "where" .null
        (fun v => ((nullable Reader.fields) v).map fun w => (w.map .object).getD .null)
      <*> optional fs "group_by" [] (listOf text)
      <*> optional fs "order_by" [] (listOf (readOrder .data))
      <*> optional fs "limit" none (nullable readCount)
      <*> optional fs "offset" none (nullable readCount)

end SelectQuery

/-! ## Charts and time series -/

/-- A metric under its name in a query over several metrics. -/
structure NamedMetric where
  /-- The name of the output column. -/
  name : String
  /-- The compiled metric. -/
  compiled : Compiled

/-- The items of several metrics; time functions are left out. -/
def metricItems (metrics : List NamedMetric) : Outcome (List SelectItem) :=
  (metrics.filter fun m => !m.compiled.isTimeIntel).mapM fun m => do
    return .aliased (← m.compiled.selectExpression) (some m.name) true

/-- What a chart shows. -/
structure ChartRequest where
  /-- The metrics, one column each. -/
  metrics : List NamedMetric
  /-- The columns to group by. -/
  dimensions : List String
  /-- The filter tree. -/
  filters : Value
  /-- The order of the rows. -/
  orderBy : List OrderField
  /-- The greatest number of rows, as it was asked for. -/
  limit : Value

/-- The query of a chart: the dimensions and one aggregated column for each metric. -/
def ChartRequest.render (r : ChartRequest) (table : String) : Outcome String := do
  let items ← metricItems r.metrics
  let limit ← match Reader.nullable SelectQuery.readCount r.limit with
    | .valid n => pure n
    | .invalid issues => throw (.invalidData (issues.map (Issue.under (.field "limit"))))
  SelectQuery.render
    { select := r.dimensions.map .column ++ items, table, joins := [],
      filters := if r.filters.isTruthy then r.filters else .null,
      groupBy := r.dimensions, orderBy := r.orderBy, limit, offset := none }

/-- The granularities of a time series. -/
def granularities : List String := ["day", "week", "month", "quarter", "year"]

/-- What a time series shows. -/
structure SeriesRequest where
  /-- The metrics, one column each. -/
  metrics : List NamedMetric
  /-- The date column. -/
  dateField : String
  /-- The length of the periods. -/
  granularity : String
  /-- The first date, or null. -/
  start : Value
  /-- The last date, or null. -/
  finish : Value
  /-- The filter tree. -/
  filters : Value

/-- The filter on the date column of a time series. -/
def rangeFilter (r : SeriesRequest) : Value :=
  let bounds := (if r.start.isNull then [] else [("gte", r.start)])
    ++ (if r.finish.isNull then [] else [("lte", r.finish)])
  if bounds.isEmpty then .null else .object [(r.dateField, .object bounds)]

/-- The query of a time series: each metric for each period. -/
def SeriesRequest.render (r : SeriesRequest) (table : String) : Outcome String := do
  if !granularities.contains r.granularity then
    throw (.filter (.unknownGranularity r.granularity))
  let dateColumn ← sqlName r.dateField
  let period := SelectItem.aliased ("DATE_TRUNC('" ++ r.granularity ++ "', " ++ dateColumn ++ ")")
    (some "period") true
  let items ← metricItems r.metrics
  let filters ← filterSql r.filters
  let range ← filterSql (rangeFilter r)
  let condition := conjunction [filters, range]
  let select ← (period :: items).mapM SelectItem.render
  let name ← sqlName table
  return joined " " (["SELECT " ++ joined ", " select, "FROM " ++ name]
    ++ (if condition = "" then [] else ["WHERE " ++ condition])
    ++ ["GROUP BY 1 ORDER BY 1 ASC"])

end MetricLayer
