import MetricLayer.Calendar.InternetTime
import MetricLayer.Catalog.Record
import MetricLayer.Http.Message
import MetricLayer.Sql.Select

/-!
# Reading bodies and parameters of requests

Every kind of body is a record with a reader.  Issues are placed under `body` or `query`, so that a
caller sees where the data came from.
-/

namespace MetricLayer.Http

open Reader

/-- Reads the body of a request. -/
def readBody {α : Type} (r : Request) (reader : Reader α) : Checked α :=
  (match r.body with
    | some v => reader v
    | none => .issue .missing).under (.field "body")

/-- Reads a parameter after the path. -/
def readParameter {α : Type} (r : Request) (name : String) (default : α) (reader : Reader α) :
    Checked α :=
  match r.parameter? name with
  | some s => ((reader (.text s)).under (.field name)).under (.field "query")
  | none => .valid default

/-! ## Dates -/

/-- Both readings of a date field fail. -/
def neitherDate (asDate asMoment : IssueKind) : Checked Value :=
  .invalid [⟨[.field "date"], asDate⟩, ⟨[.field "datetime"], asMoment⟩]

/-- The start of a day is read as its date and any other stamp as a moment. -/
def dateOrMoment (s : Stamp) : Checked Value :=
  let atStart := s.clock = .midnight
  match s.day with
  | .date d => .valid (if atStart then .date d else .moment ⟨d, s.clock, s.offset⟩)
  | .yearZero =>
    neitherDate (if atStart then .dateParsing else .dateFromDatetimeInexact) .datetimeParsing

/-- Reads a date or a moment, written or counted.  A whole number beyond every double is not taken for
a count at all. -/
def readDateOrMoment : Reader Value
  | .text s =>
    match Stamp.ofInternet? s with
    | some stamp => dateOrMoment stamp
    | none => neitherDate .dateFromDatetimeParsing .datetimeFromDateParsing
  | .int n =>
    match UnixTime.ofInt? n with
    | some stamp => dateOrMoment stamp
    | none =>
      if Number.fitsDouble n.natAbs then neitherDate .dateFromDatetimeParsing .datetimeParsing
      else neitherDate .dateType .datetimeType
  | .float x =>
    match UnixTime.ofFloat? x with
    | some stamp => dateOrMoment stamp
    | none => neitherDate .dateFromDatetimeParsing .datetimeParsing
  | _ => neitherDate .dateType .datetimeType

/-! ## Bodies -/

/-- A data source to be created. -/
structure SourceBody where
  /-- The name. -/
  name : String
  /-- What the source is about. -/
  description : Option String
  /-- The kind of the source. -/
  kind : SourceKind

/-- The greatest length of the name of a source. -/
def sourceNameLimit : Nat := 255

/-- Reads a data source to be created. -/
def SourceBody.read : Reader SourceBody :=
  record .request fun fs =>
    SourceBody.mk <$> required fs "name" (shortText sourceNameLimit)
      <*> optional fs "description" none (nullable text)
      <*> optional fs "type" .csv (member SourceKind.ofName?)

/-- Reads the rows of an upload. -/
def readRows : Reader (List Fields) := listOf fields

/-- A table to be created. -/
structure TableBody where
  /-- The name. -/
  name : String
  /-- The first rows. -/
  rows : List Fields
  /-- The schema, unless it is to be inferred. -/
  schema : Option Schema

/-- Reads a table to be created; the schema has two names. -/
def TableBody.read : Reader TableBody :=
  record .request fun fs =>
    let schemaName := if (fs.get? "schema").isSome then "schema" else "schema_"
    TableBody.mk <$> required fs "table_name" nonemptyText
      <*> optional fs "rows" [] readRows
      <*> optional fs schemaName none (nullable (readSchema .request))

/-- Reads rows on their own. -/
def readUpload : Reader (List Fields) :=
  record .request fun fs => required fs "rows" readRows

/-- Reads an expression on its own. -/
def readExpression : Reader String :=
  record .request fun fs => required fs "expression" text

/-- What a metric is run with. -/
structure RunBody where
  /-- The caller's filter tree. -/
  filters : Fields
  /-- The columns to group by. -/
  groupBy : List String
  /-- The date column. -/
  dateField : Option String

/-- Reads what a metric is run with. -/
def RunBody.read : Reader RunBody :=
  record .request fun fs =>
    RunBody.mk <$> optional fs "filters" [] fields
      <*> optional fs "group_by" [] (listOf text)
      <*> optional fs "date_field" none (nullable text)

/-- A chart. -/
structure ChartBody where
  /-- The id of the data source. -/
  sourceId : String
  /-- The ids of the metrics. -/
  metricIds : List String
  /-- The columns to group by. -/
  dimensions : List String
  /-- The caller's filter tree. -/
  filters : Fields
  /-- The order of the rows. -/
  orderBy : List OrderField
  /-- The greatest number of rows. -/
  limit : Option Int

/-- Reads a chart. -/
def ChartBody.read : Reader ChartBody :=
  record .request fun fs =>
    ChartBody.mk <$> required fs "data_source_id" text
      <*> required fs "metric_ids" (nonemptyListOf text)
      <*> optional fs "dimensions" [] (listOf text)
      <*> optional fs "filters" [] fields
      <*> optional fs "order_by" [] (listOf (SelectQuery.readOrder .request))
      <*> optional fs "limit" none (nullable (integerFrom 1))

/-- A time series. -/
structure SeriesBody where
  /-- The id of the data source. -/
  sourceId : String
  /-- The ids of the metrics. -/
  metricIds : List String
  /-- The date column. -/
  dateField : String
  /-- The length of the periods. -/
  granularity : String
  /-- The first date, or null. -/
  start : Value
  /-- The last date, or null. -/
  finish : Value
  /-- The caller's filter tree. -/
  filters : Fields

/-- The length of the periods unless another is given. -/
def defaultGranularity : String := "month"

/-- A granularity, by its name. -/
def granularity? (s : String) : Option String := granularities.find? (· = s)

/-- Reads a date that may be absent. -/
def readBound : Reader Value := fun v =>
  (nullable readDateOrMoment v).map fun bound => bound.getD .null

/-- Reads a time series. -/
def SeriesBody.read : Reader SeriesBody :=
  record .request fun fs =>
    SeriesBody.mk <$> required fs "data_source_id" text
      <*> required fs "metric_ids" (nonemptyListOf text)
      <*> required fs "date_field" text
      <*> optional fs "granularity" defaultGranularity (literal granularity?)
      <*> optional fs "start" .null readBound
      <*> optional fs "end" .null readBound
      <*> optional fs "filters" [] fields

end MetricLayer.Http
