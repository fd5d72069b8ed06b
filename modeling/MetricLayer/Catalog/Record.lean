import MetricLayer.Calendar.Moment
import MetricLayer.Dataset.Schema
import MetricLayer.Metric.Compiled

/-!
# Records of the catalog

The catalog knows data sources, the tables loaded for them and the metrics defined on them.  Every
record has an id, which is the number of its insertion written in the form of a UUID.
-/

namespace MetricLayer

open Number

/-- The id of the `n`-th record. -/
def recordId (n : Nat) : String := s!"{paddedHex 8 n}-0000-4000-8000-{paddedHex 12 n}"

/-- A text, or null when there is none. -/
def Value.ofText? (s : Option String) : Value := (s.map .text).getD .null

/-! ## Data sources -/

/-- The kinds of data sources. -/
inductive SourceKind where
  | csv | excel | json | database | api
  deriving DecidableEq, Repr, Inhabited

namespace SourceKind

/-- All kinds of data sources. -/
def all : List SourceKind := [csv, excel, json, database, api]

/-- The name of a kind. -/
def name : SourceKind → String
  | csv => "CSV"
  | excel => "EXCEL"
  | json => "JSON"
  | database => "DATABASE"
  | api => "API"

/-- The kind with a name. -/
def ofName? (s : String) : Option SourceKind := all.find? (·.name = s)

end SourceKind

/-- Where data come from. -/
structure DataSource where
  /-- The id. -/
  id : String
  /-- The name, which no other source has. -/
  name : String
  /-- What the source is about. -/
  description : Option String
  /-- The kind of the source. -/
  kind : SourceKind
  /-- The source is in use. -/
  isActive : Bool
  /-- When the source was created. -/
  createdAt : Moment
  deriving DecidableEq, Repr

/-- A source as a value. -/
def DataSource.toValue (s : DataSource) : Value :=
  .object [("id", .text s.id), ("name", .text s.name), ("description", .ofText? s.description),
    ("type", .text s.kind.name), ("is_active", .bool s.isActive),
    ("created_at", .text s.createdAt.text)]

/-! ## Tables -/

/-- A table of a data source and the physical table behind it. -/
structure DataTable where
  /-- The id. -/
  id : String
  /-- The id of the data source. -/
  sourceId : String
  /-- The name, which no other table of the source has. -/
  name : String
  /-- The name of the physical table, which no other table has. -/
  physicalName : String
  /-- The columns. -/
  schema : Schema
  /-- The number of loaded rows. -/
  rowCount : Int
  /-- When the table was created. -/
  createdAt : Moment
  /-- When the schema or the number of rows changed last. -/
  updatedAt : Moment
  deriving DecidableEq, Repr

/-- A table as a value; it is displayed under its own name. -/
def DataTable.toValue (t : DataTable) : Value :=
  .object [("id", .text t.id), ("data_source_id", .text t.sourceId), ("table_name", .text t.name),
    ("display_name", .text t.name), ("physical_name", .text t.physicalName),
    ("schema", t.schema.toValue), ("row_count", .int t.rowCount),
    ("created_at", .text t.createdAt.text), ("updated_at", .text t.updatedAt.text)]

/-! ## Metrics -/

/-- What a metric is called and how its values are written. -/
structure MetricLabel where
  /-- The name, which no other metric has. -/
  name : String
  /-- The name that is shown. -/
  displayName : String
  /-- What the metric means. -/
  description : Option String
  /-- The number format. -/
  format : String
  /-- The number of decimal places. -/
  decimalPlaces : Int
  /-- The text before a value. -/
  before : Option String
  /-- The text after a value. -/
  after : Option String
  deriving DecidableEq, Repr

/-- The number format of a metric that names none. -/
def defaultFormat : String := "decimal"

/-- The number of decimal places of a metric that gives none. -/
def defaultPlaces : Int := 2

/-- A metric to be defined. -/
structure MetricDefinition where
  /-- The names and the number format. -/
  label : MetricLabel
  /-- The type that the expression is meant to have. -/
  type : Option MetricType
  /-- The expression. -/
  expression : String
  /-- The id of the data source. -/
  sourceId : Option String
  deriving DecidableEq, Repr

/-- The greatest length of a metric's name. -/
def metricNameLimit : Nat := 120

open Reader in
/-- Reads a definition. -/
def MetricDefinition.read (source : Reader.Source) : Reader MetricDefinition :=
  record source fun fs =>
    let build (name displayName : String) (description : Option String) (type : Option MetricType)
        (expression : String) (sourceId : Option String) (format : String) (places : Int)
        (before after : Option String) : MetricDefinition :=
      ⟨⟨name, displayName, description, format, places, before, after⟩, type, expression, sourceId⟩
    build <$> required fs "name" (shortText metricNameLimit)
      <*> required fs "display_name" nonemptyText
      <*> optional fs "description" none (nullable text)
      <*> optional fs "type" none (nullable (member MetricType.ofName?))
      <*> required fs "expression" text
      <*> optional fs "data_source_id" none (nullable text)
      <*> optional fs "format" defaultFormat text
      <*> optional fs "decimal_places" defaultPlaces integer
      <*> optional fs "prefix" none (nullable text)
      <*> optional fs "suffix" none (nullable text)

/-- A metric with its compiled expression. -/
structure Metric where
  /-- The id. -/
  id : String
  /-- The names and the number format. -/
  label : MetricLabel
  /-- The type. -/
  type : MetricType
  /-- The expression as it was written. -/
  expression : String
  /-- The compiled expression. -/
  compiled : Compiled
  /-- The id of the data source, while that exists. -/
  sourceId : Option String
  /-- The metric is in use. -/
  isActive : Bool
  /-- When the metric was created. -/
  createdAt : Moment
  deriving DecidableEq, Repr

/-- The name of a metric. -/
def Metric.name (m : Metric) : String := m.label.name

/-- A metric as a value. -/
def Metric.toValue (m : Metric) : Value :=
  .object [("id", .text m.id), ("name", .text m.label.name),
    ("display_name", .text m.label.displayName), ("description", .ofText? m.label.description),
    ("type", .text m.type.name), ("expression", .text m.expression),
    ("parsed_formula", m.compiled.toValue), ("data_source_id", .ofText? m.sourceId),
    ("format", .text m.label.format), ("decimal_places", .int m.label.decimalPlaces),
    ("prefix", .ofText? m.label.before), ("suffix", .ofText? m.label.after),
    ("is_active", .bool m.isActive), ("created_at", .text m.createdAt.text)]

open Reader in
/-- Reads the record of a metric from its stored columns. -/
def Metric.ofColumns (id : String) (type : MetricType) (compiled : Compiled) (now : Moment)
    (columns : Fields) : Checked Metric :=
  let build (name displayName : String) (description : Option String) (expression : String)
      (sourceId : Option String) (format : String) (places : Int) (before after : Option String)
      (isActive : Bool) : Metric :=
    ⟨id, ⟨name, displayName, description, format, places, before, after⟩, type, expression, compiled,
      sourceId, isActive, now⟩
  build <$> required columns "name" text
    <*> required columns "display_name" text
    <*> optional columns "description" none (nullable text)
    <*> required columns "expression" text
    <*> optional columns "data_source_id" none (nullable text)
    <*> optional columns "format" defaultFormat text
    <*> optional columns "decimal_places" defaultPlaces integer
    <*> optional columns "prefix" none (nullable text)
    <*> optional columns "suffix" none (nullable text)
    <*> optional columns "is_active" true truth

end MetricLayer
