import MetricLayer.Check.Issue
import MetricLayer.Expr.Fault
import MetricLayer.Text.Digit
import MetricLayer.Text.Search

/-!
# Failures

Everything that can go wrong outside the reading of expressions, as causes with one wording each.
`Failure.status?` separates the failures that answer a caller's mistake, each with its HTTP status,
from those that mean the request could not be served at all.
-/

namespace MetricLayer

/-- Why a value, a name or a batch of rows cannot be written as SQL. -/
inductive SqlTextFault where
  /-- A name is blank or no text at all; it is shown. -/
  | invalidName (shown : String)
  /-- A name holds a NUL. -/
  | nulInName
  /-- A text holds a NUL. -/
  | nulInText
  /-- A value of this kind has no literal. -/
  | unwritable (kind : String)
  /-- An insertion without rows. -/
  | noRows
  /-- Rows are to be inserted none at a time. -/
  | zeroBatch
  /-- A whole number has this many digits, which is more than are read. -/
  | tooManyDigits (count : Nat)
  deriving DecidableEq, Repr

/-- The wording of a text fault. -/
def SqlTextFault.message : SqlTextFault → String
  | invalidName shown => "Invalid SQL identifier: " ++ shown
  | nulInName => "NUL byte is not allowed in SQL identifiers"
  | nulInText => "NUL byte is not allowed in SQL string literals"
  | unwritable kind => s!"Cannot render value of type {kind} as a SQL literal"
  | noRows => "render_insert needs at least one row"
  | zeroBatch => "range() arg 3 must not be zero"
  | tooManyDigits count =>
    s!"Exceeds the limit ({Text.digitLimit} digits) for integer string conversion: value has {count} digits; "
      ++ "use sys.set_int_max_str_digits() to increase the limit"

/-- The operators of a filter, in alphabetical order. -/
def filterOperators : List String :=
  ["contains", "endsWith", "gt", "gte", "in", "lt", "lte", "ne", "notIn", "startsWith"]

/-- Why a filter or a query is refused. -/
inductive FilterFault where
  /-- The filter tree is no object. -/
  | notObject
  /-- A connective stands before something that is no list. -/
  | connectiveNeedsList (connective : String)
  /-- A field has an operator object without operators. -/
  | noOperators (field : String)
  /-- The operator does not exist. -/
  | unknownOperator (operator field : String)
  /-- The operator wants a list. -/
  | operatorNeedsList (operator : String)
  /-- The operator cannot compare with null. -/
  | nullComparison (operator : String)
  /-- A query selects nothing. -/
  | nothingSelected
  /-- A time series has a granularity that does not exist. -/
  | unknownGranularity (name : String)
  deriving DecidableEq, Repr

/-- The wording of a filter fault. -/
def FilterFault.message : FilterFault → String
  | notObject => "Filter tree must be an object"
  | connectiveNeedsList connective => s!"'{connective}' expects a list of filter objects"
  | noOperators field => s!"Empty operator object for field '{field}'"
  | unknownOperator operator field =>
    s!"Unknown filter operator '{operator}' on field '{field}'. Allowed: "
      ++ Text.joined ", " filterOperators
  | operatorNeedsList operator => s!"Operator '{operator}' expects a list of values"
  | nullComparison operator => s!"Operator '{operator}' cannot compare against null"
  | nothingSelected => "Query must select at least one column"
  | unknownGranularity name => s!"Unknown granularity '{name}'"

/-- Why an operation fails. -/
inductive Failure where
  /-- An expression is refused. -/
  | expression (fault : ExprFault)
  /-- A filter or a query is refused. -/
  | filter (fault : FilterFault)
  /-- A value, a name or a batch of rows cannot be written as SQL. -/
  | sqlText (fault : SqlTextFault)
  /-- A time function was run without a date field. -/
  | dateFieldRequired (func : TimeFunction)
  /-- The time function has no rendering. -/
  | unsupportedTimeFunction (func : TimeFunction)
  /-- A time function cannot share a query with other metrics. -/
  | uncombinableTimeFunction (func : TimeFunction)
  /-- There are no rows to infer a schema from. -/
  | emptySample
  /-- The rows break the schema, for these reasons. -/
  | rowsRejected (reasons : List String)
  /-- The data source has no table of this name. -/
  | tableNotFound (table source : String)
  /-- There is no table record with this id. -/
  | tableRecordNotFound (id : String)
  /-- There is no metric with this id. -/
  | metricNotFound (id : String)
  /-- The subject's data source has no table. -/
  | noTable (subject : String)
  /-- The subject has no data source. -/
  | noSource (subject : String)
  /-- There is no data source with this id. -/
  | sourceNotFound (id : String)
  /-- A metric of this name exists. -/
  | metricExists (name : String)
  /-- The table exists with another schema. -/
  | schemaConflict (table : String)
  /-- The policy for extra columns does not exist. -/
  | unknownColumnPolicy (name : String)
  /-- A signalling NaN has no double. -/
  | signallingNan
  /-- A text names no member of an enumeration. -/
  | unknownMember
  /-- A record would break a uniqueness rule. -/
  | duplicateRecord
  /-- The database failed on purpose. -/
  | simulated
  /-- The data do not have the required form. -/
  | invalidData (issues : List Issue)
  deriving Repr

/-- The outcome of an operation that can fail. -/
abbrev Outcome (α : Type) := Except Failure α

namespace Failure

/-- The summary of the reasons why rows were rejected: the first ten and the number of the rest. -/
def rejectionSummary (reasons : List String) : String :=
  let count := reasons.length
  let rest := count - 10
  s!"Data validation failed with {count} error(s): " ++ Text.joined "; " (reasons.take 10)
    ++ (if 10 < count then s!"; ... and {rest} more" else "")

/-- The wording of a failure. -/
def message : Failure → String
  | expression fault => fault.message
  | filter fault => fault.message
  | sqlText fault => fault.message
  | dateFieldRequired func => s!"A date field is required for {func.name}"
  | unsupportedTimeFunction func => s!"Unsupported time intelligence function: {func.name}"
  | uncombinableTimeFunction func =>
    s!"{func.name} metrics cannot be combined into a multi-metric query"
  | emptySample => "No data to infer schema from"
  | rowsRejected reasons => rejectionSummary reasons
  | tableNotFound table source => s!"Data table '{table}' not found for data source '{source}'"
  | tableRecordNotFound id => s!"Data table '{id}' not found"
  | metricNotFound id => s!"Metric '{id}' not found"
  | noTable subject => s!"No data table found for {subject}"
  | noSource subject => s!"No data table found for {subject}: it has no data source"
  | sourceNotFound id => s!"Data source '{id}' not found"
  | metricExists name => s!"Metric '{name}' already exists"
  | schemaConflict table => s!"Data table '{table}' already exists with a different schema"
  | unknownColumnPolicy name => s!"Unknown extra column policy '{name}'"
  | signallingNan => "cannot convert signaling NaN to float"
  | unknownMember => "unknown member"
  | duplicateRecord => "duplicate record"
  | simulated => "simulated failure"
  | invalidData _ => "invalid data"

/-- The single reasons of a failure; most have one. -/
def reasons : Failure → List String
  | rowsRejected (reason :: others) => reason :: others
  | failure => [failure.message]

/-- The HTTP status of a failure that answers a caller's mistake. -/
def status? : Failure → Option Nat
  | expression _ | filter _ | dateFieldRequired _ | unsupportedTimeFunction _
  | uncombinableTimeFunction _ | emptySample | rowsRejected _ => some 422
  | tableNotFound _ _ | tableRecordNotFound _ | metricNotFound _ | noTable _ | noSource _
  | sourceNotFound _ => some 404
  | metricExists _ | schemaConflict _ => some 409
  | sqlText _ | unknownColumnPolicy _ | signallingNan | unknownMember | duplicateRecord
  | simulated | invalidData _ => none

/-- The outcome of reading an expression as that of an operation. -/
def ofExpr {α : Type} : Except ExprFault α → Outcome α
  | .ok a => .ok a
  | .error fault => .error (.expression fault)

end Failure

end MetricLayer
