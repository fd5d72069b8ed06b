import MetricLayer.Calendar.Pattern
import MetricLayer.Dataset.Schema
import MetricLayer.Failure

/-!
# Schema inference

The type of a column is decided by its first fifty values that are not null: truth values, finite
numbers, at least four dates in five, or else texts.  A column is nullable when a sampled row lacks
it or holds null, and a date column also when one of its values is no date, since that value is
loaded as null.
-/

namespace MetricLayer

namespace Value

/-- The value is a finite number. -/
def isNumber : Value → Bool
  | int _ => true
  | float x => x.isFinite
  | decimal d => d.isFinite
  | _ => false

/-- The value is a truth value. -/
def isBool : Value → Bool
  | bool _ => true
  | _ => false

/-- The moment that a value is or spells. -/
def toMoment? : Value → Option Moment
  | moment m => some m
  | date d => some (.ofDate d)
  | text s => Moment.ofText? s
  | _ => none

/-- The value is or spells a date. -/
def isDate (v : Value) : Bool := v.toMoment?.isSome

end Value

/-- A row of uploaded data. -/
abbrev Row := Fields

/-- The value of a cell; a missing cell is null. -/
def Row.cell (row : Row) (name : String) : Value := (Fields.get? row name).getD .null

/-- The number of values that decide the type of a column. -/
def decidingValues : Nat := 50

/-- The type of a column with these values, none of which is null. -/
def ColumnType.ofValues (values : List Value) : ColumnType :=
  let sample := values.take decidingValues
  if sample.isEmpty then .string
  else if sample.all Value.isBool then .boolean
  else if sample.all Value.isNumber then .number
  else if 4 * sample.length ≤ 5 * sample.countP Value.isDate then .date
  else .string

/-- The first `limit` rows, or all but the last `-limit` when that is negative. -/
def sampleRows (limit : Int) (rows : List Row) : List Row :=
  if 0 ≤ limit then rows.take limit.toNat else rows.take (rows.length - limit.natAbs)

/-- The names of the cells of the rows, each once, in the order of their appearance. -/
def observedNames (rows : List Row) : List String :=
  Text.firstOccurrences (rows.flatMap Fields.names)

/-- The column of the sample with this name. -/
def Column.ofSample (sample : List Row) (name : String) : Checked Column :=
  let present := (sample.map (Row.cell · name)).filter (!·.isNull)
  let type := ColumnType.ofValues present
  let unloadable := type = .date && !present.all Value.isDate
  let nullable := present.length < sample.length || unloadable
  if h : name ≠ "" then .valid ⟨name, type, nullable, false, h⟩
  else Checked.under (.field "name") (.issue .stringTooShort)

/-- The number of rows that are looked at unless the caller says otherwise. -/
def defaultSampleRows : Int := 100

/-- The columns of the sample with these names, up to the first that has none. -/
def columnsOfSample (sample : List Row) : List String → Checked (List Column)
  | [] => .valid []
  | name :: rest =>
    (Column.ofSample sample name).andThen fun c => (columnsOfSample sample rest).map (c :: ·)

/-- The schema of a sample. -/
def Schema.ofSample (sample : List Row) : Checked Schema :=
  (columnsOfSample sample (observedNames sample)).andThen fun columns => Schema.check columns []

/-- The schema of the first rows. -/
def Schema.ofRows (rows : List Row) (sampleSize : Int) : Outcome Schema :=
  if rows.isEmpty then .error .emptySample
  else
    let limit := if sampleSize = 0 then defaultSampleRows else sampleSize
    match Schema.ofSample (sampleRows limit rows) with
    | .valid schema => .ok schema
    | .invalid issues => .error (.invalidData issues)

end MetricLayer
