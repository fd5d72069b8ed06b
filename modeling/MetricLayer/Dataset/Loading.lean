import MetricLayer.Dataset.Inference
import MetricLayer.Value.Display

/-!
# Loading rows

`checkRows` holds rows against a schema to the letter, `checkLoadable` only as far as loading needs
it: a cell that does not fit a nullable column becomes null.  `conform` is the value that is loaded
and `batches` the portions in which rows are written.
-/

namespace MetricLayer

open Number

/-- What to do about columns that the schema lacks. -/
inductive ColumnPolicy where
  /-- Warn and leave them out. -/
  | permissive
  /-- Refuse the rows. -/
  | strict
  deriving DecidableEq, Repr, Inhabited

/-- The policy with a name. -/
def ColumnPolicy.ofName (s : String) : Outcome ColumnPolicy :=
  if s = "permissive" then .ok .permissive
  else if s = "strict" then .ok .strict
  else .error (.unknownColumnPolicy s)

/-- The outcome of checking rows. -/
structure Report where
  /-- What forbids loading the rows. -/
  errors : List String
  /-- What is lost in loading them. -/
  warnings : List String
  /-- The columns that the schema lacks. -/
  extraColumns : List String
  deriving DecidableEq, Repr

/-- Nothing forbids loading the rows. -/
def Report.isValid (r : Report) : Bool := r.errors.isEmpty

/-- The value has the type of the column. -/
def ColumnType.accepts : ColumnType → Value → Bool
  | number, v => v.isNumber
  | boolean, v => v.isBool
  | date, v => v.isDate
  | string, .text _ => true
  | string, _ => false

/-- A value as a text, if the value is a scalar. -/
def scalarText : Value → Value
  | .text s => .text s
  | .date d => .text d.text
  | .moment m => .text m.text
  | .bool b => .text (boolWord b)
  | .int i => .text (integerText i)
  | .float x => .text (floatText x)
  | .decimal d => .text d.text
  | _ => .null

/-- The value that is stored for `v` in a column of a type; null when there is none. -/
def ColumnType.conform (type : ColumnType) (v : Value) : Value :=
  match type with
  | .date => (v.toMoment?.map .moment).getD .null
  | .string => scalarText v
  | .number => if v.isNumber then v else .null
  | .boolean => if v.isBool then v else .null

/-- The columns of the rows that the schema lacks. -/
def extraColumns (rows : List Row) (schema : Schema) : List String :=
  (observedNames rows).filter (!schema.columnNames.contains ·)

/-- The report on extra columns alone. -/
def reportExtras (rows : List Row) (schema : Schema) (policy : ColumnPolicy) : Report :=
  let extras := extraColumns rows schema
  let notes := extras.map ("Unexpected column: " ++ ·)
  match policy with
  | .permissive => ⟨[], notes, extras⟩
  | .strict => ⟨notes, [], extras⟩

/-- What the check of one cell found. -/
inductive CellNote where
  /-- Something that forbids loading. -/
  | refused (text : String)
  /-- Something that is lost. -/
  | lost (text : String)
  deriving DecidableEq, Repr

/-- The note on a missing value. -/
def nullNote (c : Column) (row : Nat) : List CellNote :=
  if c.nullable then []
  else [.refused s!"Null value in non-nullable column {c.name} at row {row}"]

/-- The note on a value of the wrong type. -/
def typeNote (c : Column) (row : Nat) (v : Value) : CellNote :=
  let expected := c.type.name
  let found := v.kindName
  .refused (s!"Invalid type for column {c.name} at row {row}: "
    ++ s!"expected {expected}, got {found}")

/-- The strict check of one cell. -/
def checkCell (c : Column) (row : Nat) (v : Value) : List CellNote :=
  if v.isNull then nullNote c row
  else if c.type.accepts v then []
  else [typeNote c row v]

/-- The check of one cell that is to be loaded. -/
def checkLoadableCell (c : Column) (row : Nat) (v : Value) : List CellNote :=
  if v.isNull then nullNote c row
  else if !(c.type.conform v).isNull then []
  else if c.nullable then
    let expected := c.type.name
    [.lost (s!"Value for column {c.name} at row {row} is not a valid {expected}; "
      ++ "loaded as NULL")]
  else [typeNote c row v]

/-- The notes on all cells, column by column; rows count from 1. -/
def cellNotes (check : Column → Nat → Value → List CellNote) (rows : List Row)
    (schema : Schema) : List CellNote :=
  schema.columns.flatMap fun c =>
    rows.zipIdx.flatMap fun (row, i) => check c (i + 1) (row.cell c.name)

/-- The text of a note that forbids loading. -/
def CellNote.refusal? : CellNote → Option String
  | refused text => some text
  | lost _ => none

/-- The text of a note on something lost. -/
def CellNote.loss? : CellNote → Option String
  | refused _ => none
  | lost text => some text

/-- The report on rows under a check of cells. -/
def reportWith (check : Column → Nat → Value → List CellNote) (rows : List Row)
    (schema : Schema) (policy : ColumnPolicy) : Report :=
  let extras := reportExtras rows schema policy
  let notes := cellNotes check rows schema
  ⟨extras.errors ++ notes.filterMap CellNote.refusal?,
    extras.warnings ++ notes.filterMap CellNote.loss?, extras.extraColumns⟩

/-- Holds rows against a schema to the letter. -/
def checkRows (rows : List Row) (schema : Schema) (policy : ColumnPolicy) : Report :=
  reportWith checkCell rows schema policy

/-- Checks that rows can be loaded into a table of the schema. -/
def checkLoadable (rows : List Row) (schema : Schema) (policy : ColumnPolicy) : Report :=
  reportWith checkLoadableCell rows schema policy

/-- The row that is stored for a row: exactly the columns of the schema. -/
def conformRow (schema : Schema) (row : Row) : Row :=
  schema.columns.map fun c => (c.name, c.type.conform (row.cell c.name))

/-- The rows in portions of `size`, the last one shorter; none when the size is zero. -/
def chunks {α : Type} (size : Nat) (xs : List α) : List (List α) :=
  if _h : size = 0 ∨ xs = [] then [] else xs.take size :: chunks size (xs.drop size)
termination_by xs.length
decreasing_by
  have : 0 < xs.length := List.length_pos_iff.mpr (by simp_all)
  simp only [List.length_drop]
  omega

/-- The portions in which rows are written; a size that is not positive gives none. -/
def batches (size : Int) (rows : List Row) : List (List Row) := chunks size.toNat rows

end MetricLayer
