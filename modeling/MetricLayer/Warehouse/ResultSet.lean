import MetricLayer.Failure
import MetricLayer.Value.Display

/-!
# Results of queries

The rows that the database returns for a query and the form in which they are delivered: decimals as
doubles, dates, moments and lengths of time as texts, everything else as it is.
-/

namespace MetricLayer

/-- The columns and rows that the database returns. -/
structure ResultSet where
  /-- The names of the columns. -/
  columns : List String
  /-- The rows, each a list of cells. -/
  rows : List (List Value)

/-- A value as it is delivered. -/
def Value.delivered : Value → Outcome Value
  | .decimal d =>
    match d.toFloat? with
    | some x => .ok (.float x)
    | none => .error .signallingNan
  | .date d => .ok (.text d.text)
  | .moment m => .ok (.text m.text)
  | .duration d => .ok (.text d.text)
  | v => .ok v

namespace ResultSet

/-- A row with its cells under the names of the columns.  Cells without a column are left out, and
of two columns with one name the last one counts. -/
def namedRow (columns : List String) (cells : List Value) : Outcome Fields := do
  let pairs ← (columns.zip cells).mapM fun (name, v) => do return (name, ← v.delivered)
  return Fields.update [] pairs

/-- All rows as they are delivered. -/
def delivered (r : ResultSet) : Outcome (List Fields) := r.rows.mapM (namedRow r.columns)

end ResultSet

end MetricLayer
