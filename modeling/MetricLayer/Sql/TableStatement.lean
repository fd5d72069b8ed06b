import MetricLayer.Dataset.Inference
import MetricLayer.Sql.Literal

/-!
# Statements on physical tables

Creating, filling and dropping the physical table behind a logical one.  Every table has a serial
column of its own, which is the key unless the schema names keys.
-/

namespace MetricLayer

open Text

/-- The name of the serial column. -/
def serialColumn : String := "id"

/-- The database type of a column type. -/
def ColumnType.sqlType : ColumnType → String
  | number => "DOUBLE PRECISION"
  | boolean => "BOOLEAN"
  | date => "TIMESTAMP"
  | string => "TEXT"

/-- The line of a column in a table definition. -/
def columnLine (c : Column) : Outcome String := do
  let name ← sqlName c.name
  return name ++ " " ++ c.type.sqlType ++ (if c.nullable then " NULL" else " NOT NULL")

/-- The definition of a table. -/
def createStatement (physical : String) (columns : List Column) (keys : List String) :
    Outcome String := do
  let serial ← sqlName serialColumn
  let first := serial ++ (if keys.isEmpty then " BIGSERIAL PRIMARY KEY" else " BIGSERIAL")
  let lines ← columns.mapM columnLine
  let keyNames ← keys.mapM sqlName
  let last := if keys.isEmpty then [] else ["PRIMARY KEY (" ++ joined ", " keyNames ++ ")"]
  let table ← sqlName physical
  return "CREATE TABLE IF NOT EXISTS " ++ table ++ " (\n    "
    ++ joined ",\n    " (first :: lines ++ last) ++ "\n)"

/-- The literals of a row in the order of the columns, in parentheses; a missing cell is NULL. -/
def rowTuple (columns : List String) (row : Row) : Outcome String := do
  let cells ← columns.mapM fun name => sqlLiteral (row.cell name)
  return "(" ++ joined ", " cells ++ ")"

/-- The insertion of at least one row. -/
def insertStatement (physical : String) (columns : List String) (rows : List Row) :
    Outcome String := do
  if rows.isEmpty then throw (.sqlText .noRows)
  let names ← columns.mapM sqlName
  let tuples ← rows.mapM (rowTuple columns)
  let table ← sqlName physical
  return "INSERT INTO " ++ table ++ " (" ++ joined ", " names ++ ")\nVALUES "
    ++ joined ",\n" tuples

/-- The removal of a table. -/
def dropStatement (physical : String) : Outcome String := do
  return "DROP TABLE IF EXISTS " ++ (← sqlName physical)

end MetricLayer
