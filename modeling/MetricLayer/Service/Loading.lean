import MetricLayer.Dataset.Loading
import MetricLayer.Service.World
import MetricLayer.Settings
import MetricLayer.Sql.Select

/-!
# Loading tables

Each logical table has one physical table.  Rows are checked as a whole before the first one is
written, and written in batches, each in a transaction of its own: when a batch fails, those before
it stay.  The row count is raised after all batches.

A configuration can set the batch size to zero.  Nothing refuses it before there are rows to be
written (`Action.requireBatches`).
-/

namespace MetricLayer

/-- How rows are loaded. -/
structure LoadSettings where
  /-- The number of rows in a batch. -/
  batchSize : Int
  /-- What to do about columns that the schema lacks. -/
  policy : ColumnPolicy
  deriving Repr

namespace LoadSettings

/-- The number of rows in a batch unless another is set. -/
def defaultBatchSize : Int := 500

/-- The settings with a batch size; zero stands for the default. -/
def of (batchSize : Int) (policy : ColumnPolicy) : LoadSettings :=
  ⟨if batchSize = 0 then defaultBatchSize else batchSize, policy⟩

/-- The settings that are used unless others are given. -/
def standard : LoadSettings := ⟨defaultBatchSize, .permissive⟩

/-- The batch size under a configuration; one that is absent or zero is taken from there. -/
def chosenSize (conf : Settings) (batchSize : Option Int) : Int :=
  (batchSize.filter (· ≠ 0)).getD conf.insertBatchSize

/-- The settings under a configuration; a policy that is absent or empty is taken from there. -/
def configured (conf : Settings) (batchSize : Option Int) (policy : Option String) :
    Outcome LoadSettings :=
  (ColumnPolicy.ofName ((policy.filter (· ≠ "")).getD conf.extraColumnPolicy)).map
    (⟨chosenSize conf batchSize, ·⟩)

end LoadSettings

namespace Action

/-- Goes on if nothing forbids loading. -/
def accept (report : Report) : Action Unit :=
  if report.isValid then pure () else throw (.rowsRejected report.errors)

/-- Writes batches of stored rows, one after another. -/
def writeBatches (physical : String) (columns : List String) : List (List Row) → Action Unit
  | [] => pure ()
  | batch :: rest => do
    onWarehouse fun w => w.insert physical columns batch
    writeBatches physical columns rest

/-- Goes on unless rows are to be written none at a time. -/
def requireBatches (s : LoadSettings) (rows : List Row) : Action Unit :=
  if s.batchSize = 0 ∧ rows ≠ [] then throw (.sqlText .zeroBatch) else pure ()

/-- Writes rows into a physical table in the form in which the schema stores them. -/
def writeRows (s : LoadSettings) (physical : String) (schema : Schema) (rows : List Row) :
    Action Unit := do
  requireBatches s rows
  writeBatches physical schema.columnNames
    ((batches s.batchSize rows).map (List.map (conformRow schema)))

/-- Writes rows into the physical table of a record and counts them. -/
def extend (s : LoadSettings) (t : DataTable) (rows : List Row) : Action DataTable :=
  if rows.isEmpty then pure t
  else do
    writeRows s t.physicalName t.schema rows
    onCatalog fun c now => c.addRows now t.id rows.length

/-- Creates a table with its first rows.  When it exists with the same schema the rows are added to
it. -/
def createTable (s : LoadSettings) (sourceId name : String) (schema : Schema) (rows : List Row) :
    Action DataTable := do
  let existing := (← catalog).table? sourceId name
  if existing.any (·.schema ≠ schema) then throw (.schemaConflict name)
  accept (checkLoadable rows schema s.policy)
  match existing with
  | some t => extend s t rows
  | none =>
    let physical := physicalNameFor sourceId name
    onWarehouse fun w => w.apply (.create physical schema.columns schema.primaryKeys)
    writeRows s physical schema rows
    onCatalog fun c now => c.putTable now sourceId name physical schema rows.length

/-- The table of a source with a name. -/
def findTable (sourceId name : String) : Action DataTable := do
  match (← catalog).table? sourceId name with
  | some t => return t
  | none => throw (.tableNotFound name sourceId)

/-- Adds rows to a table; they have to fit its schema to the letter. -/
def append (s : LoadSettings) (sourceId name : String) (rows : List Row) : Action DataTable := do
  let t ← findTable sourceId name
  accept (checkRows rows t.schema s.policy)
  extend s t rows

/-- A page of the rows of a table. -/
structure Page where
  /-- The greatest number of rows, as it was asked for. -/
  limit : Value
  /-- The number of rows to leave out, as it was asked for. -/
  offset : Value
  /-- The columns; all columns of the table when there are none. -/
  columns : List String

/-- The query of a page. -/
def Page.query (p : Page) (t : DataTable) : Outcome String :=
  let columns := if p.columns.isEmpty then t.schema.columnNames else p.columns
  let count (name : String) (v : Value) :=
    (Reader.nullable SelectQuery.readCount v).under (.field name)
  match Prod.mk <$> count "limit" p.limit <*> count "offset" p.offset with
  | .invalid issues => .error (.invalidData issues)
  | .valid (limit, offset) =>
    SelectQuery.render
      { select := columns.map .column, table := t.physicalName, joins := [], filters := .null,
        groupBy := [], orderBy := [⟨serialColumn, .ascending⟩], limit, offset }

/-- The rows on a page of a table. -/
def preview (sourceId name : String) (p : Page) : Action (List Fields) := do
  let t ← findTable sourceId name
  query (← ofOutcome (p.query t))

/-- Drops the physical tables of records, one after another. -/
def dropTables : List DataTable → Action Unit
  | [] => pure ()
  | t :: rest => do
    onWarehouse fun w => w.apply (.drop t.physicalName)
    dropTables rest

/-- Drops the physical tables of a source and then removes its records. -/
def dropSource (id : String) : Action Unit := do
  let c ← catalog
  if (c.source? id).isNone then throw (.sourceNotFound id)
  dropTables (c.tablesOf id)
  onCatalog fun c _ => c.deleteSource id

end Action

end MetricLayer
