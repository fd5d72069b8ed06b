import MetricLayer.Catalog.Store
import MetricLayer.Warehouse

/-!
# Actions on the catalog and the warehouse

An action reads and changes the catalog and the warehouse.  What it did before it failed stays done:
each change of either side is an atomic step of its own.
-/

namespace MetricLayer

/-- The records and the rows they are about. -/
structure World where
  /-- The records. -/
  catalog : Catalog
  /-- The database with the rows. -/
  warehouse : Warehouse
  /-- The present time. -/
  now : Moment

/-- A computation that may fail and that changes the world step by step. -/
abbrev Action (α : Type) := ExceptT Failure (StateM World) α

namespace Action

variable {α : Type}

/-- The outcome of a computation that changes nothing. -/
def ofOutcome (o : Outcome α) : Action α := fun w => (o, w)

/-- An update of the catalog at the present time. -/
def onCatalog (update : Catalog → Moment → Outcome α × Catalog) : Action α := fun w =>
  let (o, catalog) := update w.catalog w.now
  (o, { w with catalog })

/-- A step of the warehouse. -/
def onWarehouse (step : Warehouse → Outcome α × Warehouse) : Action α := fun w =>
  let (o, warehouse) := step w.warehouse
  (o, { w with warehouse })

/-- The records. -/
def catalog : Action Catalog := fun w => (.ok w.catalog, w)

/-- The answer to a query. -/
def query (sql : String) : Action (List Fields) := onWarehouse fun w => w.query sql []

end Action

end MetricLayer
