import MetricLayer.Sql.TableStatement

/-!
# Changes of physical tables

A change creates a physical table, adds rows to it or drops it.  `Change.render` is the statement
that makes the change.
-/

namespace MetricLayer

/-- A change of the physical tables. -/
inductive Change where
  /-- Creates a table with these columns and keys, unless it exists. -/
  | create (physical : String) (columns : List Column) (keys : List String)
  /-- Adds rows under these columns. -/
  | insert (physical : String) (columns : List String) (rows : List Row)
  /-- Drops a table, if it exists. -/
  | drop (physical : String)

namespace Change

/-- The statement of a change. -/
def render : Change → Outcome String
  | create physical columns keys => createStatement physical columns keys
  | insert physical columns rows => insertStatement physical columns rows
  | drop physical => dropStatement physical

/-- The physical table that is changed. -/
def target : Change → String
  | create physical _ _ => physical
  | insert physical _ _ => physical
  | drop physical => physical

/-- The transaction of the change is opened before its statement is written.  So a removal that
cannot be written leaves an empty transaction behind, while other changes leave nothing. -/
def opensFirst : Change → Bool
  | drop _ => true
  | _ => false

end Change

end MetricLayer
