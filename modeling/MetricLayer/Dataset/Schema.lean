import MetricLayer.Check.Reader
import MetricLayer.Text.Search

/-!
# Schemas of tables

A schema is an ordered list of columns with distinct names and a list of keys among them.  Both
rules are part of the type; `Schema.check` gives the first rule that a list of columns breaks.
-/

namespace MetricLayer

/-- The types of columns. -/
inductive ColumnType where
  | string | number | date | boolean
  deriving DecidableEq, Repr, Inhabited

namespace ColumnType

/-- All column types. -/
def all : List ColumnType := [string, number, date, boolean]

/-- The name of a column type. -/
def name : ColumnType → String
  | string => "string"
  | number => "number"
  | date => "date"
  | boolean => "boolean"

/-- The column type with a name. -/
def ofName? (s : String) : Option ColumnType := all.find? (·.name = s)

end ColumnType

/-- A column of a table. -/
structure Column where
  /-- The name, which is not empty. -/
  name : String
  /-- The type of its cells. -/
  type : ColumnType
  /-- A cell may be null. -/
  nullable : Bool
  /-- The column is marked as part of a key. -/
  isPrimaryKey : Bool
  /-- The name is not empty. -/
  name_nonempty : name ≠ ""
  deriving DecidableEq, Repr

/-- An ordered list of columns with the keys among them. -/
structure Schema where
  /-- The columns in order. -/
  columns : List Column
  /-- The names of the key columns, in order. -/
  primaryKeys : List String
  /-- No two columns have the same name. -/
  distinct_names : (columns.map Column.name).Nodup
  /-- Every key is the name of a column. -/
  known_keys : ∀ key ∈ primaryKeys, key ∈ columns.map Column.name
  deriving DecidableEq, Repr

/-- The first name of a list that occurred before. -/
def firstRepeated? : List String → Option String
  | names => (names.zipIdx.find? fun (name, i) => (names.take i).contains name).map Prod.fst

namespace Schema

/-- The names of the columns, in order. -/
def columnNames (s : Schema) : List String := s.columns.map Column.name

/-- The column with a name. -/
def column? (s : Schema) (name : String) : Option Column := s.columns.find? (·.name = name)

/-- The schema with these columns and keys, unless they break a rule. -/
def check (columns : List Column) (keys : List String) : Checked Schema :=
  let names := columns.map Column.name
  match firstRepeated? names with
  | some name => .issue (.valueError s!"Duplicate column name '{name}'")
  | none =>
    let unknown := keys.filter (!names.contains ·)
    if h : (columns.map Column.name).Nodup ∧ ∀ key ∈ keys, key ∈ columns.map Column.name then
      .valid ⟨columns, keys, h.1, h.2⟩
    else
      .issue (.valueError
        ("Primary key references unknown column(s): " ++ Text.joined ", " unknown))

end Schema

open Reader in
/-- Reads a column name. -/
def readColumn (source : Reader.Source) : Reader Column :=
  record source fun fs =>
    let build (name : { s : String // s ≠ "" }) (type : ColumnType) (nullable key : Bool) : Column :=
      ⟨name.1, type, nullable, key, name.2⟩
    build <$> required fs "name" named <*> required fs "type" (member ColumnType.ofName?)
      <*> optional fs "nullable" true truth <*> optional fs "is_primary_key" false truth
where
  /-- A text that is not empty, with the proof. -/
  named : Reader { s : String // s ≠ "" } := fun v =>
    (Reader.text v).andThen fun s =>
      if h : s ≠ "" then .valid ⟨s, h⟩ else .issue .stringTooShort

open Reader in
/-- Reads a schema; its rules are checked once all its fields are valid. -/
def readSchema (source : Reader.Source) : Reader Schema :=
  record source fun fs =>
    (Prod.mk <$> required fs "columns" (listOf (readColumn source))
      <*> optional fs "primary_keys" [] (listOf text)).andThen fun (columns, keys) =>
        Schema.check columns keys

/-- A column as a value. -/
def Column.toValue (c : Column) : Value :=
  .object [("name", .text c.name), ("type", .text c.type.name), ("nullable", .bool c.nullable),
    ("is_primary_key", .bool c.isPrimaryKey)]

/-- A schema as a value. -/
def Schema.toValue (s : Schema) : Value :=
  .object [("columns", .list (s.columns.map Column.toValue)),
    ("primary_keys", .list (s.primaryKeys.map .text))]

end MetricLayer
