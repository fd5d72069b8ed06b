import MetricLayer.Proofs.Metric.Executable
import MetricLayer.Proofs.Sql.CommaList
import MetricLayer.Sql.TableStatement

/-!
# Definitions of tables read back

`readTableDefinition` reads a CREATE TABLE statement to its end: the columns with their types, and
every primary key that is declared, beside a column or on a line of its own.  The definition of a
physical table is read as the serial column followed by the columns of the schema, with one primary
key (`createStatement_read`).  The names of a schema differ from each other, but nothing keeps them
from being that of the serial column, and then the definition declares a name twice.
-/

namespace MetricLayer.Sql

open Text

/-! ## What a definition says -/

/-- The type of a stored column. -/
inductive StoredType where
  /-- Whole numbers that the database counts up. -/
  | serial
  /-- Double precision numbers. -/
  | double
  /-- Truth values. -/
  | boolean
  /-- Dates with a time of day. -/
  | timestamp
  /-- Texts. -/
  | text
  deriving DecidableEq, Repr

/-- How the cells of a column are stored. -/
def storedType : ColumnType → StoredType
  | .number => .double
  | .boolean => .boolean
  | .date => .timestamp
  | .string => .text

/-- A column of a table. -/
structure StoredColumn where
  /-- The name. -/
  name : String
  /-- The type. -/
  type : StoredType
  /-- Whether cells may be null, where the definition says so. -/
  nullable : Option Bool
  deriving DecidableEq, Repr

/-- A line of a table definition. -/
inductive TableLine where
  /-- A column, which may be declared as the primary key. -/
  | column (c : StoredColumn) (isKey : Bool)
  /-- A primary key of some columns. -/
  | key (names : List String)
  deriving DecidableEq, Repr

/-- The column that a line declares. -/
def TableLine.column? : TableLine → Option StoredColumn
  | .column c _ => some c
  | .key _ => none

/-- The primary key that a line declares. -/
def TableLine.key? : TableLine → Option (List String)
  | .column c isKey => if isKey then some [c.name] else none
  | .key names => some names

/-- What a CREATE TABLE statement defines. -/
structure TableDefinition where
  /-- The table. -/
  table : String
  /-- The columns in order. -/
  columns : List StoredColumn
  /-- The primary keys that are declared, in order. -/
  keys : List (List String)
  deriving DecidableEq, Repr

/-! ## The reader -/

/-- What follows some words at the head. -/
def afterWords? (words : List String) (ts : List Lexeme) : Option (List Lexeme) :=
  words.foldlM (fun ts w => afterWord? w ts) ts

/-- The type at the head. -/
def readType : List Lexeme → Reading StoredType
  | .word w :: rest =>
    if w = "bigserial" then some (.serial, rest)
    else if w = "double" then (afterWord? "precision" rest).map (.double, ·)
    else if w = "boolean" then some (.boolean, rest)
    else if w = "timestamp" then some (.timestamp, rest)
    else if w = "text" then some (.text, rest)
    else none
  | _ => none

/-- Whether cells may be null, where that is said at the head, and what follows. -/
def readNullable (ts : List Lexeme) : Option Bool × List Lexeme :=
  match afterWord? "null" ts, afterWords? ["not", "null"] ts with
  | some rest, _ => (some true, rest)
  | none, some rest => (some false, rest)
  | none, none => (none, ts)

/-- Whether a primary key is declared at the head, and what follows. -/
def readKeyMark (ts : List Lexeme) : Bool × List Lexeme :=
  match afterWords? ["primary", "key"] ts with
  | some rest => (true, rest)
  | none => (false, ts)

/-- The line at the head. -/
def readLine : List Lexeme → Option (TableLine × List Lexeme)
  | .name name :: ts => do
    let (type, ts) ← readType ts
    let (nullable, ts) := readNullable ts
    let (isKey, ts) := readKeyMark ts
    return (.column ⟨name, type, nullable⟩ isKey, ts)
  | ts => do
    let ts ← afterWords? ["primary", "key"] ts
    let ts ← afterParen? ts
    let (names, ts) ← readNames ts
    return (.key names, ts)

/-- The definition that a whole statement spells. -/
def readTableDefinition (ts : List Lexeme) : Option TableDefinition := do
  let ts ← afterWords? ["create", "table", "if", "not", "exists"] ts
  match ts with
  | .name table :: .leftParen :: ts =>
    match readList readLine ts with
    | some (lines, [.rightParen]) =>
      return ⟨table, lines.filterMap TableLine.column?, lines.filterMap TableLine.key?⟩
    | _ => none
  | _ => none

/-! ## Lines -/

/-- The text is a line of a table definition. -/
def SpellsLine (s : String) (line : TableLine) : Prop :=
  ∃ ts, Lexes s.toList ts ∧ ReadsItem readLine [.rightParen] ts line ∧ Lexeme.comment ∉ ts

/-- At the end of a line nothing more is said about a column. -/
theorem silent_of_endsItem {rest : List Lexeme} (h : EndsItem [.rightParen] rest) :
    readNullable rest = (none, rest) ∧ readKeyMark rest = (false, rest) := by
  obtain ⟨more, rfl⟩ | rfl := h <;> exact ⟨rfl, rfl⟩

/-! ## The columns of the schema -/

/-- A column of the schema as it is stored. -/
def storedColumn (c : Column) : StoredColumn := ⟨c.name, storedType c.type, some c.nullable⟩

/-- The type of a column. -/
theorem sqlType_lexes (type : ColumnType) : ∃ ts, Lexes type.sqlType.toList ts
    ∧ Lexeme.comment ∉ ts ∧ ∀ rest, readType (ts ++ rest) = some (storedType type, rest) := by
  cases type with
  | number =>
    have hlex := (Lexes.keyword "DOUBLE" (w := "double") (by decide)).beforeSpace
      (Lexes.keyword "PRECISION" (w := "precision") (by decide))
    exact ⟨_, hlex, by simp, fun rest => rfl⟩
  | boolean => exact ⟨_, .keyword "BOOLEAN" (w := "boolean") (by decide), by simp, fun rest => rfl⟩
  | date => exact ⟨_, .keyword "TIMESTAMP" (w := "timestamp") (by decide), by simp, fun rest => rfl⟩
  | string => exact ⟨_, .keyword "TEXT" (w := "text") (by decide), by simp, fun rest => rfl⟩

/-- Whether cells may be null. -/
theorem nullable_lexes (nullable : Bool) : ∃ ts,
    Lexes (if nullable then "NULL" else "NOT NULL").toList ts ∧ Lexeme.comment ∉ ts
      ∧ ∀ rest, readNullable (ts ++ rest) = (some nullable, rest) := by
  cases nullable with
  | true => exact ⟨_, .keyword "NULL" (w := "null") (by decide), by simp, fun rest => rfl⟩
  | false =>
    have hlex := (Lexes.keyword "NOT" (w := "not") (by decide)).beforeSpace
      (Lexes.keyword "NULL" (w := "null") (by decide))
    exact ⟨_, hlex, by simp, fun rest => rfl⟩

/-- The line of a column declares its name, its type and whether it may be null. -/
theorem columnLine_spells {c : Column} {sql : String} (h : columnLine c = .ok sql) :
    SpellsLine sql (.column (storedColumn c) false) := by
  obtain ⟨name, hname, hsql⟩ := bind_eq_ok.1 h
  obtain ⟨types, htype, htypes, hreadType⟩ := sqlType_lexes c.type
  obtain ⟨nulls, hnull, hnulls, hreadNull⟩ := nullable_lexes c.nullable
  have htext : sql.toList = name.toList ++ ' ' :: (c.type.sqlType.toList
      ++ ' ' :: (if c.nullable then "NULL" else "NOT NULL").toList) := by
    rw [← pure_eq_ok.1 hsql]
    cases c.nullable <;> simp
  refine ⟨nameLexeme c.name ++ (types ++ nulls), ?_, fun rest hrest => ?_, ?_⟩
  · rw [htext]
    exact (sqlName_lexes hname).beforeSpace (htype.beforeSpace hnull)
  · have hsplit : nameLexeme c.name ++ (types ++ nulls) ++ rest
        = .name c.name :: (types ++ (nulls ++ rest)) := by simp [nameLexeme]
    rw [hsplit, readLine, hreadType]
    dsimp only [bind, Option.bind]
    rw [hreadNull, (silent_of_endsItem hrest).2]
    rfl
  · simp [nameLexeme, htypes, hnulls]

/-! ## The serial column and the key -/

/-- The serial column as it is stored. -/
def storedSerial : StoredColumn := ⟨serialColumn, .serial, none⟩

/-- The line of the serial column. -/
def serialLine (serial : String) (isKey : Bool) : String :=
  serial ++ (if isKey then " BIGSERIAL PRIMARY KEY" else " BIGSERIAL")

/-- The line of the serial column declares it, as the key or not. -/
theorem serialLine_spells {serial : String} (h : sqlName serialColumn = .ok serial) (isKey : Bool) :
    SpellsLine (serialLine serial isKey) (.column storedSerial isKey) := by
  have htype := Lexes.keyword "BIGSERIAL" (w := "bigserial") (by decide)
  cases isKey with
  | false =>
    refine ⟨nameLexeme serialColumn ++ [.word "bigserial"], ?_, fun rest hrest => ?_,
      by simp [nameLexeme]⟩
    · simpa [serialLine] using (sqlName_lexes h).beforeSpace htype
    · obtain ⟨more, rfl⟩ | rfl := hrest <;> rfl
  | true =>
    have hkey := (Lexes.keyword "PRIMARY" (w := "primary") (by decide)).beforeSpace
      (Lexes.keyword "KEY" (w := "key") (by decide))
    refine ⟨nameLexeme serialColumn ++ ([.word "bigserial"] ++ ([.word "primary"]
      ++ [.word "key"])), ?_, fun rest _ => rfl, by simp [nameLexeme]⟩
    simpa [serialLine] using (sqlName_lexes h).beforeSpace (htype.beforeSpace hkey)

/-- The line of the key. -/
def keyLine (keyNames : List String) : String := "PRIMARY KEY (" ++ joined ", " keyNames ++ ")"

/-- The line of the key declares the key columns in order. -/
theorem keyLine_spells {keys keyNames : List String} (hne : keys ≠ [])
    (h : keys.mapM sqlName = .ok keyNames) : SpellsLine (keyLine keyNames) (.key keys) := by
  have hnames := ((lexes_names h).append (Lexes.rightParen .nil) (by simp [isBoundary])).leftParen
  have hlex := (Lexes.keyword "PRIMARY" (w := "primary") (by decide)).beforeSpace
    ((Lexes.keyword "KEY" (w := "key") (by decide)).beforeSpace hnames)
  refine ⟨_, by simpa [keyLine] using hlex, fun rest _ => ?_, ?_⟩
  · have hread := readNames_separated hne rest
    simp [readLine, afterWords?, afterWord?, afterParen?, hread]
  · simp [comment_notMem_names]

/-! ## The whole statement -/

/-- The lines of a table definition: the serial column, the columns and the key, if there is one. -/
def definitionLines (columns : List Column) (keys : List String) : List TableLine :=
  .column storedSerial keys.isEmpty :: columns.map (fun c => .column (storedColumn c) false)
    ++ (if keys.isEmpty then [] else [.key keys])

/-- The key of a table: the serial column, unless keys are given. -/
def effectiveKey (keys : List String) : List String := if keys.isEmpty then [serialColumn] else keys

theorem definitionLines_columns (columns : List Column) (keys : List String) :
    (definitionLines columns keys).filterMap TableLine.column?
      = storedSerial :: columns.map storedColumn := by
  have hcolumns : (columns.map fun c => TableLine.column (storedColumn c) false).filterMap
      TableLine.column? = columns.map storedColumn := by
    rw [List.filterMap_map, ← List.filterMap_eq_map]
    rfl
  rw [definitionLines, List.cons_append, List.filterMap_cons, List.filterMap_append, hcolumns]
  cases keys <;> simp [TableLine.column?]

theorem definitionLines_keys (columns : List Column) (keys : List String) :
    (definitionLines columns keys).filterMap TableLine.key? = [effectiveKey keys] := by
  have hcolumns : (columns.map fun c => TableLine.column (storedColumn c) false).filterMap
      TableLine.key? = [] := by
    rw [List.filterMap_eq_nil_iff, List.forall_mem_map]
    exact fun _ _ => rfl
  rw [definitionLines, List.cons_append, List.filterMap_cons, List.filterMap_append, hcolumns]
  cases keys <;> rfl

/-- The text of a table definition is put together from its lines. -/
theorem createStatement_eq_ok {physical : String} {columns : List Column} {keys : List String}
    {sql : String} : createStatement physical columns keys = .ok sql
      ↔ ∃ serial, sqlName serialColumn = .ok serial ∧ ∃ lines, columns.mapM columnLine = .ok lines
        ∧ ∃ keyNames, keys.mapM sqlName = .ok keyNames ∧ ∃ table, sqlName physical = .ok table
        ∧ "CREATE TABLE IF NOT EXISTS " ++ table ++ " (\n    "
          ++ joined ",\n    " (serialLine serial keys.isEmpty :: lines
            ++ (if keys.isEmpty then [] else [keyLine keyNames])) ++ "\n)" = sql := by
  simp only [createStatement, bind_eq_ok, pure_eq_ok, serialLine, keyLine]

/-- The lines of a definition are spelled one by one. -/
theorem definitionLines_spell {columns : List Column} {keys lines keyNames : List String}
    {serial : String} (hserial : sqlName serialColumn = .ok serial)
    (hlines : columns.mapM columnLine = .ok lines) (hkeys : keys.mapM sqlName = .ok keyNames) :
    List.Forall₂ SpellsLine (serialLine serial keys.isEmpty :: lines
      ++ (if keys.isEmpty then [] else [keyLine keyNames])) (definitionLines columns keys) := by
  refine List.rel_append (.cons (serialLine_spells hserial _) ?_) ?_
  · rw [List.forall₂_map_right_iff]
    exact (mapM_eq_ok hlines).flip.imp fun _ _ hline => columnLine_spells hline
  · cases keys with
    | nil => exact .nil
    | cons key keys => exact .cons (keyLine_spells (List.cons_ne_nil key keys) hkeys) .nil

/-- A comma, a line break and an indentation are a comma. -/
theorem Lexes.commaIndent {cs : List Char} {ts : List Lexeme} (h : Lexes cs ts) :
    Lexes (",\n    ".toList ++ cs) (.comma :: ts) ∧ AtBoundary (",\n    ".toList ++ cs) :=
  ⟨h.space.space.space.space.newline.comma, by simp [isBoundary]⟩

/-- The text is a definition with these lines. -/
theorem lexes_definition {physical table : String} {lines : List String}
    {tss : List (List Lexeme)} (htable : sqlName physical = .ok table)
    (hlines : List.Forall₂ (fun s ts => Lexes s.toList ts) lines tss) :
    Lexes ("CREATE TABLE IF NOT EXISTS " ++ table ++ " (\n    " ++ joined ",\n    " lines
        ++ "\n)").toList
      (["create", "table", "if", "not", "exists"].map Lexeme.word ++ .name physical :: .leftParen
        :: (separatedBy .comma tss ++ [.rightParen])) := by
  have hbody := (Lexes.separated Lexes.commaIndent hlines).append (Lexes.nil.rightParen.newline)
    (by simp [isBoundary])
  have htext := (sqlName_lexes htable).beforeSpace hbody.space.space.space.space.newline.leftParen
  have hlex := (Lexes.keyword "CREATE" (w := "create") (by decide)).beforeSpace
    ((Lexes.keyword "TABLE" (w := "table") (by decide)).beforeSpace
      ((Lexes.keyword "IF" (w := "if") (by decide)).beforeSpace
        ((Lexes.keyword "NOT" (w := "not") (by decide)).beforeSpace
          ((Lexes.keyword "EXISTS" (w := "exists") (by decide)).beforeSpace htext))))
  simpa [nameLexeme] using hlex

/-- The lexemes of a definition are read as what it defines. -/
theorem readTableDefinition_lexemes (physical : String) {tss : List (List Lexeme)}
    {lines : List TableLine} (htss : tss ≠ [])
    (h : List.Forall₂ (ReadsItem readLine [.rightParen]) tss lines) :
    readTableDefinition (["create", "table", "if", "not", "exists"].map Lexeme.word
        ++ .name physical :: .leftParen :: (separatedBy .comma tss ++ [.rightParen]))
      = some ⟨physical, lines.filterMap TableLine.column?, lines.filterMap TableLine.key?⟩ := by
  have hwords (ts : List Lexeme) : afterWords? ["create", "table", "if", "not", "exists"]
      (["create", "table", "if", "not", "exists"].map Lexeme.word ++ ts) = some ts := rfl
  have hlines := readList_separated (by simp) h htss
  rw [readTableDefinition, hwords]
  simp only [Option.bind_eq_bind, Option.bind_some, hlines, Option.pure_def]

theorem succeeds_columnLine {c : Column} (h : IsSqlName c.name) : Succeeds (columnLine c) :=
  succeeds_bind_pure.2 (succeeds_sqlName.2 h)

theorem isSqlName_key {schema : Schema} (hnames : ∀ c ∈ schema.columns, IsSqlName c.name)
    {key : String} (hkey : key ∈ schema.primaryKeys) : IsSqlName key := by
  obtain ⟨c, hc, rfl⟩ := List.mem_map.1 (schema.known_keys key hkey)
  exact hnames c hc

/-- The definition of the table of a schema is written, and read with nothing left over. -/
theorem createStatement_defines {physical : String} (hphysical : IsSqlName physical)
    (schema : Schema) (hnames : ∀ c ∈ schema.columns, IsSqlName c.name) :
    ∃ sql ts, createStatement physical schema.columns schema.primaryKeys = .ok sql
      ∧ lex sql.toList = some ts ∧ Lexeme.comment ∉ ts
      ∧ readTableDefinition ts = some ⟨physical, storedSerial :: schema.columns.map storedColumn,
          [effectiveKey schema.primaryKeys]⟩ := by
  obtain ⟨serial, hserial⟩ : Succeeds (sqlName serialColumn) :=
    succeeds_sqlName.2 ⟨by decide, by decide⟩
  obtain ⟨lines, hlines⟩ : Succeeds (schema.columns.mapM columnLine) :=
    succeeds_mapM.2 fun c hc => succeeds_columnLine (hnames c hc)
  obtain ⟨keyNames, hkeys⟩ : Succeeds (schema.primaryKeys.mapM sqlName) :=
    succeeds_mapM.2 fun key hkey => succeeds_sqlName.2 (isSqlName_key hnames hkey)
  obtain ⟨table, htable⟩ := succeeds_sqlName.2 hphysical
  obtain ⟨tss, hlexes, hreads, hcomment⟩ :=
    lexes_forall₂ (definitionLines_spell hserial hlines hkeys)
  have htss : tss ≠ [] := by
    rintro rfl
    cases hreads
  have hread := readTableDefinition_lexemes physical htss hreads
  rw [definitionLines_columns, definitionLines_keys] at hread
  refine ⟨_, _, createStatement_eq_ok.2
      ⟨serial, hserial, lines, hlines, keyNames, hkeys, table, htable, rfl⟩,
    (lexes_definition htable hlexes).lex_eq, ?_, hread⟩
  have hlinewise := comment_notMem_separatedBy (l := .comma) (by decide) hcomment
  simp [hlinewise]

/-- The names of the stored columns are those of the schema after that of the serial column. -/
theorem storedColumns_names (schema : Schema) :
    (storedSerial :: schema.columns.map storedColumn).map StoredColumn.name
      = serialColumn :: schema.columnNames := by
  rw [List.map_cons, List.map_map]
  rfl

/-- The definition of the table of a schema is read, with nothing left over, as the serial column
followed by the columns of the schema in order with their types, and one key: that of the schema, or
else the serial column.  Its names differ from each other exactly when no column of the schema has
the name of the serial column. -/
theorem createStatement_read {physical : String} (hphysical : IsSqlName physical) (schema : Schema)
    (hnames : ∀ c ∈ schema.columns, IsSqlName c.name) :
    ∃ sql ts d, createStatement physical schema.columns schema.primaryKeys = .ok sql
      ∧ lex sql.toList = some ts ∧ Lexeme.comment ∉ ts ∧ readTableDefinition ts = some d
      ∧ d.table = physical ∧ d.columns = storedSerial :: schema.columns.map storedColumn
      ∧ d.keys = [if schema.primaryKeys = [] then [serialColumn] else schema.primaryKeys]
      ∧ ((d.columns.map StoredColumn.name).Nodup ↔ serialColumn ∉ schema.columnNames) := by
  obtain ⟨sql, ts, hsql, hlex, hcomment, hread⟩ := createStatement_defines hphysical schema hnames
  refine ⟨sql, ts, _, hsql, hlex, hcomment, hread, rfl, rfl, ?_, ?_⟩
  · simp [effectiveKey]
  · rw [storedColumns_names, List.nodup_cons]
    exact and_iff_left schema.distinct_names

/-- A schema whose names hold quotes, the separator of lines and the end of a definition. -/
def trickySchema : Schema where
  columns := [⟨"na\"me", .number, false, true, by decide⟩,
    ⟨"a\",\n    \"id\" TEXT\n)", .date, true, false, by decide⟩]
  primaryKeys := ["na\"me"]
  distinct_names := by decide
  known_keys := by decide

theorem trickySchema_names : ∀ c ∈ trickySchema.columns, IsSqlName c.name := by
  simp only [trickySchema, List.forall_mem_cons]
  exact ⟨⟨by decide, by decide⟩, ⟨by decide, by decide⟩, List.forall_mem_nil _⟩

theorem trickySchema_read : IsSqlName "ds_s_a" ∧ (∀ c ∈ trickySchema.columns, IsSqlName c.name)
    ∧ ∃ sql ts d, createStatement "ds_s_a" trickySchema.columns trickySchema.primaryKeys = .ok sql
      ∧ lex sql.toList = some ts ∧ Lexeme.comment ∉ ts ∧ readTableDefinition ts = some d
      ∧ d.table = "ds_s_a" ∧ d.columns = storedSerial :: trickySchema.columns.map storedColumn
      ∧ d.keys = [if trickySchema.primaryKeys = [] then [serialColumn]
          else trickySchema.primaryKeys]
      ∧ ((d.columns.map StoredColumn.name).Nodup ↔ serialColumn ∉ trickySchema.columnNames) := by
  have hphysical : IsSqlName "ds_s_a" := ⟨by decide, by decide⟩
  exact ⟨hphysical, trickySchema_names,
    createStatement_read hphysical trickySchema trickySchema_names⟩

/-! ## A column with the name of the serial column -/

/-- A schema with a column that is named like the serial column. -/
def idSchema : Schema where
  columns := [⟨"id", .string, true, false, by decide⟩]
  primaryKeys := []
  distinct_names := by decide
  known_keys := by decide

/-- The definition of its table declares the name twice. -/
theorem idSchema_declaresTwice : (∀ c ∈ idSchema.columns, IsSqlName c.name) ∧ ∃ sql ts d,
    createStatement "t" idSchema.columns idSchema.primaryKeys = .ok sql ∧ lex sql.toList = some ts
      ∧ readTableDefinition ts = some d ∧ d.columns.map StoredColumn.name = ["id", "id"]
      ∧ ¬(d.columns.map StoredColumn.name).Nodup := by
  have hnames : ∀ c ∈ idSchema.columns, IsSqlName c.name := by
    simp only [idSchema, List.forall_mem_cons]
    exact ⟨⟨by decide, by decide⟩, List.forall_mem_nil _⟩
  have hphysical : IsSqlName "t" := ⟨by decide, by decide⟩
  obtain ⟨sql, ts, hsql, hlex, -, hread⟩ := createStatement_defines hphysical idSchema hnames
  exact ⟨hnames, sql, ts, _, hsql, hlex, hread, rfl, by decide⟩

end MetricLayer.Sql
