import MetricLayer.Proofs.Sql.CellLiteral
import MetricLayer.Proofs.Sql.CommaList

/-!
# Insertions read back

`readInsertion` reads an INSERT statement to its end: the table, the columns, and one tuple of
literals for each row.  The text of an insertion is read as exactly the rows that it was written for
(`insertStatement_read`): quotes, commas, parentheses and line breaks inside a text are part of its
literal, so nothing that stands in a cell can end a literal, a tuple or the statement.
-/

namespace MetricLayer.Sql

open Text

/-! ## The reader -/

/-- What an INSERT statement inserts. -/
structure Insertion where
  /-- The table. -/
  table : String
  /-- The columns in order. -/
  columns : List String
  /-- The literals of each row, in the order of the columns. -/
  tuples : List (List Term)
  deriving Repr

/-- The tuple at the head. -/
def readTuple : List Lexeme → Option (List Term × List Lexeme)
  | .leftParen :: ts => readArguments (4 * ts.length + 4) ts
  | _ => none

/-- The insertion that a whole statement spells. -/
def readInsertion (ts : List Lexeme) : Option Insertion := do
  let ts ← afterWord? "insert" ts
  let ts ← afterWord? "into" ts
  match ts with
  | .name table :: .leftParen :: ts =>
    let (columns, ts) ← readNames ts
    let ts ← afterWord? "values" ts
    match readList readTuple ts with
    | some (tuples, []) => return ⟨table, columns, tuples⟩
    | _ => none
  | _ => none

/-! ## Tuples -/

/-- The lexemes are a tuple of these terms. -/
def IsTuple (ts : List Lexeme) (terms : List Term) : Prop :=
  ∃ tss, ts = .leftParen :: (separatedBy .comma tss ++ [.rightParen]) ∧ tss ≠ []
    ∧ List.Forall₂ (Reads .sum) tss terms

/-- A tuple is read up to its closing parenthesis. -/
theorem IsTuple.readsItem {ts : List Lexeme} {terms : List Term} (h : IsTuple ts terms)
    (stop : List Lexeme) : ReadsItem readTuple stop ts terms := by
  intro rest _
  obtain ⟨tss, rfl, hne, hreads⟩ := h
  rw [List.cons_append, readTuple, List.append_assoc, List.singleton_append]
  refine readArguments_separated hreads hne rest ?_
  rw [List.length_append]
  omega

/-! ## The text of a tuple -/

/-- The terms of a row. -/
def rowTerms (columns : List String) (row : Row) : List Term :=
  columns.map fun name => literalTerm (row.cell name)

theorem rowTuple_lexes {columns : List String} (hne : columns ≠ []) {row : Row} {sql : String}
    (h : rowTuple columns row = .ok sql) :
    ∃ ts, Lexes sql.toList ts ∧ IsTuple ts (rowTerms columns row) ∧ Lexeme.comment ∉ ts := by
  obtain ⟨cells, hcells, hsql⟩ := bind_eq_ok.1 h
  rw [pure_eq_ok] at hsql
  have hspells : List.Forall₂ (Spells .sum) cells (rowTerms columns row) := by
    rw [rowTerms, List.forall₂_map_right_iff]
    exact (mapM_eq_ok hcells).flip.imp fun _ _ hcell => (sqlLiteral_spells hcell).spells.toSum
  obtain ⟨tss, hlexes, hreads, hcomment⟩ := spells_forall₂ hspells
  have htss : tss ≠ [] := by
    rintro rfl
    rw [List.forall₂_nil_left_iff, rowTerms, List.map_eq_nil_iff] at hreads
    exact hne hreads
  refine ⟨.leftParen :: (separatedBy .comma tss ++ [.rightParen]), ?_, ⟨tss, rfl, htss, hreads⟩, ?_⟩
  · have hlex := ((Lexes.separated Lexes.commaSpace hlexes).append (Lexes.rightParen .nil)
      (by simp [isBoundary])).leftParen
    rw [← hsql]
    simpa using hlex
  · simpa using comment_notMem_separatedBy (by decide) hcomment

/-- The lexemes of the tuples, row by row. -/
theorem rowTuples_lexes {columns : List String} (hne : columns ≠ []) {rows : List Row}
    {texts : List String} (h : rows.mapM (rowTuple columns) = .ok texts) :
    ∃ uss, List.Forall₂ (fun s ts => Lexes s.toList ts) texts uss
      ∧ List.Forall₂ IsTuple uss (rows.map (rowTerms columns))
      ∧ ∀ us ∈ uss, Lexeme.comment ∉ us := by
  refine lexes_forall₂ ?_
  rw [List.forall₂_map_right_iff]
  exact (mapM_eq_ok h).flip.imp fun _ _ hrow => rowTuple_lexes hne hrow

/-! ## The text of an insertion -/

/-- The text of an insertion is put together from its parts. -/
theorem insertStatement_eq_ok {physical : String} {columns : List String} {rows : List Row}
    {sql : String} (hrows : rows ≠ []) : insertStatement physical columns rows = .ok sql
      ↔ ∃ names, columns.mapM sqlName = .ok names
        ∧ ∃ tuples, rows.mapM (rowTuple columns) = .ok tuples
        ∧ ∃ table, sqlName physical = .ok table
        ∧ "INSERT INTO " ++ table ++ " (" ++ joined ", " names ++ ")\nVALUES "
          ++ joined ",\n" tuples = sql := by
  have hsome : ¬rows.isEmpty = true := by simpa using hrows
  rw [insertStatement, if_neg hsome]
  simp only [bind_eq_ok, pure_eq_ok]

/-- The text is an insertion of these tuples. -/
theorem lexes_insertion {physical table : String} {columns names tuples : List String}
    {uss : List (List Lexeme)} (htable : sqlName physical = .ok table)
    (hnames : columns.mapM sqlName = .ok names)
    (htuples : List.Forall₂ (fun s ts => Lexes s.toList ts) tuples uss) :
    Lexes ("INSERT INTO " ++ table ++ " (" ++ joined ", " names ++ ")\nVALUES "
        ++ joined ",\n" tuples).toList
      (.word "insert" :: .word "into" :: .name physical :: .leftParen
        :: (separatedBy .comma (columns.map nameLexeme) ++ .rightParen :: .word "values"
          :: separatedBy .comma uss)) := by
  have hvalues := (Lexes.keyword "VALUES" (w := "values") (by decide)).beforeSpace
    (Lexes.separated Lexes.commaNewline htuples)
  have hcolumns := (lexes_names hnames).append hvalues.newline.rightParen (by simp [isBoundary])
  have hinto := (Lexes.keyword "INTO" (w := "into") (by decide)).beforeSpace
    ((sqlName_lexes htable).beforeSpace hcolumns.leftParen)
  have hlex := (Lexes.keyword "INSERT" (w := "insert") (by decide)).beforeSpace hinto
  simpa [nameLexeme] using hlex

/-- The lexemes of an insertion are read as what it inserts. -/
theorem readInsertion_lexemes {physical : String} {columns : List String} (hcolumns : columns ≠ [])
    {uss : List (List Lexeme)} {tuples : List (List Term)} (huss : uss ≠ [])
    (h : List.Forall₂ IsTuple uss tuples) :
    readInsertion (.word "insert" :: .word "into" :: .name physical :: .leftParen
        :: (separatedBy .comma (columns.map nameLexeme) ++ .rightParen :: .word "values"
          :: separatedBy .comma uss))
      = some ⟨physical, columns, tuples⟩ := by
  have hnames := readNames_separated hcolumns (.word "values" :: separatedBy .comma uss)
  have htuples : readList readTuple (separatedBy .comma uss) = some (tuples, []) := by
    have hlist := readList_separated (by simp) (h.imp fun _ _ ht => ht.readsItem []) huss
    rwa [List.append_nil] at hlist
  simp only [readInsertion, afterWord?, if_true, Option.bind_eq_bind, Option.bind_some, hnames,
    htuples, Option.pure_def]

theorem succeeds_rowTuple {columns : List String} {row : Row}
    (h : ∀ name ∈ columns, IsCell (row.cell name)) : Succeeds (rowTuple columns row) :=
  succeeds_bind_pure.2 (succeeds_mapM.2 fun name hname =>
    succeeds_sqlLiteral.2 (h name hname).isWritable)

/-- The text of an insertion is read as exactly what it was written for, with nothing left over: the
table, the columns in order and one tuple for each row in order, in which each literal is read as
the cell of its column, a missing cell as NULL. -/
theorem insertStatement_read {physical : String} (hphysical : IsSqlName physical)
    {columns : List String} (hcolumns : columns ≠ []) (hnames : ∀ name ∈ columns, IsSqlName name)
    {rows : List Row} (hrows : rows ≠ [])
    (hcells : ∀ row ∈ rows, ∀ name ∈ columns, IsCell (row.cell name)) :
    ∃ sql ts tuples, insertStatement physical columns rows = .ok sql
      ∧ lex sql.toList = some ts ∧ Lexeme.comment ∉ ts
      ∧ readInsertion ts = some ⟨physical, columns, tuples⟩
      ∧ List.Forall₂ (fun row tuple => List.Forall₂ (fun name t => ∀ kind : CellKind,
          kind.Holds (row.cell name) → t.valueAs kind = some (row.cell name)) columns tuple)
        rows tuples := by
  obtain ⟨names, hquoted⟩ : Succeeds (columns.mapM sqlName) :=
    succeeds_mapM.2 fun name hname => succeeds_sqlName.2 (hnames name hname)
  obtain ⟨texts, htexts⟩ : Succeeds (rows.mapM (rowTuple columns)) :=
    succeeds_mapM.2 fun row hrow => succeeds_rowTuple (hcells row hrow)
  obtain ⟨table, htable⟩ := succeeds_sqlName.2 hphysical
  obtain ⟨uss, hlexes, htuples, hcomment⟩ := rowTuples_lexes hcolumns htexts
  have huss : uss ≠ [] := by
    rintro rfl
    rw [List.forall₂_nil_left_iff, List.map_eq_nil_iff] at htuples
    exact hrows htuples
  have hlex := (lexes_insertion htable hquoted hlexes).lex_eq
  refine ⟨_, _, rows.map (rowTerms columns),
    (insertStatement_eq_ok hrows).2 ⟨names, hquoted, texts, htexts, table, htable, rfl⟩, hlex, ?_,
    readInsertion_lexemes hcolumns huss htuples, ?_⟩
  · have htuplewise : Lexeme.comment ∉ separatedBy .comma uss :=
      comment_notMem_separatedBy (by decide) hcomment
    simp [comment_notMem_names, htuplewise]
  · rw [List.forall₂_map_right_iff, List.forall₂_same]
    intro row _
    rw [rowTerms, List.forall₂_map_right_iff, List.forall₂_same]
    exact fun name _ kind hkind => literalTerm_valueAs hkind

/-! ## Cells that look like the end of a tuple -/

/-- Column names with a quote, and with a comma and parentheses. -/
def trickyColumns : List String := ["na\"me", "a), (b"]

/-- A row whose text holds quotes and the separator of rows, and a row without that cell. -/
def trickyRows : List Row :=
  [[("na\"me", .text "x'),\n('"), ("a), (b", .decimal (.finite true 105 (-1)))],
    [("a), (b", .int (-3))]]

theorem trickyRows_cells : ∀ row ∈ trickyRows, ∀ name ∈ trickyColumns, IsCell (row.cell name) := by
  simp only [trickyRows, trickyColumns, List.forall_mem_cons]
  have htext : CellKind.text.Holds (.text "x'),\n('") := by
    show '\x00' ∉ _
    decide
  exact ⟨⟨⟨.text, htext⟩, ⟨.decimal, rfl⟩, List.forall_mem_nil _⟩,
    ⟨⟨.text, trivial⟩, ⟨.whole, trivial⟩, List.forall_mem_nil _⟩, List.forall_mem_nil _⟩

theorem trickyRows_read :
    IsSqlName "ds_s_a" ∧ trickyColumns ≠ [] ∧ (∀ name ∈ trickyColumns, IsSqlName name)
      ∧ trickyRows ≠ [] ∧ (∀ row ∈ trickyRows, ∀ name ∈ trickyColumns, IsCell (row.cell name))
      ∧ insertStatement "ds_s_a" trickyColumns trickyRows
        = .ok ("INSERT INTO \"ds_s_a\" (\"na\"\"me\", \"a), (b\")\nVALUES "
          ++ "('x''),\n(''', -10.5),\n(NULL, -3)")
      ∧ ∃ sql ts tuples, insertStatement "ds_s_a" trickyColumns trickyRows = .ok sql
        ∧ lex sql.toList = some ts ∧ Lexeme.comment ∉ ts
        ∧ readInsertion ts = some ⟨"ds_s_a", trickyColumns, tuples⟩
        ∧ List.Forall₂ (fun row tuple => List.Forall₂ (fun name t => ∀ kind : CellKind,
            kind.Holds (Row.cell row name) → t.valueAs kind = some (Row.cell row name))
              trickyColumns tuple) trickyRows tuples := by
  have hphysical : IsSqlName "ds_s_a" := ⟨by decide, by decide⟩
  have hnames : ∀ name ∈ trickyColumns, IsSqlName name := by
    simp only [trickyColumns, List.forall_mem_cons]
    exact ⟨⟨by decide, by decide⟩, ⟨by decide, by decide⟩, List.forall_mem_nil _⟩
  exact ⟨hphysical, by decide, hnames, List.cons_ne_nil _ _, trickyRows_cells, rfl,
    insertStatement_read hphysical (by decide) hnames (List.cons_ne_nil _ _) trickyRows_cells⟩

end MetricLayer.Sql
