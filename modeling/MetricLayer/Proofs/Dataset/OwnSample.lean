import MetricLayer.Dataset.Loading
import MetricLayer.Proofs.Dataset.Inference

/-!
# Loading a sample under its own schema

Rows of nulls, truth values, finite numbers and texts load under the schema that is inferred from
them, whatever is done about extra columns, with one exception: a column without nulls whose first
fifty values settle a type, all truth values or all numbers, and of which a later value has another
type (`StraysLate`).  Such a column is not nullable, since only a date column becomes nullable for a
value that it cannot store, so the value is refused.  `loads_under_own_schema` says that these
columns are all that can keep a sample from loading, and `lateWord_refused` is such a sample.
-/

namespace MetricLayer

/-- The value is null, a truth value, a finite number or a text. -/
def Value.isPlain : Value → Bool
  | .null => true
  | .bool _ => true
  | .text _ => true
  | v => v.isNumber

/-- No value of a column is null, the deciding ones are of one kind, and some value is not. -/
structure StraysLate (kind : Value → Bool) (values : List Value) : Prop where
  /-- No value is null. -/
  full : ∀ v ∈ values, v.isNull = false
  /-- The values that decide the type are of the kind. -/
  settled : ∀ v ∈ values.take decidingValues, kind v = true
  /-- Some value is not of the kind. -/
  strays : ∃ v ∈ values, kind v = false

/-! ## What a column stores -/

namespace ColumnType

variable {v : Value}

/-- A value that is stored only if it is of a kind, and null is not, is lost otherwise. -/
theorem ofKind_isNull {kind : Value → Bool} (hnull : kind .null = false) :
    (if kind v then v else .null).isNull = !kind v := by
  cases hkind : kind v with
  | false => rfl
  | true =>
    cases v with
    | null => exact absurd (hkind.symm.trans hnull) (by decide)
    | _ => rfl

theorem conform_boolean_isNull : (conform .boolean v).isNull = !v.isBool := ofKind_isNull rfl

theorem conform_number_isNull : (conform .number v).isNull = !v.isNumber := ofKind_isNull rfl

theorem conform_date_isNull : (conform .date v).isNull = !v.isDate := by
  rw [conform, Value.isDate]
  cases v.toMoment? <;> rfl

/-- A text column stores every plain value. -/
theorem conform_string_isNull (h : v.isPlain = true) : (conform .string v).isNull = v.isNull := by
  cases v <;> first | rfl | cases h

theorem conform_null (type : ColumnType) : type.conform .null = .null := by
  cases type <;> rfl

end ColumnType

/-! ## What the report refuses -/

/-- A cell is refused when its column is not nullable and stores null for it. -/
theorem checkLoadableCell_refuses_none {c : Column} {i : Nat} {v : Value} :
    (∀ note ∈ checkLoadableCell c i v, note.refusal? = none) ↔
      (c.nullable = false → (c.type.conform v).isNull = false) := by
  have hnull : v.isNull = true → (c.type.conform v).isNull = true := by
    cases v <;> intro h <;> first | exact congrArg _ (ColumnType.conform_null _) | cases h
  unfold checkLoadableCell nullNote
  cases hv : v.isNull with
  | true =>
    rw [hnull hv]
    cases c.nullable <;> simp [CellNote.refusal?]
  | false =>
    cases (c.type.conform v).isNull <;> cases c.nullable <;> simp [CellNote.refusal?, typeNote]

theorem mem_cellNotes {check : Column → Nat → Value → List CellNote} {rows : List Row}
    {schema : Schema} {note : CellNote} :
    note ∈ cellNotes check rows schema ↔
      ∃ c ∈ schema.columns, ∃ row i, (row, i) ∈ rows.zipIdx
        ∧ note ∈ check c (i + 1) (row.cell c.name) := by
  simp [cellNotes]

theorem checkLoadable_errors_eq_nil {rows : List Row} {schema : Schema} {policy : ColumnPolicy} :
    (checkLoadable rows schema policy).errors = [] ↔
      (policy = .strict → extraColumns rows schema = []) ∧
      ∀ c ∈ schema.columns, c.nullable = false →
        ∀ row ∈ rows, (c.type.conform (row.cell c.name)).isNull = false := by
  have hextras : (reportExtras rows schema policy).errors = [] ↔
      (policy = .strict → extraColumns rows schema = []) := by
    cases policy <;> simp [reportExtras]
  rw [checkLoadable, reportWith]
  dsimp only
  rw [List.append_eq_nil_iff, hextras, List.filterMap_eq_nil_iff]
  refine and_congr_right' ⟨fun h c hc hnullable row hrow => ?_, fun h note hnote => ?_⟩
  · obtain ⟨i, hi, rfl⟩ := List.getElem_of_mem hrow
    have hcell : (rows[i], i) ∈ rows.zipIdx :=
      List.mk_mem_zipIdx_iff_getElem?.2 (List.getElem?_eq_getElem hi)
    have hnone : ∀ note ∈ checkLoadableCell c (i + 1) (rows[i].cell c.name), note.refusal? = none :=
      fun note hnote => h note (mem_cellNotes.2 ⟨c, hc, _, i, hcell, hnote⟩)
    exact checkLoadableCell_refuses_none.1 hnone hnullable
  · obtain ⟨c, hc, row, i, hrow, hnote⟩ := mem_cellNotes.1 hnote
    exact checkLoadableCell_refuses_none.2
      (fun hnullable => h c hc hnullable row (List.fst_mem_of_mem_zipIdx hrow)) note hnote

/-! ## Columns that stray -/

section Columns

variable {rows : List Row} {c : Column}

theorem Row.cell_isPlain {row : Row} (h : ∀ cell ∈ row, cell.2.isPlain = true) (name : String) :
    (row.cell name).isPlain = true := by
  rw [Row.cell, Fields.get?]
  cases hcell : List.lookup name row with
  | none => rfl
  | some v =>
    obtain ⟨before, after, hrow, -⟩ := List.lookup_eq_some_iff.1 hcell
    exact h (name, v) (by simp [hrow])

/-- A column without nulls is present in full. -/
theorem presentCells_of_full {name : String} (h : ∀ row ∈ rows, (row.cell name).isNull = false) :
    presentCells rows name = rows.map (Row.cell · name) :=
  List.filter_eq_self.2 fun v hv => by
    obtain ⟨row, hrow, rfl⟩ := List.mem_map.1 hv
    rw [h row hrow]
    rfl

/-- A column that is not nullable has no nulls. -/
theorem Column.InferredFrom.full (hc : c.InferredFrom rows) (hnullable : c.nullable = false) :
    ∀ row ∈ rows, (row.cell c.name).isNull = false := fun row hrow => by
  by_contra hnull
  refine absurd (hc.nullable.2 (.inl ⟨row, hrow, ?_⟩)) (by rw [hnullable]; exact Bool.false_ne_true)
  exact Bool.not_eq_false _ ▸ hnull

/-- A column strays from the kind of its type when it is not nullable and some value is not of the
kind. -/
theorem straysLate_iff {kind : Value → Bool} {type : ColumnType}
    (htype : ∀ values, ColumnType.ofValues values = type ↔
      values ≠ [] ∧ ∀ v ∈ values.take decidingValues, kind v = true)
    (hdate : type ≠ .date) (hrows : rows ≠ []) (hc : c.InferredFrom rows) :
    StraysLate kind (rows.map (Row.cell · c.name)) ↔
      c.type = type ∧ c.nullable = false ∧ ∃ row ∈ rows, kind (row.cell c.name) = false := by
  have hcells : rows.map (Row.cell · c.name) ≠ [] := by simpa using hrows
  constructor
  · rintro ⟨hfull, hsettled, hstrays⟩
    rw [List.forall_mem_map] at hfull
    have hctype : c.type = type := by
      rw [hc.type, presentCells_of_full hfull]
      exact (htype _).2 ⟨hcells, hsettled⟩
    refine ⟨hctype, ?_, by simpa using hstrays⟩
    rw [← Bool.not_eq_true, hc.nullable]
    rintro (⟨row, hrow, hnull⟩ | ⟨hctype', -⟩)
    · exact absurd (hnull.symm.trans (hfull row hrow)) (by decide)
    · exact hdate (hctype.symm.trans hctype')
  · rintro ⟨hctype, hnullable, hstrays⟩
    have hfull := hc.full hnullable
    refine ⟨List.forall_mem_map.2 hfull, ?_, by simpa using hstrays⟩
    rw [← presentCells_of_full hfull]
    exact ((htype _).1 (hc.type.symm.trans hctype)).2

/-- An inferred column loads its sample unless it strays. -/
theorem stores_sample_iff (hrows : rows ≠ []) (hc : c.InferredFrom rows)
    (hplain : ∀ row ∈ rows, (row.cell c.name).isPlain = true) :
    (c.nullable = false → ∀ row ∈ rows, (c.type.conform (row.cell c.name)).isNull = false) ↔
      ¬StraysLate Value.isBool (rows.map (Row.cell · c.name))
        ∧ ¬StraysLate Value.isNumber (rows.map (Row.cell · c.name)) := by
  rw [straysLate_iff (fun _ => ColumnType.ofValues_eq_boolean) (by decide) hrows hc,
    straysLate_iff (fun _ => ColumnType.ofValues_eq_number) (by decide) hrows hc]
  cases htype : c.type with
  | boolean => simp [ColumnType.conform_boolean_isNull]
  | number => simp [ColumnType.conform_number_isNull]
  | string =>
    simp only [reduceCtorEq, false_and, not_false_eq_true, and_self, iff_true]
    intro hnullable row hrow
    rw [ColumnType.conform_string_isNull (hplain row hrow), hc.full hnullable row hrow]
  | date =>
    simp only [reduceCtorEq, false_and, not_false_eq_true, and_self, iff_true]
    intro hnullable row hrow
    rw [ColumnType.conform_date_isNull, Bool.not_eq_false']
    by_contra hdate
    refine absurd (hc.nullable.2 (.inr ⟨htype, row.cell c.name, ?_, hdate⟩))
      (by rw [hnullable]; exact Bool.false_ne_true)
    exact mem_presentCells.2 ⟨⟨row, hrow, rfl⟩, hc.full hnullable row hrow⟩

end Columns

/-! ## The sample -/

/-- Few enough rows are all looked at. -/
theorem sampled_of_length_le {rows : List Row} {sampleSize : Int}
    (h : (rows.length : Int) ≤ if sampleSize = 0 then defaultSampleRows else sampleSize) :
    sampled rows sampleSize = rows := by
  rw [sampled, sampleRows, if_pos (by omega)]
  exact List.take_of_length_le (by omega)

/-- Plain rows that are looked at in full have a schema, and it loads them exactly if none of their
columns strays. -/
theorem loads_under_own_schema (rows : List Row) (sampleSize : Int) (policy : ColumnPolicy)
    (hrows : rows ≠ [])
    (hsize : (rows.length : Int) ≤ if sampleSize = 0 then defaultSampleRows else sampleSize)
    (hnames : ∀ row ∈ rows, ∀ name ∈ Fields.names row, name ≠ "")
    (hplain : ∀ row ∈ rows, ∀ cell ∈ row, cell.2.isPlain = true) :
    ∃ schema, Schema.ofRows rows sampleSize = .ok schema
      ∧ ((checkLoadable rows schema policy).errors = [] ↔
        ∀ name ∈ observedNames rows, ¬StraysLate Value.isBool (rows.map (Row.cell · name))
          ∧ ¬StraysLate Value.isNumber (rows.map (Row.cell · name))) := by
  have hsampled := sampled_of_length_le hsize
  obtain ⟨schema, hschema, hcolumns, hinferred⟩ :=
    Schema.ofRows_eq_ok sampleSize hrows (by rwa [hsampled])
  rw [hsampled] at hcolumns hinferred
  have hextras : extraColumns rows schema = [] := by
    rw [extraColumns, hcolumns, List.filter_eq_nil_iff]
    intro name hname
    simpa using hname
  refine ⟨schema, hschema, ?_⟩
  rw [checkLoadable_errors_eq_nil, ← hcolumns, Schema.columnNames, List.forall_mem_map]
  simp only [hextras, implies_true, true_and]
  refine forall₂_congr fun c hc => stores_sample_iff hrows (hinferred c hc) fun row hrow => ?_
  exact Row.cell_isPlain (hplain row hrow) c.name

/-- A column has more values than decide its type when it strays. -/
theorem StraysLate.length_lt {kind : Value → Bool} {values : List Value}
    (h : StraysLate kind values) : decidingValues < values.length := by
  by_contra hlength
  obtain ⟨v, hv, hkind⟩ := h.strays
  rw [← List.take_of_length_le (Nat.le_of_not_lt hlength)] at hv
  exact absurd ((h.settled v hv).symm.trans hkind) (by decide)

/-- A truth value and a word under one name, and a name that one row lacks. -/
def mixedRows : List Row := [[("flag", .bool true)], [("flag", .text "x"), ("note", .text "late")]]

/-- Two rows are too few for a column to stray. -/
theorem mixedRows_load : ∃ schema, Schema.ofRows mixedRows 2 = .ok schema
    ∧ (checkLoadable mixedRows schema .strict).errors = [] := by
  obtain ⟨schema, hschema, hloads⟩ := loads_under_own_schema mixedRows 2 .strict
    (by decide) (by decide) (by decide) (by decide)
  refine ⟨schema, hschema, hloads.2 fun name _ => ⟨fun h => ?_, fun h => ?_⟩⟩
  all_goals exact absurd h.length_lt (by rw [List.length_map]; decide)

/-- Fifty truth values and a word. -/
def lateWord : List Row := List.replicate 50 [("flag", .bool true)] ++ [[("flag", .text "x")]]

/-- The fifty truth values make a column that is boolean and not nullable, and it refuses the
word. -/
theorem lateWord_refused :
    lateWord ≠ [] ∧ (lateWord.length : Int) ≤ defaultSampleRows
      ∧ (∀ row ∈ lateWord, ∀ cell ∈ row, cell.1 ≠ "" ∧ cell.2.isPlain = true)
      ∧ ∃ schema, Schema.ofRows lateWord defaultSampleRows = .ok schema
        ∧ (checkLoadable lateWord schema .permissive).errors
          = ["Invalid type for column flag at row 51: expected boolean, got str"] :=
  ⟨by decide, by decide, by decide, _, rfl, by decide +kernel⟩

end MetricLayer
