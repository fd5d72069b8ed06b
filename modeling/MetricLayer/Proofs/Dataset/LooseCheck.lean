import MetricLayer.Proofs.Dataset.OwnSample

/-!
# The loose check refines the strict one

Appending holds rows against a schema to the letter and creating a table only as far as loading
needs it.  Both checks meet the same cells in the same order (`metCells`), the strict one refuses
those at fault (`MetCell.isAtFault`), and the loose one forgives some of these
(`MetCell.isForgiven`) and refuses the others with the same texts.  `checkLoadable_refines` says so
of whole reports.
-/

namespace MetricLayer

/-- What has the type of a column is stored in it. -/
theorem ColumnType.conform_isNull_of_accepts {type : ColumnType} {v : Value}
    (h : type.accepts v = true) : (type.conform v).isNull = false := by
  cases type with
  | number => rw [conform_number_isNull, show v.isNumber = true from h, Bool.not_true]
  | boolean => rw [conform_boolean_isNull, show v.isBool = true from h, Bool.not_true]
  | date => rw [conform_date_isNull, show v.isDate = true from h, Bool.not_true]
  | string =>
    cases v with
    | text s => rfl
    | _ => cases h

/-! ## Cells -/

/-- A value fits a column to the letter. -/
def Column.fits (c : Column) (v : Value) : Bool :=
  if v.isNull then c.nullable else c.type.accepts v

/-- A cell as a check meets it. -/
structure MetCell where
  /-- The column of the cell. -/
  column : Column
  /-- The number of its row, counted from 1. -/
  row : Nat
  /-- What the row holds there; null when it lacks the cell. -/
  value : Value

/-- The cells of rows in the order in which the checks meet them, column by column. -/
def metCells (rows : List Row) (schema : Schema) : List MetCell :=
  schema.columns.flatMap fun c => rows.zipIdx.map fun (row, i) => ⟨c, i + 1, row.cell c.name⟩

theorem forall_metCells {rows : List Row} {schema : Schema} (p : Column → Value → Prop) :
    (∀ cell ∈ metCells rows schema, p cell.column cell.value) ↔
      ∀ c ∈ schema.columns, ∀ row ∈ rows, p c (row.cell c.name) := by
  constructor
  · intro h c hc row hrow
    obtain ⟨i, hi, rfl⟩ := List.getElem_of_mem hrow
    refine h ⟨c, i + 1, rows[i].cell c.name⟩ ?_
    have hcell : (rows[i], i) ∈ rows.zipIdx :=
      List.mk_mem_zipIdx_iff_getElem?.2 (List.getElem?_eq_getElem hi)
    exact List.mem_flatMap.2 ⟨c, hc, List.mem_map.2 ⟨_, hcell, rfl⟩⟩
  · intro h cell hcell
    obtain ⟨c, hc, hcell⟩ := List.mem_flatMap.1 hcell
    obtain ⟨⟨row, i⟩, hrow, rfl⟩ := List.mem_map.1 hcell
    exact h c hc row (List.fst_mem_of_mem_zipIdx hrow)

namespace MetCell

variable (cell : MetCell)

/-- The cell does not fit its column to the letter. -/
def isAtFault : Bool := !cell.column.fits cell.value

/-- What is stored for the cell. -/
def stored : Value := cell.column.type.conform cell.value

/-- The cell holds something that can be stored, or null can be stored in its place. -/
def isForgiven : Bool := !cell.value.isNull && (!cell.stored.isNull || cell.column.nullable)

/-- The text that refuses the cell. -/
def refusal : String :=
  if cell.value.isNull then
    s!"Null value in non-nullable column {cell.column.name} at row {cell.row}"
  else
    let expected := cell.column.type.name
    let found := cell.value.kindName
    s!"Invalid type for column {cell.column.name} at row {cell.row}: "
      ++ s!"expected {expected}, got {found}"

/-- The text that says that null is stored for the cell. -/
def loss : String :=
  let expected := cell.column.type.name
  s!"Value for column {cell.column.name} at row {cell.row} is not a valid {expected}; "
    ++ "loaded as NULL"

/-- A check of cells, as a check of this one. -/
def notes (check : Column → Nat → Value → List CellNote) : List CellNote :=
  check cell.column cell.row cell.value

variable {cell}

/-- A cell for which only null can be stored, though it holds something, is at fault. -/
theorem isAtFault_of_stored_isNull (hvalue : cell.value.isNull = false)
    (hstored : cell.stored.isNull = true) : cell.isAtFault = true := by
  have haccepts : cell.column.type.accepts cell.value = false := by
    by_contra h
    rw [Bool.not_eq_false] at h
    have hkept : cell.stored.isNull = false := ColumnType.conform_isNull_of_accepts h
    exact absurd (hkept.symm.trans hstored) (by decide)
  rw [isAtFault, Column.fits, hvalue, haccepts]
  rfl

/-- The strict check refuses the cells at fault. -/
theorem notes_checkCell :
    cell.notes checkCell = if cell.isAtFault then [.refused cell.refusal] else [] := by
  unfold notes checkCell nullNote isAtFault Column.fits refusal
  by_cases hvalue : cell.value.isNull = true
  · rw [if_pos hvalue, if_pos hvalue, if_pos hvalue]
    cases cell.column.nullable <;> rfl
  · rw [if_neg hvalue, if_neg hvalue, if_neg hvalue]
    cases cell.column.type.accepts cell.value <;> rfl

/-- The loose check refuses the cells at fault that are not forgiven, and warns about those that
are forgiven though they cannot be stored. -/
theorem notes_checkLoadableCell :
    cell.notes checkLoadableCell =
      if cell.isAtFault && !cell.isForgiven then [.refused cell.refusal]
      else if cell.isAtFault && cell.isForgiven && cell.stored.isNull then [.lost cell.loss]
      else [] := by
  unfold notes checkLoadableCell nullNote
  by_cases hvalue : cell.value.isNull = true
  · have hforgiven : cell.isForgiven = false := by rw [isForgiven, hvalue]; rfl
    rw [if_pos hvalue, hforgiven, isAtFault, Column.fits, if_pos hvalue, refusal, if_pos hvalue]
    cases cell.column.nullable <;> rfl
  · rw [Bool.not_eq_true] at hvalue
    have hforgiven : cell.isForgiven = (!cell.stored.isNull || cell.column.nullable) := by
      rw [isForgiven, hvalue]
      rfl
    rw [hvalue, hforgiven, refusal, hvalue]
    by_cases hstored : cell.stored.isNull = true
    · have hconform : (cell.column.type.conform cell.value).isNull = true := hstored
      rw [isAtFault_of_stored_isNull hvalue hstored, hconform, hstored]
      cases cell.column.nullable <;> rfl
    · rw [Bool.not_eq_true] at hstored
      have hconform : (cell.column.type.conform cell.value).isNull = false := hstored
      rw [hconform, hstored]
      cases cell.isAtFault <;> rfl

theorem refusals_checkCell :
    (cell.notes checkCell).filterMap CellNote.refusal?
      = if cell.isAtFault then [cell.refusal] else [] := by
  rw [notes_checkCell]
  split_ifs <;> rfl

theorem losses_checkCell : (cell.notes checkCell).filterMap CellNote.loss? = [] := by
  rw [notes_checkCell]
  split_ifs <;> rfl

theorem refusals_checkLoadableCell :
    (cell.notes checkLoadableCell).filterMap CellNote.refusal?
      = if !cell.isForgiven && cell.isAtFault then [cell.refusal] else [] := by
  rw [notes_checkLoadableCell, Bool.and_comm cell.isAtFault]
  split_ifs <;> rfl

theorem losses_checkLoadableCell :
    (cell.notes checkLoadableCell).filterMap CellNote.loss?
      = if (cell.isForgiven && cell.stored.isNull) && cell.isAtFault then [cell.loss] else [] := by
  rw [notes_checkLoadableCell]
  cases cell.isAtFault <;> cases cell.isForgiven <;> cases cell.stored.isNull <;> rfl

end MetCell

/-! ## Reports -/

theorem cellNotes_eq_flatMap (check : Column → Nat → Value → List CellNote) (rows : List Row)
    (schema : Schema) :
    cellNotes check rows schema = (metCells rows schema).flatMap (MetCell.notes · check) := by
  rw [metCells, List.flatMap_assoc]
  simp only [List.flatMap_map]
  rfl

/-- A selection of the notes on all cells, when each cell contributes at most one text to it. -/
theorem filterMap_cellNotes {check : Column → Nat → Value → List CellNote}
    {pick : CellNote → Option String} {p : MetCell → Bool} {text : MetCell → String}
    (h : ∀ cell : MetCell,
      (cell.notes check).filterMap pick = if p cell then [text cell] else [])
    (rows : List Row) (schema : Schema) :
    (cellNotes check rows schema).filterMap pick = ((metCells rows schema).filter p).map text := by
  rw [cellNotes_eq_flatMap, List.filterMap_flatMap]
  induction metCells rows schema with
  | nil => rfl
  | cons cell cells ih =>
    rw [List.flatMap_cons, ih, h cell, List.filter_cons]
    split_ifs <;> rfl

/-- The cells that do not fit the schema to the letter. -/
def faults (rows : List Row) (schema : Schema) : List MetCell :=
  (metCells rows schema).filter MetCell.isAtFault

section Reports

variable (rows : List Row) (schema : Schema) (policy : ColumnPolicy)

theorem checkRows_eq : checkRows rows schema policy =
    ⟨(reportExtras rows schema policy).errors ++ (faults rows schema).map MetCell.refusal,
      (reportExtras rows schema policy).warnings,
      (reportExtras rows schema policy).extraColumns⟩ := by
  have hlosses : (cellNotes checkCell rows schema).filterMap CellNote.loss? = [] := by
    rw [cellNotes_eq_flatMap, List.filterMap_flatMap, List.flatMap_eq_nil_iff]
    exact fun cell _ => MetCell.losses_checkCell
  rw [checkRows, reportWith, filterMap_cellNotes fun _ => MetCell.refusals_checkCell, hlosses,
    List.append_nil, faults]

theorem checkLoadable_eq : checkLoadable rows schema policy =
    ⟨(reportExtras rows schema policy).errors
        ++ ((faults rows schema).filter (!·.isForgiven)).map MetCell.refusal,
      (reportExtras rows schema policy).warnings
        ++ ((faults rows schema).filter fun cell =>
            cell.isForgiven && cell.stored.isNull).map MetCell.loss,
      (reportExtras rows schema policy).extraColumns⟩ := by
  rw [checkLoadable, reportWith, filterMap_cellNotes fun _ => MetCell.refusals_checkLoadableCell,
    filterMap_cellNotes fun _ => MetCell.losses_checkLoadableCell, faults, List.filter_filter,
    List.filter_filter]

/-- The loose check reports the same extra columns as the strict one, and of the cells that the
strict one refuses it refuses those that are not forgiven, in the same order and with the same
texts.  Its further warnings are about the cells that are forgiven though they cannot be stored.
What the strict check lets pass is therefore loadable, and nothing of it is lost. -/
theorem checkLoadable_refines :
    (checkLoadable rows schema policy).extraColumns = (checkRows rows schema policy).extraColumns
    ∧ (checkRows rows schema policy).errors
      = (reportExtras rows schema policy).errors ++ (faults rows schema).map MetCell.refusal
    ∧ (checkLoadable rows schema policy).errors
      = (reportExtras rows schema policy).errors
        ++ ((faults rows schema).filter (!·.isForgiven)).map MetCell.refusal
    ∧ (checkLoadable rows schema policy).errors.Sublist (checkRows rows schema policy).errors
    ∧ (checkRows rows schema policy).warnings = (reportExtras rows schema policy).warnings
    ∧ (checkLoadable rows schema policy).warnings
      = (reportExtras rows schema policy).warnings
        ++ ((faults rows schema).filter fun cell =>
            cell.isForgiven && cell.stored.isNull).map MetCell.loss
    ∧ ((checkRows rows schema policy).isValid = true →
      (checkLoadable rows schema policy).isValid = true
        ∧ (checkLoadable rows schema policy).warnings
          = (reportExtras rows schema policy).warnings) := by
  rw [checkRows_eq, checkLoadable_eq]
  have hsublist : (((faults rows schema).filter (!·.isForgiven)).map MetCell.refusal).Sublist
      ((faults rows schema).map MetCell.refusal) := List.filter_sublist.map _
  refine ⟨rfl, rfl, rfl, hsublist.append_left _, rfl, rfl, fun hvalid => ?_⟩
  obtain ⟨hextras, hfaults⟩ := List.append_eq_nil_iff.1 (List.isEmpty_iff.1 hvalid)
  rw [List.map_eq_nil_iff] at hfaults
  rw [hfaults, hextras]
  exact ⟨rfl, List.append_nil _⟩

end Reports

/-- A schema of one column of texts, which may be missing. -/
def noteSchema : Schema :=
  ⟨[⟨"note", .string, true, false, by decide⟩], [], by decide, by decide⟩

/-- Rows with an extra column can be valid, and then loading them loses nothing else. -/
theorem mixedRows_notes :
    (checkRows mixedRows noteSchema .permissive).isValid = true
      ∧ (checkLoadable mixedRows noteSchema .permissive).isValid = true
      ∧ (checkLoadable mixedRows noteSchema .permissive).warnings
        = ["Unexpected column: flag"] := by
  have hvalid : (checkRows mixedRows noteSchema .permissive).isValid = true := by decide
  obtain ⟨-, -, -, -, -, -, hloads⟩ := checkLoadable_refines mixedRows noteSchema .permissive
  obtain ⟨hloadable, hwarnings⟩ := hloads hvalid
  refine ⟨hvalid, hloadable, ?_⟩
  rw [hwarnings]
  decide

end MetricLayer
