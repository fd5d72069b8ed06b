import MetricLayer.Proofs.Dataset.LooseCheck
import MetricLayer.Proofs.Dataset.StoredText

/-!
# Stored rows fit their schema

What a column stores for a value has the type of the column or is null
(`ColumnType.accepts_conform`), and is stored for itself (`ColumnType.conform_conform`).  Rows that
can be loaded are therefore stored as rows that fit the schema to the letter, and storing them once
more changes nothing (`conformRows_fit`).  Null is stored for a value that is there only in rows
that did not fit before.
-/

namespace MetricLayer

/-! ## Values -/

namespace ColumnType

/-- What is stored is stored for itself. -/
theorem conform_conform (type : ColumnType) (v : Value) :
    type.conform (type.conform v) = type.conform v := by
  cases type with
  | date =>
    unfold conform
    cases v.toMoment? <;> rfl
  | string => cases v <;> rfl
  | number =>
    by_cases hnumber : v.isNumber = true
    · simp only [conform, if_pos hnumber]
    · simp only [conform, if_neg hnumber]
      rfl
  | boolean => cases v <;> rfl

/-- What is stored has the type of the column unless it is null. -/
theorem accepts_conform {type : ColumnType} {v : Value} (h : (type.conform v).isNull = false) :
    type.accepts (type.conform v) = true := by
  cases type with
  | date =>
    rw [← conform_conform, conform_date_isNull, Bool.not_eq_false'] at h
    exact h
  | number =>
    rw [← conform_conform, conform_number_isNull, Bool.not_eq_false'] at h
    exact h
  | boolean =>
    rw [← conform_conform, conform_boolean_isNull, Bool.not_eq_false'] at h
    exact h
  | string => cases v <;> first | rfl | cases h

end ColumnType

/-! ## Rows -/

section Rows

variable {rows : List Row} {schema : Schema}

theorem names_conformRow (schema : Schema) (row : Row) :
    Fields.names (conformRow schema row) = schema.columnNames := by
  rw [Fields.names, conformRow, List.map_map]
  rfl

theorem conformRow_conformRow (schema : Schema) (row : Row) :
    conformRow schema (conformRow schema row) = conformRow schema row := by
  refine List.map_congr_left fun c hc => ?_
  rw [cell_conformRow hc, ColumnType.conform_conform]

/-- Stored rows have no column that the schema lacks. -/
theorem extraColumns_conformRows (rows : List Row) (schema : Schema) :
    extraColumns (rows.map (conformRow schema)) schema = [] := by
  rw [extraColumns, List.filter_eq_nil_iff]
  intro name hname
  obtain ⟨stored, hstored, hname⟩ := mem_observedNames.1 hname
  obtain ⟨row, -, rfl⟩ := List.mem_map.1 hstored
  rw [names_conformRow] at hname
  simpa using hname

theorem faults_eq_nil :
    faults rows schema = [] ↔
      ∀ c ∈ schema.columns, ∀ row ∈ rows, c.fits (row.cell c.name) = true := by
  rw [faults, List.filter_eq_nil_iff, ← forall_metCells fun c v => c.fits v = true]
  refine forall₂_congr fun cell _ => ?_
  rw [MetCell.isAtFault, Bool.not_eq_true, Bool.not_eq_false']

/-- Rows that can be loaded are stored without faults. -/
theorem faults_conformRows (hloadable : (checkLoadable rows schema .permissive).isValid = true) :
    faults (rows.map (conformRow schema)) schema = [] := by
  obtain ⟨-, hstorable⟩ := checkLoadable_errors_eq_nil.1 (List.isEmpty_iff.1 hloadable)
  rw [faults_eq_nil]
  intro c hc stored hstored
  obtain ⟨row, hrow, rfl⟩ := List.mem_map.1 hstored
  rw [cell_conformRow hc, Column.fits]
  split_ifs with hnull
  · -- a column that is not nullable stores something for every row
    by_contra hnullable
    rw [Bool.not_eq_true] at hnullable
    exact absurd (hnull.symm.trans (hstorable c hc hnullable row hrow)) (by decide)
  · exact ColumnType.accepts_conform ((Bool.not_eq_true _).mp hnull)

/-- In rows that fit to the letter null is stored only for null. -/
theorem isNull_of_conform_isNull {policy : ColumnPolicy}
    (hvalid : (checkRows rows schema policy).isValid = true) {c : Column}
    (hc : c ∈ schema.columns) {row : Row} (hrow : row ∈ rows)
    (hstored : (c.type.conform (row.cell c.name)).isNull = true) :
    (row.cell c.name).isNull = true := by
  rw [checkRows_eq] at hvalid
  obtain ⟨-, hfaults⟩ := List.append_eq_nil_iff.1 (List.isEmpty_iff.1 hvalid)
  rw [List.map_eq_nil_iff, faults_eq_nil] at hfaults
  have hfits := hfaults c hc row hrow
  by_contra hvalue
  rw [Column.fits, if_neg hvalue] at hfits
  have hkept := ColumnType.conform_isNull_of_accepts hfits
  exact absurd (hkept.symm.trans hstored) (by decide)

theorem Row.cell_isNull {row : Row} {name : String} :
    (row.cell name).isNull = true ↔
      Fields.get? row name = none ∨ Fields.get? row name = some .null := by
  rw [Row.cell]
  cases Fields.get? row name with
  | none => simp [Value.isNull]
  | some v => cases v <;> simp [Value.isNull]

/-- Rows that can be loaded are stored as rows of exactly the columns of the schema.  The stored
rows fit it to the letter and are stored as they are.  If the rows fitted to the letter before, a
stored cell is null only where the row held null or nothing. -/
theorem conformRows_fit (rows : List Row) (schema : Schema)
    (hloadable : (checkLoadable rows schema .permissive).isValid = true) :
    (∀ stored ∈ rows.map (conformRow schema), Fields.names stored = schema.columnNames)
    ∧ checkRows (rows.map (conformRow schema)) schema .strict = ⟨[], [], []⟩
    ∧ (rows.map (conformRow schema)).map (conformRow schema) = rows.map (conformRow schema)
    ∧ ∀ policy, (checkRows rows schema policy).isValid = true →
      ∀ c ∈ schema.columns, ∀ row ∈ rows,
        Fields.get? (conformRow schema row) c.name = some .null →
          Fields.get? row c.name = none ∨ Fields.get? row c.name = some .null := by
  refine ⟨?_, ?_, ?_, ?_⟩
  · intro stored hstored
    obtain ⟨row, -, rfl⟩ := List.mem_map.1 hstored
    exact names_conformRow schema row
  · rw [checkRows_eq, faults_conformRows hloadable, reportExtras, extraColumns_conformRows]
    rfl
  · rw [List.map_map]
    exact List.map_congr_left fun row _ => conformRow_conformRow schema row
  · intro policy hvalid c hc row hrow hstored
    refine Row.cell_isNull.1 (isNull_of_conform_isNull hvalid hc hrow ?_)
    rw [← cell_conformRow hc]
    exact Row.cell_isNull.2 (.inr hstored)

end Rows

/-- A note that is no text, and a row without one. -/
def oddNotes : List Row := [[("note", .int 7), ("flag", .bool true)], []]

/-- Loading turns the number into a text, leaves the other column out and fills in a null. -/
theorem oddNotes_fit :
    (checkLoadable oddNotes noteSchema .permissive).isValid = true
      ∧ (checkRows oddNotes noteSchema .permissive).isValid = false
      ∧ oddNotes.map (conformRow noteSchema) = [[("note", .text "7")], [("note", .null)]]
      ∧ checkRows (oddNotes.map (conformRow noteSchema)) noteSchema .strict = ⟨[], [], []⟩ := by
  have hloadable : (checkLoadable oddNotes noteSchema .permissive).isValid = true := by decide
  obtain ⟨-, hfit, -, -⟩ := conformRows_fit oddNotes noteSchema hloadable
  exact ⟨hloadable, by decide, by rfl, hfit⟩

end MetricLayer
