import Mathlib.Tactic.SplitIfs
import MetricLayer.Dataset.Inference
import MetricLayer.Proofs.Text.Occurrences

/-!
# What inference finds

`Schema.ofRows_eq_ok` says what the schema of a sample is: its columns are the cells that the
sampled rows name, each once and in the order of their appearance, and every one of them is
`Column.InferredFrom` the sample.  Inference fails only for want of rows or of a name.  The types
that the deciding values give are described by `ofValues_eq_boolean` and `ofValues_eq_number`.
-/

namespace MetricLayer

theorem mem_observedNames {rows : List Row} {name : String} :
    name ∈ observedNames rows ↔ ∃ row ∈ rows, name ∈ Fields.names row := by
  rw [observedNames, Text.mem_firstOccurrences, List.mem_flatMap]

/-- A list of distinct names has no name that occurred before. -/
theorem firstRepeated?_eq_none {names : List String} (h : names.Nodup) :
    firstRepeated? names = none := by
  rw [firstRepeated?, Option.map_eq_none_iff, List.find?_eq_none]
  rintro ⟨name, i⟩ hmem hrepeated
  obtain ⟨j, hj, hname⟩ := List.mem_take_iff_getElem.1 (List.contains_iff_mem.1 hrepeated)
  obtain ⟨hi, hname'⟩ := List.getElem?_eq_some_iff.1 (List.mem_zipIdx_iff_getElem?.1 hmem)
  have hij : j = i := (List.Nodup.getElem_inj_iff h).1 (hname.trans hname'.symm)
  omega

/-! ## Types -/

namespace ColumnType

variable {values : List Value}

theorem take_decidingValues_eq_nil : values.take decidingValues = [] ↔ values = [] := by
  simp [decidingValues]

/-- A column is boolean when the deciding values are truth values. -/
theorem ofValues_eq_boolean :
    ofValues values = .boolean ↔
      values ≠ [] ∧ ∀ v ∈ values.take decidingValues, v.isBool = true := by
  rw [ne_eq, ← take_decidingValues_eq_nil, ← List.isEmpty_iff, ← List.all_eq_true]
  unfold ofValues
  dsimp only
  split_ifs <;> simp_all

/-- A truth value is no number. -/
theorem isNumber_of_isBool {v : Value} (h : v.isBool = true) : v.isNumber = false := by
  cases v <;> first | rfl | cases h

/-- A column is a number column when the deciding values are finite numbers. -/
theorem ofValues_eq_number :
    ofValues values = .number ↔
      values ≠ [] ∧ ∀ v ∈ values.take decidingValues, v.isNumber = true := by
  have hexclusive : values.take decidingValues ≠ [] →
      (∀ v ∈ values.take decidingValues, v.isBool = true) →
      ¬ ∀ v ∈ values.take decidingValues, v.isNumber = true := fun hne hbool hnumber => by
    obtain ⟨v, hv⟩ := List.exists_mem_of_ne_nil _ hne
    exact absurd (hnumber v hv) (by rw [isNumber_of_isBool (hbool v hv)]; exact Bool.false_ne_true)
  simp only [← List.all_eq_true] at hexclusive ⊢
  rw [ne_eq, ← take_decidingValues_eq_nil, ← List.isEmpty_iff]
  rw [ne_eq, ← List.isEmpty_iff] at hexclusive
  unfold ofValues
  dsimp only
  split_ifs <;> simp_all

end ColumnType

/-! ## Columns -/

/-- The cells of a column that are not null. -/
def presentCells (sample : List Row) (name : String) : List Value :=
  (sample.map (Row.cell · name)).filter (!·.isNull)

theorem mem_presentCells {sample : List Row} {name : String} {v : Value} :
    v ∈ presentCells sample name ↔ (∃ row ∈ sample, row.cell name = v) ∧ v.isNull = false := by
  simp [presentCells]

/-- Cells are present in full number when none is null. -/
theorem length_presentCells_lt {sample : List Row} {name : String} :
    (presentCells sample name).length < sample.length ↔
      ∃ row ∈ sample, (row.cell name).isNull = true := by
  have hlt : (presentCells sample name).length < (sample.map (Row.cell · name)).length ↔ _ :=
    List.length_filter_lt_length_iff_exists
  simpa using hlt

/-- The column is what inference finds in the sample under its name. -/
structure Column.InferredFrom (sample : List Row) (c : Column) : Prop where
  /-- The values that are present decide the type. -/
  type : c.type = .ofValues (presentCells sample c.name)
  /-- It is nullable for a cell that is null, and a date column for a value that is no date. -/
  nullable : c.nullable = true ↔ (∃ row ∈ sample, (row.cell c.name).isNull = true)
    ∨ c.type = .date ∧ ∃ v ∈ presentCells sample c.name, ¬v.isDate = true

theorem Column.ofSample_eq_valid (sample : List Row) {name : String} (h : name ≠ "") :
    ∃ c : Column, Column.ofSample sample name = .valid c ∧ c.name = name
      ∧ c.InferredFrom sample := by
  refine ⟨_, dif_pos h, rfl, rfl, ?_⟩
  rw [Bool.or_eq_true, decide_eq_true_iff, Bool.and_eq_true, decide_eq_true_iff,
    Bool.not_eq_true']
  exact or_congr length_presentCells_lt (and_congr_right' List.all_eq_false)

/-- Names that are not empty give columns of these names. -/
theorem columnsOfSample_eq_valid (sample : List Row) {names : List String}
    (h : ∀ name ∈ names, name ≠ "") :
    ∃ columns, columnsOfSample sample names = .valid columns ∧ columns.map Column.name = names
      ∧ ∀ c ∈ columns, c.InferredFrom sample := by
  induction names with
  | nil => exact ⟨[], rfl, rfl, fun c hc => absurd hc List.not_mem_nil⟩
  | cons name names ih =>
    obtain ⟨c, hc, hname, hinferred⟩ :=
      Column.ofSample_eq_valid sample (h name List.mem_cons_self)
    obtain ⟨columns, hcolumns, hnames, hall⟩ := ih fun n hn => h n (List.mem_cons_of_mem _ hn)
    refine ⟨c :: columns, ?_, ?_, ?_⟩
    · rw [columnsOfSample, hc, Checked.andThen, hcolumns, Checked.map]
    · rw [List.map_cons, hname, hnames]
    · exact List.forall_mem_cons.2 ⟨hinferred, hall⟩

/-! ## Schemas -/

theorem Schema.check_eq_valid {columns : List Column} (h : (columns.map Column.name).Nodup) :
    Schema.check columns [] = .valid ⟨columns, [], h, by simp⟩ := by
  have hkeys : ∀ key ∈ ([] : List String), key ∈ columns.map Column.name := by simp
  simp only [Schema.check, firstRepeated?_eq_none h]
  rw [dif_pos ⟨h, hkeys⟩]

/-- The rows that inference looks at. -/
def sampled (rows : List Row) (sampleSize : Int) : List Row :=
  sampleRows (if sampleSize = 0 then defaultSampleRows else sampleSize) rows

/-- A sample of rows whose cells have names has a schema. -/
theorem Schema.ofRows_eq_ok {rows : List Row} (sampleSize : Int) (hrows : rows ≠ [])
    (hnames : ∀ row ∈ sampled rows sampleSize, ∀ name ∈ Fields.names row, name ≠ "") :
    ∃ schema, Schema.ofRows rows sampleSize = .ok schema
      ∧ schema.columnNames = observedNames (sampled rows sampleSize)
      ∧ ∀ c ∈ schema.columns, c.InferredFrom (sampled rows sampleSize) := by
  obtain ⟨columns, hcolumns, hcolumnNames, hinferred⟩ :=
    columnsOfSample_eq_valid (sampled rows sampleSize) fun name hname => by
      obtain ⟨row, hrow, hname⟩ := mem_observedNames.1 hname
      exact hnames row hrow name hname
  have hnodup : (columns.map Column.name).Nodup :=
    hcolumnNames ▸ Text.nodup_firstOccurrences _
  refine ⟨⟨columns, [], hnodup, by simp⟩, ?_, hcolumnNames, hinferred⟩
  have hsample : Schema.ofSample (sampled rows sampleSize)
      = .valid ⟨columns, [], hnodup, by simp⟩ := by
    rw [Schema.ofSample, hcolumns, Checked.andThen, Schema.check_eq_valid hnodup]
  rw [Schema.ofRows, if_neg (by simpa using hrows)]
  dsimp only
  rw [show sampleRows _ rows = sampled rows sampleSize from rfl, hsample]

end MetricLayer
