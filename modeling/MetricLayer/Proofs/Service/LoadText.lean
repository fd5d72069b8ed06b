import MetricLayer.Proofs.Dataset.StoredText
import MetricLayer.Proofs.Service.Frame

/-!
# Loads that stop at a text

Rows are checked as a whole before the first of them is written, but no check looks for a NUL in a
text.  So a load stops at the first batch with a row that holds one in a column of texts, and the
batches before it stay (`writeRows_stops`).  It stops nowhere else unless the database fails or the
batch size is zero.
-/

namespace MetricLayer

theorem ne_nil_of_mem_chunks {α : Type} {size : Nat} {xs chunk : List α}
    (h : chunk ∈ chunks size xs) : chunk ≠ [] := by
  fun_induction chunks size xs with
  | case1 xs hstop => cases h
  | case2 xs hgo ih =>
    rw [not_or] at hgo
    rcases List.mem_cons.1 h with rfl | h
    · rw [Ne, List.take_eq_nil_iff, not_or]
      exact hgo
    · exact ih h

namespace Action

section Batches

variable {schema : Schema} {physical : String} (hphysical : IsSqlName physical)
  (hnames : ∀ c ∈ schema.columns, IsSqlName c.name)

/-- The action that writes one batch. -/
def insertBatch (physical : String) (schema : Schema) (batch : List Row) : Action Unit :=
  onWarehouse fun w => w.insert physical schema.columnNames (batch.map (conformRow schema))

theorem insertBatch_eq {batch : List Row} (hne : batch ≠ []) (w : World) :
    insertBatch physical schema batch w
      = let change := Change.insert physical schema.columnNames (batch.map (conformRow schema))
        ((w.warehouse.apply change).1, { w with warehouse := (w.warehouse.apply change).2 }) := by
  cases batch with
  | nil => exact absurd rfl hne
  | cons row batch => rfl

include hphysical hnames

/-- A batch without a NUL is added to the table. -/
theorem insertBatch_written {batch : List Row} (hne : batch ≠ [])
    (hbatch : batch.any (Row.holdsNul schema) = false) {w : World}
    (hfault : w.warehouse.faultIn = 0) :
    ∃ w', insertBatch physical schema batch w = (.ok (), w') ∧ w'.warehouse.faultIn = 0
      ∧ w'.contents = Function.update w.contents physical
        ((w.contents physical).map (· ++ batch.map (conformRow schema))) := by
  have hrender := insertStatement_failure? hphysical hnames hne
  rw [hbatch] at hrender
  obtain ⟨sql, hsql⟩ := failure?_eq_none.1 hrender
  have happly := Warehouse.apply_of_render (c := .insert physical schema.columnNames
    (batch.map (conformRow schema))) hsql hfault
  rw [insertBatch_eq hne]
  dsimp only
  rw [happly]
  exact ⟨_, rfl, hfault, Warehouse.contents_record_committed _ _ sql⟩

/-- A batch with a NUL changes no table. -/
theorem insertBatch_stops {batch : List Row} (hne : batch ≠ [])
    (hbatch : batch.any (Row.holdsNul schema) = true) (w : World) :
    ∃ w', insertBatch physical schema batch w = (.error (.sqlText .nulInText), w')
      ∧ w'.contents = w.contents := by
  have hrender := insertStatement_failure? hphysical hnames hne
  rw [hbatch] at hrender
  have hinsert : (Change.insert physical schema.columnNames
      (batch.map (conformRow schema))).render = .error (.sqlText .nulInText) :=
    failure?_eq_some.1 hrender
  rw [insertBatch_eq hne]
  refine ⟨w, ?_, rfl⟩
  dsimp only
  rw [Warehouse.apply, hinsert]
  rfl

/-- Batches are written up to the first one with a NUL. -/
theorem writeBatches_stops (bs : List (List Row)) (hne : ∀ batch ∈ bs, batch ≠ []) {w : World}
    (hfault : w.warehouse.faultIn = 0) :
    ∃ w', writeBatches physical schema.columnNames (bs.map (List.map (conformRow schema))) w
        = (if bs.any (List.any · (Row.holdsNul schema)) then .error (.sqlText .nulInText) else .ok (),
          w')
      ∧ w'.contents = Function.update w.contents physical ((w.contents physical).map
        (· ++ (bs.takeWhile (!List.any · (Row.holdsNul schema))).flatten.map (conformRow schema))) := by
  induction bs generalizing w with
  | nil => exact ⟨w, rfl, (w.contents.update_nothing physical).symm⟩
  | cons batch rest ih =>
    rw [List.map_cons, writeBatches, List.any_cons]
    have hbatch := hne batch List.mem_cons_self
    cases hnul : batch.any (Row.holdsNul schema) with
    | true =>
      obtain ⟨w', hrun, hcontents⟩ := insertBatch_stops hphysical hnames hbatch hnul w
      refine ⟨w', bind_of_error hrun, ?_⟩
      rw [List.takeWhile_cons, hnul, hcontents]
      exact (w.contents.update_nothing physical).symm
    | false =>
      obtain ⟨w', hrun, hfault', hcontents⟩ :=
        insertBatch_written hphysical hnames hbatch hnul hfault
      obtain ⟨w'', hrest, hcontents'⟩ := ih (fun b hb => hne b (List.mem_cons_of_mem batch hb)) hfault'
      refine ⟨w'', (bind_of_ok hrun).trans hrest, ?_⟩
      rw [List.takeWhile_cons, hnul, hcontents', hcontents, Function.update_self,
        Function.update_idem, Option.map_map]
      refine congrArg (Function.update _ _) (congrArg (Option.map · _) (funext fun rows => ?_))
      simp

end Batches

end Action

/-- The rows that are stored before the first batch with a NUL. -/
def rowsBeforeNul (s : LoadSettings) (schema : Schema) (rows : List Row) : List Row :=
  ((batches s.batchSize rows).takeWhile (!List.any · (Row.holdsNul schema))).flatten.map
    (conformRow schema)

/-- Whatever the rows are, a batch of them has a statement exactly if none of its rows holds a NUL in
a column of texts.  On a database that does not fail, writing the rows fails exactly if they are to
be written none at a time, and then nothing is stored, or if some batch has no statement, and then
the batches before it have been stored. -/
theorem writeRows_stops {schema : Schema} (hnames : ∀ c ∈ schema.columns, IsSqlName c.name)
    (s : LoadSettings) (sourceId table : String) (rows : List Row) {w : World}
    (hfault : w.warehouse.faultIn = 0) :
    (∀ batch ∈ batches s.batchSize rows,
      (∃ sql, insertStatement (physicalNameFor sourceId table) schema.columnNames
          (batch.map (conformRow schema)) = .ok sql)
        ↔ ∀ row ∈ batch, row.holdsNul schema = false)
      ∧ ∃ w', Action.writeRows s (physicalNameFor sourceId table) schema rows w
          = (if s.batchSize = 0 ∧ rows ≠ [] then .error (.sqlText .zeroBatch)
            else if (batches s.batchSize rows).any (List.any · (Row.holdsNul schema))
            then .error (.sqlText .nulInText) else .ok (), w')
        ∧ w'.contents = Function.update w.contents (physicalNameFor sourceId table)
          ((w.contents (physicalNameFor sourceId table)).map
            (· ++ rowsBeforeNul s schema rows)) := by
  have hphysical := isSqlName_physicalNameFor sourceId table
  refine ⟨fun batch hbatch => ?_, ?_⟩
  · have hnul : (∀ row ∈ batch, row.holdsNul schema = false)
        ↔ batch.any (Row.holdsNul schema) = false := by simp
    have hfailure := insertStatement_failure? hphysical hnames (ne_nil_of_mem_chunks hbatch)
    refine failure?_eq_none.symm.trans ?_
    rw [hnul, hfailure]
    cases batch.any (Row.holdsNul schema) <;> simp [nulFailure?]
  · unfold Action.writeRows
    rcases Action.requireBatches_cases s rows w with ⟨hzero, herror⟩ | ⟨hsize, hok⟩
    · rw [Action.bind_of_error herror, if_pos hzero, rowsBeforeNul, batches_eq_nil hzero.1.le]
      exact ⟨w, rfl, (w.contents.update_nothing _).symm⟩
    · rw [Action.bind_of_ok hok, if_neg hsize]
      exact Action.writeBatches_stops hphysical hnames _ (fun _ => ne_nil_of_mem_chunks) hfault

theorem wordRow_written :
    (∀ c ∈ wordSchema.columns, IsSqlName c.name) ∧ freshWorld.warehouse.faultIn = 0
      ∧ ∃ w', Action.writeRows .standard (physicalNameFor "s" "a") wordSchema [wordRow] freshWorld
        = (.ok (), w') := by
  have hnames : ∀ c ∈ wordSchema.columns, IsSqlName c.name := by
    simp only [wordSchema, List.forall_mem_singleton]
    exact ⟨by decide, by decide⟩
  obtain ⟨w', hrun, -⟩ :=
    (writeRows_stops hnames .standard "s" "a" [wordRow] (w := freshWorld) rfl).2
  refine ⟨hnames, rfl, w', hrun.trans ?_⟩
  unfold batches
  rw [chunks_one (by decide) (by decide) (by decide)]
  rfl

/-- A row with a NUL as its word. -/
def nulRow : Row := [("word", .text "\x00")]

/-- Both checks accept a NUL, but only the batch before it is stored. -/
theorem nulRow_stops :
    (∀ policy, (checkRows [wordRow, nulRow] wordSchema policy).isValid = true
        ∧ (checkLoadable [wordRow, nulRow] wordSchema policy).isValid = true)
      ∧ insertStatement "ds_s_a" ["word"] [conformRow wordSchema nulRow]
        = .error (.sqlText .nulInText)
      ∧ ((Load.create "s" "a" wordSchema [wordRow, nulRow]).run ⟨1, .permissive⟩ freshWorld).1
        = .error (.sqlText .nulInText)
      ∧ ((Load.create "s" "a" wordSchema [wordRow, nulRow]).run ⟨1, .permissive⟩
        freshWorld).2.contents "ds_s_a" = some [wordRow] := by
  have hvalid : ∀ policy, (checkRows [wordRow, nulRow] wordSchema policy).isValid = true
      ∧ (checkLoadable [wordRow, nulRow] wordSchema policy).isValid = true := by
    intro policy
    cases policy <;> decide
  have hrun : (Load.create "s" "a" wordSchema [wordRow, nulRow]).run ⟨1, .permissive⟩ freshWorld
      = Action.loadNew ⟨1, .permissive⟩ "s" "a" wordSchema [wordRow, nulRow] freshWorld :=
    createTable_eq_loadNew rfl (hvalid .permissive).2
  have hbatches : batches 1 [wordRow, nulRow] = [[wordRow], [nulRow]] := by
    have hlast : chunks 1 [nulRow] = [[nulRow]] := chunks_one (by decide) (by decide) (by decide)
    have hone : ([wordRow] : List Row).length = 1 := rfl
    have hfirst := chunks_append (by decide) hone [nulRow]
    rw [hlast] at hfirst
    exact hfirst
  refine ⟨hvalid, rfl, ?_, ?_⟩
  · rw [hrun, Action.loadNew, Action.writeRows, hbatches]
    rfl
  · rw [hrun, Action.loadNew, Action.writeRows, hbatches]
    rfl

end MetricLayer
