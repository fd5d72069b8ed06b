import MetricLayer.Service.Loading
import MetricLayer.Service.Metrics
import Mathlib.Tactic

/-!
# Running actions

What an action does in a world is read off its parts: `bind_of_ok` and `bind_of_error` run a
sequence, `Keeps` carries a relation between the worlds before and after through one.  The inversion
lemmas say once what each action of the service can do (`createTable_cases`, `append_cases`,
`dropSource_cases`); nothing after them opens the actions again.
-/

namespace MetricLayer.Action

variable {α β : Type} {w w' : World}

theorem bind_of_ok {x : Action α} {f : α → Action β} {a : α} (h : x w = (.ok a, w')) :
    (x >>= f) w = f a w' := by
  simp only [bind, ExceptT.bind, ExceptT.mk, StateT.bind]
  rw [h]
  rfl

theorem bind_of_error {x : Action α} {f : α → Action β} {failure : Failure}
    (h : x w = (.error failure, w')) : (x >>= f) w = (.error failure, w') := by
  simp only [bind, ExceptT.bind, ExceptT.mk, StateT.bind]
  rw [h]
  rfl

/-! ## Relations that actions respect -/

/-- The action respects a relation between the worlds before and after it. -/
def Keeps (R : World → World → Prop) (x : Action α) : Prop := ∀ w, R w (x w).2

namespace Keeps

section Same

variable {R : World → World → Prop} [Std.Refl R]

theorem of_same {x : Action α} (h : ∀ w, (x w).2 = w) : Keeps R x := by
  intro w
  rw [h w]
  exact refl w

theorem pure (a : α) : Keeps R (Pure.pure a : Action α) := of_same fun _ => rfl

theorem throw (failure : Failure) : Keeps R (MonadExcept.throw failure : Action α) :=
  of_same fun _ => rfl

end Same

theorem bind {R : World → World → Prop} [IsTrans World R] {x : Action α} {f : α → Action β}
    (hx : Keeps R x) (hf : ∀ a, Keeps R (f a)) : Keeps R (x >>= f) := by
  intro w
  have hfirst := hx w
  rcases hrun : x w with ⟨_ | a, w'⟩
  · rw [bind_of_error hrun]
    rwa [hrun] at hfirst
  · rw [bind_of_ok hrun]
    rw [hrun] at hfirst
    exact IsTrans.trans _ _ _ hfirst (hf a w')

end Keeps

/-! ## What the actions can do -/

theorem accept_cases (report : Report) (w : World) :
    (report.isValid = true ∧ accept report w = (.ok (), w))
    ∨ (report.isValid = false ∧ accept report w = (.error (.rowsRejected report.errors), w)) := by
  unfold accept
  cases hvalid : report.isValid with
  | true => exact .inl ⟨rfl, rfl⟩
  | false => exact .inr ⟨rfl, rfl⟩

/-- Rows are refused if they are to be written none at a time. -/
theorem requireBatches_cases (s : LoadSettings) (rows : List Row) (w : World) :
    ((s.batchSize = 0 ∧ rows ≠ []) ∧ requireBatches s rows w = (.error (.sqlText .zeroBatch), w))
    ∨ (¬(s.batchSize = 0 ∧ rows ≠ []) ∧ requireBatches s rows w = (.ok (), w)) := by
  unfold requireBatches
  split
  · next hzero => exact .inl ⟨hzero, rfl⟩
  · next hsize => exact .inr ⟨hsize, rfl⟩

theorem requireBatches_same (s : LoadSettings) (rows : List Row) (w : World) :
    (requireBatches s rows w).2 = w := by
  rcases requireBatches_cases s rows w with ⟨-, h⟩ | ⟨-, h⟩ <;> rw [h]

section Rows

variable {R : World → World → Prop} [Std.Refl R] [IsTrans World R]
  (hinsert : ∀ (physical : String) (columns : List String) (batch : List Row),
    Keeps R (onWarehouse fun w => w.insert physical columns batch))

include hinsert

/-- Writing rows respects what each insertion respects. -/
theorem Keeps.writeRows (s : LoadSettings) (physical : String) (schema : Schema) (rows : List Row) :
    Keeps R (Action.writeRows s physical schema rows) := by
  refine .bind (.of_same (requireBatches_same s rows)) fun _ => ?_
  induction (batches s.batchSize rows).map (List.map (conformRow schema)) with
  | nil => exact .pure ()
  | cons batch rest ih => exact .bind (hinsert _ _ _) fun _ => ih

theorem Keeps.extend (s : LoadSettings) (t : DataTable) (rows : List Row)
    (hcount : Keeps R (onCatalog fun c now => c.addRows now t.id rows.length)) :
    Keeps R (Action.extend s t rows) := by
  unfold Action.extend
  split
  · exact .pure t
  · exact .bind (.writeRows hinsert _ _ _ _) fun _ => hcount

end Rows

theorem writeRows_zero {s : LoadSettings} (hsize : s.batchSize = 0) {rows : List Row}
    (hrows : rows ≠ []) (physical : String) (schema : Schema) (w : World) :
    writeRows s physical schema rows w = (.error (.sqlText .zeroBatch), w) := by
  unfold writeRows requireBatches
  rw [if_pos ⟨hsize, hrows⟩]
  rfl

/-- For any other batch size, rows are written batch by batch. -/
theorem writeRows_eq {s : LoadSettings} (hsize : s.batchSize ≠ 0) (physical : String)
    (schema : Schema) (rows : List Row) :
    writeRows s physical schema rows = writeBatches physical schema.columnNames
      ((batches s.batchSize rows).map (List.map (conformRow schema))) := by
  unfold writeRows requireBatches
  rw [if_neg fun h => hsize h.1, pure_bind]

/-- Creates the physical table of a new table, writes its first rows and adds its record. -/
def loadNew (s : LoadSettings) (sourceId name : String) (schema : Schema) (rows : List Row) :
    Action DataTable := do
  let physical := physicalNameFor sourceId name
  onWarehouse fun w => w.apply (.create physical schema.columns schema.primaryKeys)
  writeRows s physical schema rows
  onCatalog fun c now => c.putTable now sourceId name physical schema rows.length

/-- A table is created in one of three ways: it is refused before anything was done, its rows are
added to the existing table of that schema, or it is new. -/
theorem createTable_cases (s : LoadSettings) (sourceId name : String) (schema : Schema)
    (rows : List Row) (w : World) :
    (((∃ t, w.catalog.table? sourceId name = some t ∧ t.schema ≠ schema)
        ∨ (checkLoadable rows schema s.policy).isValid = false)
      ∧ ∃ failure, createTable s sourceId name schema rows w = (.error failure, w))
    ∨ (∃ t, w.catalog.table? sourceId name = some t ∧ t.schema = schema
      ∧ createTable s sourceId name schema rows w = extend s t rows w)
    ∨ (w.catalog.table? sourceId name = none
      ∧ createTable s sourceId name schema rows w = loadNew s sourceId name schema rows w) := by
  unfold createTable
  rw [bind_of_ok (rfl : catalog w = (.ok w.catalog, w))]
  dsimp only
  cases hfound : w.catalog.table? sourceId name with
  | none =>
    rw [if_neg (by simp)]
    rcases accept_cases (checkLoadable rows schema s.policy) w with ⟨-, hok⟩ | ⟨hvalid, herror⟩
    · rw [bind_of_ok hok]
      exact .inr (.inr ⟨rfl, rfl⟩)
    · rw [bind_of_error herror]
      exact .inl ⟨.inr hvalid, _, rfl⟩
  | some t =>
    by_cases hschema : t.schema = schema
    · rw [if_neg (by simpa using hschema)]
      rcases accept_cases (checkLoadable rows schema s.policy) w with ⟨-, hok⟩ | ⟨hvalid, herror⟩
      · rw [bind_of_ok hok]
        exact .inr (.inl ⟨t, rfl, hschema, rfl⟩)
      · rw [bind_of_error herror]
        exact .inl ⟨.inr hvalid, _, rfl⟩
    · rw [if_pos (by simpa using hschema)]
      exact .inl ⟨.inl ⟨t, rfl, hschema⟩, _, rfl⟩

theorem findTable_some {sourceId name : String} {t : DataTable}
    (h : w.catalog.table? sourceId name = some t) : findTable sourceId name w = (.ok t, w) := by
  unfold findTable
  rw [bind_of_ok (rfl : catalog w = (.ok w.catalog, w)), h]
  rfl

theorem findTable_none {sourceId name : String} (h : w.catalog.table? sourceId name = none) :
    findTable sourceId name w = (.error (.tableNotFound name sourceId), w) := by
  unfold findTable
  rw [bind_of_ok (rfl : catalog w = (.ok w.catalog, w)), h]
  rfl

/-- Rows are added to a table that exists, or refused before anything was done. -/
theorem append_cases (s : LoadSettings) (sourceId name : String) (rows : List Row) (w : World) :
    (∃ failure, append s sourceId name rows w = (.error failure, w))
    ∨ ∃ t, w.catalog.table? sourceId name = some t
      ∧ append s sourceId name rows w = extend s t rows w := by
  unfold append
  cases hfound : w.catalog.table? sourceId name with
  | none =>
    rw [bind_of_error (findTable_none hfound)]
    exact .inl ⟨_, rfl⟩
  | some t =>
    rw [bind_of_ok (findTable_some hfound)]
    rcases accept_cases (checkRows rows t.schema s.policy) w with ⟨-, hok⟩ | ⟨-, herror⟩
    · rw [bind_of_ok hok]
      exact .inr ⟨t, rfl, rfl⟩
    · rw [bind_of_error herror]
      exact .inl ⟨_, rfl⟩

/-- The tables of a source that exists are dropped before its records are removed. -/
theorem dropSource_cases (id : String) (w : World) :
    (w.catalog.source? id = none ∧ dropSource id w = (.error (.sourceNotFound id), w))
    ∨ ∃ source, w.catalog.source? id = some source
      ∧ dropSource id w = (do
        dropTables (w.catalog.tablesOf id)
        onCatalog fun c _ => c.deleteSource id : Action Unit) w := by
  unfold dropSource
  rw [bind_of_ok (rfl : catalog w = (.ok w.catalog, w))]
  cases hfound : w.catalog.source? id with
  | none => exact .inl ⟨rfl, rfl⟩
  | some source => exact .inr ⟨source, rfl, rfl⟩

end MetricLayer.Action
