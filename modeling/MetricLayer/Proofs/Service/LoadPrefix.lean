import MetricLayer.Proofs.Service.Counts
import MetricLayer.Proofs.Service.LoadText

/-!
# Loads that break off

Every batch is written in a transaction of its own and the row count is raised after the last one.
So when the insertion after `k` batches fails (`InsertFailsAfter`), the rows of these `k` batches
stay in the table, no row of a later one is there, and no record has changed
(`Load.broken_off`).  A load that was accepted fails in no other way.

Loads only ever add rows (`World.Longer`), and what they count they have written.  Hence no table
counts more rows than it has, however many loads broke off before (`Covered`,
`ManagerRun.covered`).  `failed_insert_keeps_prefix` puts both together.
-/

namespace MetricLayer

/-! ## Batches -/

/-- The first `k` batches hold the first `k * size` rows. -/
theorem flatten_take_chunks {α : Type} {size : Nat} (hsize : 0 < size) (k : Nat) (xs : List α) :
    ((chunks size xs).take k).flatten = xs.take (k * size) := by
  induction k generalizing xs with
  | zero => rw [List.take_zero, Nat.zero_mul, List.take_zero, List.flatten_nil]
  | succ k ih =>
    rw [chunks]
    by_cases hstop : size = 0 ∨ xs = []
    · obtain rfl : xs = [] := hstop.resolve_left hsize.ne'
      rw [dif_pos hstop, List.take_nil, List.take_nil, List.flatten_nil]
    · rw [dif_neg hstop, List.take_succ_cons, List.flatten_cons, ih, Nat.succ_mul, Nat.add_comm,
        List.take_add]

/-- The insertion after the first `k` batches of the rows fails: these are written into the table,
and then the next one is refused. -/
def InsertFailsAfter (s : LoadSettings) (t : DataTable) (rows : List Row) (k : Nat) (w : World)
    (failure : Failure) (w' : World) : Prop :=
  ∃ batch w₁, (batches s.batchSize rows)[k]? = some batch
    ∧ Action.writeBatches t.physicalName t.schema.columnNames
        (((batches s.batchSize rows).take k).map (List.map (conformRow t.schema))) w = (.ok (), w₁)
    ∧ Action.insertBatch t.physicalName t.schema batch w₁ = (.error failure, w')

namespace Action

/-- Writing batches fails exactly when it fails on one of them, after those before it. -/
theorem writeBatches_error_iff {physical : String} {schema : Schema} {failure : Failure}
    (bs : List (List Row)) {w w' : World} :
    writeBatches physical schema.columnNames (bs.map (List.map (conformRow schema))) w
        = (.error failure, w') ↔
      ∃ k batch w₁, bs[k]? = some batch
        ∧ writeBatches physical schema.columnNames
          ((bs.take k).map (List.map (conformRow schema))) w = (.ok (), w₁)
        ∧ insertBatch physical schema batch w₁ = (.error failure, w') := by
  induction bs generalizing w with
  | nil =>
    constructor
    · intro h
      cases h
    · rintro ⟨k, batch, w₁, hbatch, -⟩
      cases hbatch
  | cons first rest ih =>
    rw [List.map_cons, writeBatches]
    change (insertBatch physical schema first >>= _) w = _ ↔ _
    rcases hfirst : insertBatch physical schema first w with ⟨failure' | ⟨⟩, w₀⟩
    · -- nothing is written before the first batch, and nothing after it
      rw [bind_of_error hfirst]
      constructor
      · intro h
        rw [← h]
        exact ⟨0, first, w, rfl, rfl, hfirst⟩
      · rintro ⟨k, batch, w₁, hbatch, hwritten, hfails⟩
        cases k with
        | zero =>
          cases hbatch
          cases hwritten
          rw [← hfirst, hfails]
        | succ k =>
          rw [List.take_succ_cons, List.map_cons, writeBatches] at hwritten
          cases (bind_of_error hfirst).symm.trans hwritten
    · rw [bind_of_ok hfirst, ih]
      constructor
      · rintro ⟨k, batch, w₁, hbatch, hwritten, hfails⟩
        exact ⟨k + 1, batch, w₁, hbatch, (bind_of_ok hfirst).trans hwritten, hfails⟩
      · rintro ⟨k, batch, w₁, hbatch, hwritten, hfails⟩
        cases k with
        | zero =>
          cases hbatch
          cases hwritten
          cases hfirst.symm.trans hfails
        | succ k =>
          rw [List.take_succ_cons, List.map_cons, writeBatches] at hwritten
          exact ⟨k, batch, w₁, hbatch, (bind_of_ok hfirst).symm.trans hwritten, hfails⟩

/-- An insertion that fails has changed nothing. -/
theorem insertBatch_refused {physical : String} {schema : Schema} {batch : List Row}
    {failure : Failure} {w w' : World}
    (h : insertBatch physical schema batch w = (.error failure, w')) :
    w'.catalog = w.catalog ∧ w'.contents = w.contents := by
  cases batch with
  | nil => cases h
  | cons row rest =>
    rcases apply_cases (.insert physical schema.columnNames ((row :: rest).map (conformRow schema)))
      w with ⟨w₁, hrun, -⟩ | ⟨failure', w₁, hrun, hcatalog, -, hcontents⟩
    · cases hrun.symm.trans h
    · cases hrun.symm.trans h
      exact ⟨hcatalog, hcontents⟩

end Action

/-! ## A load that is accepted -/

namespace Load

variable {s : LoadSettings} {l : Load} {t : DataTable} {w w' : World}

/-- The rows of the load are accepted for a table that exists. -/
def Accepted (s : LoadSettings) (t : DataTable) : Load → Prop
  | create _ _ schema rows =>
    t.schema = schema ∧ (checkLoadable rows schema s.policy).isValid = true
  | append _ _ rows => (checkRows rows t.schema s.policy).isValid = true

theorem run_accepted (ht : w.catalog.table? l.sourceId l.name = some t) (h : l.Accepted s t) :
    l.run s w = Action.extend s t l.rows w := by
  cases l with
  | create sourceId name schema rows =>
    obtain ⟨rfl, hvalid⟩ := h
    rcases Action.createTable_cases s sourceId name t.schema rows w with
      ⟨⟨u, hu, hschema⟩ | hinvalid, -⟩ | ⟨u, hu, -, hrun⟩ | ⟨hnone, -⟩
    · cases ht.symm.trans hu
      exact absurd rfl hschema
    · cases hvalid.symm.trans hinvalid
    · cases ht.symm.trans hu
      exact hrun
    · cases ht.symm.trans hnone
  | append sourceId name rows => exact append_eq_extend ht h

/-- When an insertion fails, the rows of the batches before it are in the table, and nothing else
has changed. -/
theorem broken_off (hsize : 0 < s.batchSize) (ht : w.catalog.table? l.sourceId l.name = some t)
    (haccepted : l.Accepted s t) {k : Nat} {failure : Failure}
    (h : InsertFailsAfter s t l.rows k w failure w') :
    l.run s w = (.error failure, w') ∧ w'.catalog = w.catalog
      ∧ w'.contents = Function.update w.contents t.physicalName
        ((w.contents t.physicalName).map
          (· ++ (l.rows.take (k * s.batchSize.toNat)).map (conformRow t.schema))) := by
  obtain ⟨batch, w₁, hbatch, hwritten, hfails⟩ := h
  have hrows : l.rows.isEmpty = false := by
    by_contra hempty
    rw [Bool.not_eq_false, List.isEmpty_iff] at hempty
    rw [hempty, batches, chunks, dif_pos (.inr rfl)] at hbatch
    cases hbatch
  refine ⟨?_, ?_⟩
  · rw [run_accepted ht haccepted, Action.extend, hrows, Action.writeRows_eq hsize.ne']
    exact Action.bind_of_error
      ((Action.writeBatches_error_iff _).2 ⟨k, batch, w₁, hbatch, hwritten, hfails⟩)
  · obtain ⟨hcatalog', hcontents'⟩ := Action.insertBatch_refused hfails
    have hwrote := Action.writeBatches_wrote t.physicalName t.schema.columnNames
      (((batches s.batchSize l.rows).take k).map (List.map (conformRow t.schema))) w
    rw [hwritten, ← List.map_flatten, batches, flatten_take_chunks (by omega)] at hwrote
    cases hwrote with
    | done hcatalog _ hcontents => exact ⟨hcatalog'.trans hcatalog, hcontents'.trans hcontents⟩

/-- A load that was accepted fails only on an insertion. -/
theorem fails_on_insert (hsize : 0 < s.batchSize) (hw : w.catalog.Consistent)
    (ht : w.catalog.table? l.sourceId l.name = some t) (haccepted : l.Accepted s t)
    {failure : Failure} (h : l.run s w = (.error failure, w')) :
    ∃ k, InsertFailsAfter s t l.rows k w failure w' := by
  rw [run_accepted ht haccepted, Action.extend] at h
  split at h
  · cases h
  · have hwrote := Action.writeRows_wrote s t.physicalName t.schema l.rows w
    rcases hrun : Action.writeRows s t.physicalName t.schema l.rows w with ⟨failure' | ⟨⟩, w₁⟩
    · cases (Action.bind_of_error hrun).symm.trans h
      rw [Action.writeRows_eq hsize.ne'] at hrun
      exact (Action.writeBatches_error_iff _).1 hrun
    · -- the record of the table is still there to be counted up
      rw [hrun] at hwrote
      rw [Action.bind_of_ok hrun, Action.onCatalog_eq] at h
      cases hwrote with
      | done hcatalog _ _ =>
        rw [hcatalog, Catalog.addRows, hw.find?_id (Catalog.table?_eq_some ht).1] at h
        cases h

end Load

/-! ## Tables that grow -/

/-- Every table has its rows still, with others behind them. -/
def World.Longer (w w' : World) : Prop :=
  ∀ physical rows, w.contents physical = some rows →
    ∃ added, w'.contents physical = some (rows ++ added)

namespace World.Longer

theorem of_contents {w w' : World} (h : w'.contents = w.contents) : Longer w w' := by
  intro physical rows hrows
  exact ⟨[], by rw [h, hrows, List.append_nil]⟩

instance : Std.Refl Longer := ⟨fun _ => of_contents rfl⟩

instance : IsTrans World Longer where
  trans w w₁ w₂ h h' physical rows hrows := by
    obtain ⟨added, hadded⟩ := h physical rows hrows
    obtain ⟨more, hmore⟩ := h' physical _ hadded
    exact ⟨added ++ more, by rw [hmore, List.append_assoc]⟩

/-- A change of one table that keeps its rows. -/
theorem of_update {w w' : World} {physical : String} {rows : Option (List Row)}
    (h : w'.contents = Function.update w.contents physical rows)
    (hrows : ∀ before, w.contents physical = some before →
      ∃ added, rows = some (before ++ added)) : Longer w w' := by
  intro other before hbefore
  rw [h]
  by_cases hown : other = physical
  · rw [hown, Function.update_self]
    exact hrows before (hown ▸ hbefore)
  · rw [Function.update_of_ne hown]
    exact ⟨[], by rw [hbefore, List.append_nil]⟩

end World.Longer

namespace Action

open World

theorem onCatalog_longer {α : Type} (update : Catalog → Moment → Outcome α × Catalog) :
    Keeps Longer (onCatalog update) :=
  fun _ => .of_contents rfl

/-- A change that drops no table keeps the rows of all. -/
theorem apply_longer {c : Change}
    (hc : ∀ rows, ∃ added, c.applied (some rows) = some (rows ++ added)) :
    Keeps Longer (onWarehouse fun w => w.apply c) := by
  intro w
  rcases apply_cases c w with ⟨w', hrun, -, -, hcontents⟩ | ⟨failure, w', hrun, -, -, hcontents⟩
  · rw [hrun]
    exact .of_update hcontents fun before hbefore => hbefore ▸ hc before
  · rw [hrun]
    exact .of_contents hcontents

theorem insert_longer (physical : String) (columns : List String) (rows : List Row) :
    Keeps Longer (onWarehouse fun w => w.insert physical columns rows) := by
  cases rows with
  | nil => exact .of_same fun _ => rfl
  | cons row rows => exact apply_longer fun before => ⟨row :: rows, rfl⟩

theorem extend_longer (s : LoadSettings) (t : DataTable) (rows : List Row) :
    Keeps Longer (extend s t rows) :=
  .extend insert_longer s t rows (onCatalog_longer _)

theorem loadNew_longer (s : LoadSettings) (sourceId name : String) (schema : Schema)
    (rows : List Row) : Keeps Longer (loadNew s sourceId name schema rows) :=
  .bind (apply_longer fun before => ⟨[], congrArg some (List.append_nil before).symm⟩) fun _ =>
    .bind (.writeRows insert_longer _ _ _ _) fun _ => onCatalog_longer _

end Action

/-- A load takes no row from any table, whatever becomes of it. -/
theorem Load.run_longer (s : LoadSettings) (l : Load) : Action.Keeps World.Longer (l.run s) := by
  intro w
  cases l with
  | create sourceId name schema rows =>
    rw [run]
    rcases Action.createTable_cases s sourceId name schema rows w with
      ⟨-, failure, h⟩ | ⟨t, -, -, h⟩ | ⟨-, h⟩ <;> rw [h]
    · exact refl w
    · exact Action.extend_longer s t rows w
    · exact Action.loadNew_longer s sourceId name schema rows w
  | append sourceId name rows =>
    rw [run]
    rcases Action.append_cases s sourceId name rows w with ⟨failure, h⟩ | ⟨t, -, h⟩ <;> rw [h]
    · exact refl w
    · exact Action.extend_longer s t rows w

theorem Load.run_steps (s : LoadSettings) (l : Load) : Action.Stepwise (l.run s) := by
  cases l with
  | create sourceId name schema rows => exact Action.createTable_steps s sourceId name schema rows
  | append sourceId name rows => exact Action.append_steps s sourceId name rows

/-! ## Row counts -/

/-- No table counts more rows than it has. -/
structure Covered (w : World) : Prop where
  /-- The catalog keeps its promises. -/
  consistent : w.catalog.Consistent
  /-- Each table has the rows that it counts. -/
  rows : ∀ t ∈ w.catalog.tables, ∃ rows, w.contents t.physicalName = some rows
    ∧ t.rowCount ≤ rows.length

namespace Covered

variable {s : LoadSettings} {w w' : World}

/-- A table that has got longer still has the rows that it counted. -/
theorem rows_of_longer (h : Covered w) (hlonger : w.Longer w') {t : DataTable}
    (ht : t ∈ w.catalog.tables) :
    ∃ rows, w'.contents t.physicalName = some rows ∧ t.rowCount ≤ rows.length := by
  obtain ⟨rows, hrows, hcount⟩ := h.rows t ht
  obtain ⟨added, hadded⟩ := hlonger _ _ hrows
  refine ⟨rows ++ added, hadded, ?_⟩
  rw [List.length_append]
  omega

/-- Longer tables with the same records keep the invariant. -/
theorem of_longer (h : Covered w) (hconsistent : w'.catalog.Consistent)
    (htables : w'.catalog.tables = w.catalog.tables) (hlonger : w.Longer w') : Covered w' :=
  ⟨hconsistent, fun _ ht => h.rows_of_longer hlonger (htables ▸ ht)⟩

/-- A load keeps the invariant, whether it succeeds or not. -/
theorem load (h : Covered w) (hsize : 0 < s.batchSize) (l : Load) : Covered (l.run s w).2 := by
  have hconsistent : (l.run s w).2.catalog.Consistent :=
    World.Steps.consistent (l.run_steps s w) h.consistent
  have hlonger := l.run_longer s w
  have hresult := l.run_result s h.consistent
  generalize l.run s w = result at hconsistent hlonger hresult
  cases hresult with
  | refused failure => exact h
  | nothing ht hrows => exact h
  | brokenOff ht hcatalog =>
    exact h.of_longer hconsistent (congrArg Catalog.tables hcatalog) hlonger
  | stillborn hl hnone hcatalog =>
    exact h.of_longer hconsistent (congrArg Catalog.tables hcatalog) hlonger
  | collided hl hnone htaken hcatalog =>
    exact h.of_longer hconsistent (congrArg Catalog.tables hcatalog :) hlonger
  | @grown t w' ht hcatalog hcontents =>
    obtain ⟨hmem, -, -⟩ := Catalog.table?_eq_some ht
    refine ⟨hconsistent, fun v hv => ?_⟩
    rcases Catalog.mem_replaceTable (u := l.grownTable t w.now) rfl (hcatalog ▸ hv) with
      rfl | ⟨hv, -⟩
    · obtain ⟨rows, hrows, hcount⟩ := h.rows t hmem
      refine ⟨rows ++ l.rows.map (conformRow t.schema), ?_, ?_⟩
      · show w'.contents t.physicalName = _
        rw [hcontents, Function.update_self, hrows, storedRows_eq hsize]
        rfl
      · show t.rowCount + (l.rows.length : Int) ≤ _
        rw [List.length_append, List.length_map]
        omega
    · exact h.rows_of_longer hlonger hv
  | @created schema w' hl hnone hfree hcatalog hcontents =>
    refine ⟨hconsistent, fun v hv => ?_⟩
    rw [hcatalog] at hv
    rcases List.mem_append.1 hv with hv | hv
    · exact h.rows_of_longer hlonger hv
    · obtain rfl := List.mem_singleton.1 hv
      refine ⟨_, (congrFun hcontents _).trans (Function.update_self _ _ _), ?_⟩
      show (l.rows.length : Int) ≤ _
      rw [List.length_append, storedRows_eq hsize, List.length_map]
      omega

/-- A removal that does not break off keeps the invariant. -/
theorem drop (h : Covered w) (id : String)
    (hheld : ∀ failure, (Action.dropSource id w).1 = .error failure →
      failure.isOfWarehouse = false) : Covered (Action.dropSource id w).2 := by
  have hconsistent : (Action.dropSource id w).2.catalog.Consistent :=
    World.Steps.consistent (Action.dropSource_steps id w) h.consistent
  have hresult := dropSource_result id w
  generalize Action.dropSource id w = result at hconsistent hheld hresult
  cases hresult with
  | refused failure => exact h
  | brokenOff hcatalog hfailure =>
    rw [hheld _ rfl] at hfailure
    cases hfailure
  | @dropped w' hsource hcatalog hcontents =>
    obtain ⟨source, hfound⟩ := Option.isSome_iff_exists.1 hsource
    have htables : w'.catalog.tables = w.catalog.tables.filter (·.sourceId ≠ id) := by
      rw [hcatalog, Catalog.deleteSource, hfound]
    refine ⟨hconsistent, fun t ht => ?_⟩
    obtain ⟨ht, hsourceId⟩ := List.mem_filter.1 (htables ▸ ht)
    -- no two records share a physical table, so none of those that stay has lost its own
    have hkept : t.physicalName ∉ (w.catalog.tablesOf id).map DataTable.physicalName := by
      intro hin
      obtain ⟨u, hu, hsame⟩ := List.mem_map.1 hin
      obtain ⟨hu, hid⟩ := List.mem_filter.1 hu
      rw [h.consistent.physicals u hu t ht hsame] at hid
      exact of_decide_eq_true hsourceId (of_decide_eq_true hid)
    rw [hcontents, Contents.without, if_neg hkept]
    exact h.rows t ht

end Covered

/-- No removal of a data source broke off. -/
def RemovalsHeld (events : List ManagerEvent) : Prop :=
  ∀ e ∈ events, ∀ id, e.call = .drop id → ∀ failure, e.outcome = .error failure →
    failure.isOfWarehouse = false

/-- The invariant holds throughout a run, however many loads failed in it. -/
theorem ManagerRun.covered {s : LoadSettings} (hsize : 0 < s.batchSize) {start w : World}
    {events : List ManagerEvent} (h : ManagerRun s start events w) (hstart : Covered start)
    (hheld : RemovalsHeld events) : Covered w := by
  induction h with
  | start => exact hstart
  | @call events w h c ih =>
    have hbefore := ih fun e he => hheld e (List.mem_append_left _ he)
    cases c with
    | load l => exact hbefore.load hsize l
    | drop id =>
      refine hbefore.drop id fun failure herror => ?_
      have hlast := hheld _ (List.mem_append_right _ (List.mem_singleton_self _))
      exact hlast id rfl failure (map_eq_error.2 herror)
  | aside h htables hissued hcontents ih =>
    have hbefore := ih hheld
    exact hbefore.of_longer (hbefore.consistent.of_subset (fun t ht => htables ▸ ht) hissued)
      htables (.of_contents hcontents)

/-- Before the first table is created there is nothing to count. -/
theorem Covered.of_no_tables {w : World} (h : w.catalog.tables = []) : Covered w := by
  have hnone : ∀ t, t ∉ w.catalog.tables := by
    intro t ht
    rw [h] at ht
    cases ht
  exact ⟨Catalog.consistent_empty.of_subset (fun t ht => absurd ht (hnone t)) (Nat.zero_le _),
    fun t ht => absurd ht (hnone t)⟩

/-- When the insertion after `k` batches of an accepted load fails, the load fails, no record has
changed, and the table holds its rows and behind them those of the `k` batches; an accepted load
fails in no other way.  Hence after any run of loads that may have failed, and of removals that did
not break off, every table has at least as many rows as its record counts. -/
theorem failed_insert_keeps_prefix {s : LoadSettings} (hsize : 0 < s.batchSize) :
    (∀ (l : Load) (w : World) (t : DataTable), w.catalog.table? l.sourceId l.name = some t →
      l.Accepted s t → ∀ k failure w', InsertFailsAfter s t l.rows k w failure w' →
        l.run s w = (.error failure, w') ∧ w'.catalog = w.catalog
          ∧ w'.contents = Function.update w.contents t.physicalName
            ((w.contents t.physicalName).map
              (· ++ (l.rows.take (k * s.batchSize.toNat)).map (conformRow t.schema))))
    ∧ (∀ (l : Load) (w : World) (t : DataTable), w.catalog.Consistent →
      w.catalog.table? l.sourceId l.name = some t → l.Accepted s t →
      ∀ failure w', l.run s w = (.error failure, w') →
        ∃ k, InsertFailsAfter s t l.rows k w failure w')
    ∧ ∀ start events w, ManagerRun s start events w → Covered start → RemovalsHeld events →
      ∀ t ∈ w.catalog.tables, ∃ rows, w.contents t.physicalName = some rows
        ∧ t.rowCount ≤ rows.length := by
  refine ⟨?_, ?_, ?_⟩
  · intro l w t ht haccepted k failure w' hfails
    exact l.broken_off hsize ht haccepted hfails
  · intro l w t hw ht haccepted failure w' hrun
    exact l.fails_on_insert hsize hw ht haccepted hrun
  · intro start events w hrun hstart hheld
    exact (hrun.covered hsize hstart hheld).rows

/-! ## A load that breaks off in its second batch -/

/-- The world with a table of three rows, before a failure of the second statement. -/
def tornStart : World :=
  { wordWorld with warehouse := { wordWorld.warehouse with faultIn := 2 } }

/-- The addition of three words. -/
def tornLoad : Load := .append "s" "a" [wordRow, wordRow, wordRow]

/-- The world after two of the three words were written. -/
def tornWorld : World :=
  (Action.insertBatch "ds_s_a" wordSchema [wordRow]
    (Action.writeBatches "ds_s_a" ["word"] [[wordRow, wordRow]] tornStart).2).2

theorem tornLoad_fails :
    InsertFailsAfter batchesOfTwo wordTable tornLoad.rows 1 tornStart .simulated tornWorld := by
  have hbatches : batches batchesOfTwo.batchSize tornLoad.rows
      = [[wordRow, wordRow], [wordRow]] := by
    unfold batches
    rw [chunks, dif_neg (by decide), chunks_one (by decide) (by decide) (by decide)]
    rfl
  refine ⟨[wordRow], _, by rw [hbatches]; rfl, by rw [hbatches]; rfl, rfl⟩

/-- The load of three rows, and the addition that broke off. -/
def tornEvents : List ManagerEvent :=
  [⟨freshWorld, .load wordLoad, .ok (some wordTable), wordWorld⟩,
    ⟨tornStart, .load tornLoad, .error .simulated, tornWorld⟩]

theorem tornEvents_run (h : tornLoad.run batchesOfTwo tornStart = (.error .simulated, tornWorld)) :
    ManagerRun batchesOfTwo freshWorld tornEvents tornWorld := by
  have hload : (ManagerCall.load wordLoad).run batchesOfTwo freshWorld
      = (.ok (some wordTable), wordWorld) := by
    rw [ManagerCall.run, wordLoad_run]
    rfl
  have htorn : (ManagerCall.load tornLoad).run batchesOfTwo tornStart
      = (.error .simulated, tornWorld) := by
    rw [ManagerCall.run, h]
    rfl
  have hstart : ManagerRun batchesOfTwo freshWorld [] freshWorld := .start
  have hfirst := hstart.call (.load wordLoad)
  rw [hload] at hfirst
  have hbrittle : ManagerRun batchesOfTwo freshWorld _ tornStart :=
    .aside hfirst rfl (Nat.le_refl _) rfl
  have hsecond := hbrittle.call (.load tornLoad)
  rw [htorn] at hsecond
  exact hsecond

/-- The table then has five rows, and its record counts three. -/
theorem tornLoad_keeps_prefix :
    0 < batchesOfTwo.batchSize ∧ tornStart.catalog.table? "s" "a" = some wordTable
      ∧ tornLoad.Accepted batchesOfTwo wordTable
      ∧ InsertFailsAfter batchesOfTwo wordTable tornLoad.rows 1 tornStart .simulated tornWorld
      ∧ tornLoad.run batchesOfTwo tornStart = (.error .simulated, tornWorld)
      ∧ tornWorld.contents "ds_s_a" = some [[("word", .text "x")], [("word", .text "5")],
        [("word", .null)], wordRow, wordRow]
      ∧ ManagerRun batchesOfTwo freshWorld tornEvents tornWorld ∧ RemovalsHeld tornEvents
      ∧ ∃ rows, tornWorld.contents wordTable.physicalName = some rows
        ∧ wordTable.rowCount ≤ rows.length := by
  have hsize : 0 < batchesOfTwo.batchSize := by decide
  have haccepted : tornLoad.Accepted batchesOfTwo wordTable := by
    unfold tornLoad Load.Accepted
    decide
  obtain ⟨hstays, -, hcovered⟩ := failed_insert_keeps_prefix hsize
  obtain ⟨hrun, -, hcontents⟩ :=
    hstays tornLoad tornStart wordTable rfl haccepted 1 _ _ tornLoad_fails
  have hevents := tornEvents_run hrun
  have hheld : RemovalsHeld tornEvents := by
    intro e he id hdrop
    rcases List.mem_pair.1 he with rfl | rfl <;> cases hdrop
  refine ⟨hsize, rfl, haccepted, tornLoad_fails, hrun, ?_, hevents, hheld, ?_⟩
  · rw [hcontents]
    rfl
  · exact hcovered _ _ _ hevents (.of_no_tables rfl) hheld wordTable (List.mem_singleton_self _)

end MetricLayer
