import MetricLayer.Proofs.Service.Frame

/-!
# Loaded rows and row counts

A run of the table manager is a sequence of loads and removals, with whatever else the service does
between them (`ManagerRun`).  `loadedRows` reads off the run which rows a table should hold: those of
the successful loads since its data source was last removed, in the order of the calls.

As long as the warehouse does not fail and no two tables share a physical name, every table holds
exactly these rows and counts them, and a call that fails leaves the world as it was
(`run_rows_counted`).  The invariant is `Counted`; `Counted.load` and `Counted.drop` are its steps.
-/

namespace MetricLayer

/-! ## Runs -/

/-- A call of the table manager. -/
inductive ManagerCall where
  /-- Creates a table or adds rows to one. -/
  | load (l : Load)
  /-- Removes a data source with its tables. -/
  | drop (sourceId : String)

/-- Makes the call: the record of the loaded table, none after a removal. -/
def ManagerCall.run (s : LoadSettings) (call : ManagerCall) (w : World) :
    Outcome (Option DataTable) × World :=
  match call with
  | load l => ((l.run s w).1.map some, (l.run s w).2)
  | drop sourceId =>
    ((Action.dropSource sourceId w).1.map fun _ => none, (Action.dropSource sourceId w).2)

/-- A call with its outcome and the worlds before and after it. -/
structure ManagerEvent where
  /-- The world before the call. -/
  before : World
  /-- The call. -/
  call : ManagerCall
  /-- The outcome of the call. -/
  outcome : Outcome (Option DataTable)
  /-- The world after the call. -/
  after : World

/-- The calls of a run so far, and the world after them.  Between two calls anything may happen that
leaves the tables and their rows alone. -/
inductive ManagerRun (s : LoadSettings) (start : World) : List ManagerEvent → World → Prop
  | start : ManagerRun s start [] start
  | call {events : List ManagerEvent} {w : World} (h : ManagerRun s start events w)
      (c : ManagerCall) :
      ManagerRun s start (events ++ [⟨w, c, (c.run s w).1, (c.run s w).2⟩]) (c.run s w).2
  | aside {events : List ManagerEvent} {w w' : World} (h : ManagerRun s start events w)
      (htables : w'.catalog.tables = w.catalog.tables)
      (hissued : w.catalog.issued ≤ w'.catalog.issued) (hcontents : w'.contents = w.contents) :
      ManagerRun s start events w'

/-- The call can create a table at this place. -/
def ManagerEvent.Creates (e : ManagerEvent) (sourceId name : String) : Prop :=
  ∃ schema rows, e.call = .load (.create sourceId name schema rows)

/-- No two tables that the run can create have one physical name. -/
def DistinctNames (events : List ManagerEvent) : Prop :=
  ∀ e ∈ events, ∀ f ∈ events, ∀ sourceId name sourceId' name', e.Creates sourceId name →
    f.Creates sourceId' name' →
    physicalNameFor sourceId name = physicalNameFor sourceId' name' →
      sourceId = sourceId' ∧ name = name'

/-- No call of the warehouse failed. -/
def WarehouseHeld (events : List ManagerEvent) : Prop :=
  ∀ e ∈ events, ∀ failure, e.outcome = .error failure → failure.isOfWarehouse = false

/-! ## What tables should hold -/

/-- The rows that a table should hold after a call, when it should hold `rows` before it. -/
def ManagerEvent.loaded (sourceId name : String) (rows : List Row) (e : ManagerEvent) : List Row :=
  match e.call, e.outcome with
  | .load l, .ok (some t) =>
    if l.sourceId = sourceId ∧ l.name = name then rows ++ l.rows.map (conformRow t.schema) else rows
  | .drop id, .ok _ => if id = sourceId then [] else rows
  | _, _ => rows

/-- The rows that a table should hold after a run. -/
def loadedRows (sourceId name : String) (events : List ManagerEvent) : List Row :=
  events.foldl (ManagerEvent.loaded sourceId name) []

theorem loadedRows_concat (sourceId name : String) (events : List ManagerEvent)
    (e : ManagerEvent) :
    loadedRows sourceId name (events ++ [e]) = e.loaded sourceId name (loadedRows sourceId name events) := by
  rw [loadedRows, List.foldl_append]
  rfl

/-! ## The invariant -/

/-- The tables hold what was loaded into them and count it, and there are no other physical
tables. -/
structure Counted (events : List ManagerEvent) (w : World) : Prop where
  /-- The catalog keeps its promises. -/
  consistent : w.catalog.Consistent
  /-- Each table was created by a call, under the physical name for its place. -/
  placed : ∀ t ∈ w.catalog.tables, t.physicalName = physicalNameFor t.sourceId t.name
    ∧ ∃ e ∈ events, e.Creates t.sourceId t.name
  /-- Each table holds what was loaded into it. -/
  held : ∀ t ∈ w.catalog.tables,
    w.contents t.physicalName = some (loadedRows t.sourceId t.name events)
  /-- Each table counts what was loaded into it. -/
  counted : ∀ t ∈ w.catalog.tables,
    t.rowCount = (loadedRows t.sourceId t.name events).length
  /-- A physical table without a record does not exist. -/
  absent : ∀ physical, (∀ t ∈ w.catalog.tables, t.physicalName ≠ physical) →
    w.contents physical = none
  /-- Nothing is expected of a table that does not exist. -/
  unborn : ∀ sourceId name, w.catalog.table? sourceId name = none →
    loadedRows sourceId name events = []

namespace Counted

variable {s : LoadSettings} {events : List ManagerEvent} {w w' : World}

/-- A call that loads nothing and changes nothing keeps the invariant. -/
theorem of_same (h : Counted events w) {e : ManagerEvent}
    (he : ∀ sourceId name rows, e.loaded sourceId name rows = rows) :
    Counted (events ++ [e]) w := by
  have hrows : ∀ sourceId name,
      loadedRows sourceId name (events ++ [e]) = loadedRows sourceId name events := by
    intro sourceId name
    rw [loadedRows_concat, he]
  refine ⟨h.consistent, fun t ht => ?_, fun t ht => ?_, fun t ht => ?_, h.absent,
    fun sourceId name hnone => ?_⟩
  · obtain ⟨hname, f, hf, hcreates⟩ := h.placed t ht
    exact ⟨hname, f, List.mem_append_left _ hf, hcreates⟩
  · rw [hrows]
    exact h.held t ht
  · rw [hrows]
    exact h.counted t ht
  · rw [hrows]
    exact h.unborn sourceId name hnone

/-- Whatever leaves the tables and their rows alone keeps the invariant. -/
theorem aside (h : Counted events w) (htables : w'.catalog.tables = w.catalog.tables)
    (hissued : w.catalog.issued ≤ w'.catalog.issued) (hcontents : w'.contents = w.contents) :
    Counted events w' := by
  refine ⟨h.consistent.of_subset (fun t ht => htables ▸ ht) hissued, fun t ht => ?_,
    fun t ht => ?_, fun t ht => ?_, fun physical hfree => ?_, fun sourceId name hnone => ?_⟩
  · exact h.placed t (htables ▸ ht)
  · rw [hcontents]
    exact h.held t (htables ▸ ht)
  · exact h.counted t (htables ▸ ht)
  · rw [hcontents]
    exact h.absent physical (htables ▸ hfree)
  · refine h.unborn sourceId name ?_
    rwa [Catalog.table?, htables] at hnone

/-- Added rows are held and counted. -/
theorem grown (h : Counted events w) (hsize : 0 < s.batchSize) {l : Load} {t : DataTable}
    (ht : w.catalog.table? l.sourceId l.name = some t)
    (hcatalog : w'.catalog = w.catalog.replaceTable (l.grownTable t w.now))
    (hcontents : w'.contents = Function.update w.contents t.physicalName
      ((w.contents t.physicalName).map (· ++ storedRows s t.schema l.rows))) :
    Counted (events ++ [⟨w, .load l, .ok (some (l.grownTable t w.now)), w'⟩]) w' := by
  obtain ⟨hmem, hsource, hname⟩ := Catalog.table?_eq_some ht
  have hsame : (l.grownTable t w.now).SamePlace t := ⟨rfl, rfl, rfl, rfl⟩
  have hrows : ∀ sourceId name, loadedRows sourceId name
      (events ++ [⟨w, .load l, .ok (some (l.grownTable t w.now)), w'⟩])
      = if l.sourceId = sourceId ∧ l.name = name
        then loadedRows sourceId name events ++ l.rows.map (conformRow t.schema)
        else loadedRows sourceId name events :=
    fun sourceId name => loadedRows_concat sourceId name events _
  -- the record of the load has the new rows, every other record is what it was
  have hown : loadedRows t.sourceId t.name
      (events ++ [⟨w, .load l, .ok (some (l.grownTable t w.now)), w'⟩])
      = loadedRows t.sourceId t.name events ++ l.rows.map (conformRow t.schema) := by
    rw [hrows, if_pos ⟨hsource.symm, hname.symm⟩]
  have hothers : ∀ v ∈ w.catalog.tables, v ≠ t → loadedRows v.sourceId v.name
      (events ++ [⟨w, .load l, .ok (some (l.grownTable t w.now)), w'⟩])
      = loadedRows v.sourceId v.name events := by
    intro v hv hne
    rw [hrows, if_neg]
    rintro ⟨hs, hn⟩
    exact hne (h.consistent.places v hv t hmem (hs.symm.trans hsource.symm)
      (hn.symm.trans hname.symm))
  have hnow : ∀ v ∈ w'.catalog.tables, v = l.grownTable t w.now ∨ (v ∈ w.catalog.tables ∧ v ≠ t) :=
    fun v hv => Catalog.mem_replaceTable hsame.id (hcatalog ▸ hv)
  refine ⟨hcatalog ▸ h.consistent.replaceTable hmem hsame, fun v hv => ?_, fun v hv => ?_,
    fun v hv => ?_, fun physical hfree => ?_, fun sourceId name hnone => ?_⟩
  · rcases hnow v hv with rfl | ⟨hv, -⟩
    · obtain ⟨hphysical, e, he, hcreates⟩ := h.placed t hmem
      exact ⟨hphysical, e, List.mem_append_left _ he, hcreates⟩
    · obtain ⟨hphysical, e, he, hcreates⟩ := h.placed v hv
      exact ⟨hphysical, e, List.mem_append_left _ he, hcreates⟩
  · rcases hnow v hv with rfl | ⟨hv, hne⟩
    · show w'.contents t.physicalName = some (loadedRows t.sourceId t.name _)
      rw [hown, hcontents, Function.update_self, h.held t hmem, storedRows_eq hsize]
      rfl
    · have hphysical : v.physicalName ≠ t.physicalName :=
        fun heq => hne (h.consistent.physicals v hv t hmem heq)
      rw [hothers v hv hne, hcontents, Function.update_of_ne hphysical]
      exact h.held v hv
  · rcases hnow v hv with rfl | ⟨hv, hne⟩
    · show t.rowCount + (l.rows.length : Int) = (loadedRows t.sourceId t.name _).length
      rw [hown, h.counted t hmem, List.length_append, List.length_map]
      rfl
    · rw [hothers v hv hne]
      exact h.counted v hv
  · have hold : ∀ v ∈ w.catalog.tables, v.physicalName ≠ physical := by
      intro v hv heq
      obtain ⟨v', hv', hplace⟩ := h.consistent.exists_replaced hmem hsame hv
      exact hfree v' (hcatalog ▸ hv') (hplace.physicalName.trans heq)
    rw [hcontents, Function.update_of_ne (hold t hmem).symm]
    exact h.absent physical hold
  · have hold : ∀ v ∈ w.catalog.tables, ¬(v.sourceId = sourceId ∧ v.name = name) := by
      intro v hv heq
      obtain ⟨v', hv', hplace⟩ := h.consistent.exists_replaced hmem hsame hv
      exact Catalog.table?_eq_none.1 hnone v' (hcatalog ▸ hv')
        ⟨hplace.sourceId.trans heq.1, hplace.name.trans heq.2⟩
    rw [hrows, if_neg fun heq => hold t hmem ⟨hsource.trans heq.1, hname.trans heq.2⟩]
    exact h.unborn sourceId name (Catalog.table?_eq_none.2 hold)

/-- The rows of a new table are held and counted. -/
theorem created (h : Counted events w) (hsize : 0 < s.batchSize) {l : Load} {schema : Schema}
    (hl : l = .create l.sourceId l.name schema l.rows)
    (hnone : w.catalog.table? l.sourceId l.name = none)
    (hfree : ∀ t ∈ w.catalog.tables, t.physicalName ≠ physicalNameFor l.sourceId l.name)
    (hcatalog : w'.catalog = { w.catalog.issue with
      tables := w.catalog.tables ++ [l.newTable w.catalog w.now schema] })
    (hcontents : w'.contents = Function.update w.contents (physicalNameFor l.sourceId l.name)
      (some ((w.contents (physicalNameFor l.sourceId l.name)).getD []
        ++ storedRows s schema l.rows))) :
    Counted (events ++ [⟨w, .load l, .ok (some (l.newTable w.catalog w.now schema)), w'⟩]) w' := by
  have hplaces := Catalog.table?_eq_none.1 hnone
  have hrows : ∀ sourceId name, loadedRows sourceId name
      (events ++ [⟨w, .load l, .ok (some (l.newTable w.catalog w.now schema)), w'⟩])
      = if l.sourceId = sourceId ∧ l.name = name
        then loadedRows sourceId name events ++ l.rows.map (conformRow schema)
        else loadedRows sourceId name events :=
    fun sourceId name => loadedRows_concat sourceId name events _
  have hown : loadedRows l.sourceId l.name
      (events ++ [⟨w, .load l, .ok (some (l.newTable w.catalog w.now schema)), w'⟩])
      = l.rows.map (conformRow schema) := by
    rw [hrows, if_pos ⟨rfl, rfl⟩, h.unborn _ _ hnone, List.nil_append]
  have hothers : ∀ v ∈ w.catalog.tables, loadedRows v.sourceId v.name
      (events ++ [⟨w, .load l, .ok (some (l.newTable w.catalog w.now schema)), w'⟩])
      = loadedRows v.sourceId v.name events := by
    intro v hv
    rw [hrows, if_neg fun heq => hplaces v hv ⟨heq.1.symm, heq.2.symm⟩]
  have hmem : ∀ v ∈ w'.catalog.tables,
      v = l.newTable w.catalog w.now schema ∨ v ∈ w.catalog.tables := by
    intro v hv
    rw [hcatalog] at hv
    rcases List.mem_append.1 hv with hv | hv
    · exact .inr hv
    · exact .inl (List.mem_singleton.1 hv)
  have hnew : l.newTable w.catalog w.now schema ∈ w'.catalog.tables := by
    rw [hcatalog]
    exact List.mem_append_right _ (List.mem_singleton_self _)
  have hold : ∀ v ∈ w.catalog.tables, v ∈ w'.catalog.tables := by
    intro v hv
    rw [hcatalog]
    exact List.mem_append_left _ hv
  refine ⟨hcatalog ▸ h.consistent.concat rfl hplaces hfree, fun v hv => ?_, fun v hv => ?_,
    fun v hv => ?_, fun physical hother => ?_, fun sourceId name hgone => ?_⟩
  · rcases hmem v hv with rfl | hv
    · exact ⟨rfl, _, List.mem_append_right _ (List.mem_singleton_self _), schema, l.rows,
        congrArg ManagerCall.load hl⟩
    · obtain ⟨hphysical, e, he, hcreates⟩ := h.placed v hv
      exact ⟨hphysical, e, List.mem_append_left _ he, hcreates⟩
  · rcases hmem v hv with rfl | hv
    · show w'.contents (physicalNameFor l.sourceId l.name) = some (loadedRows l.sourceId l.name _)
      rw [hown, hcontents, Function.update_self, h.absent _ hfree, storedRows_eq hsize]
      rfl
    · rw [hothers v hv, hcontents, Function.update_of_ne (hfree v hv)]
      exact h.held v hv
  · rcases hmem v hv with rfl | hv
    · show (l.rows.length : Int) = (loadedRows l.sourceId l.name _).length
      rw [hown, List.length_map]
    · rw [hothers v hv]
      exact h.counted v hv
  · have hne : physical ≠ physicalNameFor l.sourceId l.name := fun heq => hother _ hnew heq.symm
    rw [hcontents, Function.update_of_ne hne]
    exact h.absent physical fun v hv => hother v (hold v hv)
  · have hgone' := Catalog.table?_eq_none.1 hgone
    have hother : ¬(l.sourceId = sourceId ∧ l.name = name) := hgone' _ hnew
    rw [hrows, if_neg hother]
    exact h.unborn sourceId name (Catalog.table?_eq_none.2 fun v hv => hgone' v (hold v hv))

/-- The tables of a removed source are gone, the others are what they were. -/
theorem dropped (h : Counted events w) {id : String} (hsource : (w.catalog.source? id).isSome)
    (hcatalog : w'.catalog = (w.catalog.deleteSource id).2)
    (hcontents : w'.contents = w.contents.without (w.catalog.tablesOf id)) :
    Counted (events ++ [⟨w, .drop id, .ok none, w'⟩]) w' := by
  obtain ⟨source, hfound⟩ := Option.isSome_iff_exists.1 hsource
  have htables : w'.catalog.tables = w.catalog.tables.filter (·.sourceId ≠ id) := by
    rw [hcatalog, Catalog.deleteSource, hfound]
  have hissued : w'.catalog.issued = w.catalog.issued := by
    rw [hcatalog, Catalog.deleteSource, hfound]
  have hmem : ∀ v, v ∈ w'.catalog.tables ↔ v ∈ w.catalog.tables ∧ v.sourceId ≠ id := by
    intro v
    rw [htables, List.mem_filter, decide_eq_true_eq]
  have hrows : ∀ sourceId name, loadedRows sourceId name
      (events ++ [⟨w, .drop id, .ok none, w'⟩])
      = if id = sourceId then [] else loadedRows sourceId name events :=
    fun sourceId name => loadedRows_concat sourceId name events _
  have hothers : ∀ v ∈ w'.catalog.tables, loadedRows v.sourceId v.name
      (events ++ [⟨w, .drop id, .ok none, w'⟩]) = loadedRows v.sourceId v.name events := by
    intro v hv
    rw [hrows, if_neg fun heq => ((hmem v).1 hv).2 heq.symm]
  refine ⟨h.consistent.of_subset (fun v hv => ((hmem v).1 hv).1) hissued.ge, fun v hv => ?_,
    fun v hv => ?_, fun v hv => ?_, fun physical hfree => ?_, fun sourceId name hgone => ?_⟩
  · obtain ⟨hphysical, e, he, hcreates⟩ := h.placed v ((hmem v).1 hv).1
    exact ⟨hphysical, e, List.mem_append_left _ he, hcreates⟩
  · obtain ⟨hold, hne⟩ := (hmem v).1 hv
    have hkept : v.physicalName ∉ (w.catalog.tablesOf id).map DataTable.physicalName := by
      intro hin
      obtain ⟨u, hu, heq⟩ := List.mem_map.1 hin
      obtain ⟨hu, hid⟩ := List.mem_filter.1 hu
      rw [h.consistent.physicals u hu v hold heq] at hid
      exact hne (of_decide_eq_true hid)
    rw [hothers v hv, hcontents, Contents.without, if_neg hkept]
    exact h.held v hold
  · rw [hothers v hv]
    exact h.counted v ((hmem v).1 hv).1
  · rw [hcontents, Contents.without]
    split
    · rfl
    · next hkept =>
      refine h.absent physical fun v hv heq => ?_
      by_cases hid : v.sourceId = id
      · refine hkept (List.mem_map.2 ⟨v, List.mem_filter.2 ⟨hv, decide_eq_true hid⟩, heq⟩)
      · exact hfree v ((hmem v).2 ⟨hv, hid⟩) heq
  · rw [hrows]
    split
    · rfl
    · next hne =>
      refine h.unborn sourceId name (Catalog.table?_eq_none.2 fun v hv heq => ?_)
      have hid : v.sourceId ≠ id := fun hid => hne (hid.symm.trans heq.1)
      exact Catalog.table?_eq_none.1 hgone v ((hmem v).2 ⟨hv, hid⟩) heq

/-- A load keeps the invariant, and when it fails it has done nothing. -/
theorem load (h : Counted events w) (hsize : 0 < s.batchSize) (l : Load)
    {result : Outcome DataTable × World} (hresult : l.Result s w result)
    (hnames : DistinctNames (events ++ [⟨w, .load l, result.1.map some, result.2⟩]))
    (hstore : ∀ failure, result.1 = .error failure → failure.isOfWarehouse = false) :
    Counted (events ++ [⟨w, .load l, result.1.map some, result.2⟩]) result.2
      ∧ ∀ failure, result.1 = .error failure → result.2 = w := by
  cases hresult with
  | refused failure => exact ⟨h.of_same fun _ _ _ => rfl, fun _ _ => rfl⟩
  | @nothing t ht hrows =>
    refine ⟨h.of_same fun sourceId name rows => ?_, fun _ herror => by cases herror⟩
    show (if _ then rows ++ l.rows.map (conformRow t.schema) else rows) = rows
    rw [hrows, List.map_nil, List.append_nil, ite_self]
  | brokenOff _ _ hfailure =>
    rw [hstore _ rfl] at hfailure
    cases hfailure
  | grown ht hcatalog hcontents =>
    exact ⟨h.grown hsize ht hcatalog hcontents, fun _ herror => by cases herror⟩
  | stillborn _ _ _ hfailure =>
    rw [hstore _ rfl] at hfailure
    cases hfailure
  | collided hl hnone htaken =>
    -- the other table was created under the same physical name
    obtain ⟨t, ht, hphysical⟩ := htaken
    obtain ⟨hname, e, he, hcreates⟩ := h.placed t ht
    have hplace := hnames e (List.mem_append_left _ he) _
      (List.mem_append_right _ (List.mem_singleton_self _)) _ _ _ _ hcreates
      ⟨_, _, congrArg ManagerCall.load hl⟩ (hname.symm.trans hphysical)
    exact absurd hplace (Catalog.table?_eq_none.1 hnone t ht)
  | created hl hnone hfree hcatalog hcontents =>
    exact ⟨h.created hsize hl hnone hfree hcatalog hcontents, fun _ herror => by cases herror⟩

/-- A removal keeps the invariant, and when it fails it has done nothing. -/
theorem drop (h : Counted events w) (id : String) {result : Outcome Unit × World}
    (hresult : DropResult id w result)
    (hstore : ∀ failure, result.1 = .error failure → failure.isOfWarehouse = false) :
    Counted (events ++ [⟨w, .drop id, result.1.map fun _ => none, result.2⟩]) result.2
      ∧ ∀ failure, result.1 = .error failure → result.2 = w := by
  cases hresult with
  | refused failure => exact ⟨h.of_same fun _ _ _ => rfl, fun _ _ => rfl⟩
  | brokenOff _ hfailure =>
    rw [hstore _ rfl] at hfailure
    cases hfailure
  | dropped hsource hcatalog hcontents =>
    exact ⟨h.dropped hsource hcatalog hcontents, fun _ herror => by cases herror⟩

/-- A call keeps the invariant, and when it fails it has done nothing. -/
theorem call (h : Counted events w) (hsize : 0 < s.batchSize) (c : ManagerCall)
    (hnames : DistinctNames (events ++ [⟨w, c, (c.run s w).1, (c.run s w).2⟩]))
    (hstore : WarehouseHeld (events ++ [⟨w, c, (c.run s w).1, (c.run s w).2⟩])) :
    Counted (events ++ [⟨w, c, (c.run s w).1, (c.run s w).2⟩]) (c.run s w).2
      ∧ ∀ failure, (c.run s w).1 = .error failure → (c.run s w).2 = w := by
  have hlast := hstore _ (List.mem_append_right _ (List.mem_singleton_self _))
  cases c with
  | load l =>
    obtain ⟨hcounted, hsame⟩ := h.load hsize l (l.run_result s h.consistent) hnames
      fun failure herror => hlast failure (map_eq_error.2 herror)
    exact ⟨hcounted, fun failure herror => hsame failure (map_eq_error.1 herror)⟩
  | drop id =>
    obtain ⟨hcounted, hsame⟩ := h.drop id (dropSource_result id w)
      fun failure herror => hlast failure (map_eq_error.2 herror)
    exact ⟨hcounted, fun failure herror => hsame failure (map_eq_error.1 herror)⟩

/-- Before the first call there are no tables. -/
theorem start (htables : w.catalog.tables = []) (hclean : ∀ physical, w.contents physical = none) :
    Counted [] w := by
  have hnone : ∀ t, t ∉ w.catalog.tables := by
    intro t ht
    rw [htables] at ht
    cases ht
  exact ⟨⟨fun t ht => absurd ht (hnone t), fun t ht => absurd ht (hnone t),
    fun t ht => absurd ht (hnone t), fun t ht => absurd ht (hnone t)⟩,
    fun t ht => absurd ht (hnone t), fun t ht => absurd ht (hnone t),
    fun t ht => absurd ht (hnone t), fun physical _ => hclean physical, fun _ _ _ => rfl⟩

end Counted

/-- The invariant holds throughout a run, and a call that fails has done nothing. -/
theorem ManagerRun.counted {s : LoadSettings} (hsize : 0 < s.batchSize) {start w : World}
    {events : List ManagerEvent} (htables : start.catalog.tables = [])
    (hclean : ∀ physical, start.contents physical = none) (h : ManagerRun s start events w)
    (hnames : DistinctNames events) (hstore : WarehouseHeld events) :
    Counted events w
      ∧ ∀ e ∈ events, ∀ failure, e.outcome = .error failure → e.after = e.before := by
  induction h with
  | start => exact ⟨.start htables hclean, by simp⟩
  | call h c ih =>
    obtain ⟨hcounted, hsame⟩ := ih
      (fun e he f hf => hnames e (List.mem_append_left _ he) f (List.mem_append_left _ hf))
      (fun e he => hstore e (List.mem_append_left _ he))
    obtain ⟨hcounted, hlast⟩ := hcounted.call hsize c hnames hstore
    refine ⟨hcounted, fun e he => ?_⟩
    rcases List.mem_append.1 he with he | he
    · exact hsame e he
    · rw [List.mem_singleton.1 he]
      exact hlast
  | aside h htables hissued hcontents ih =>
    obtain ⟨hcounted, hsame⟩ := ih hnames hstore
    exact ⟨hcounted.aside htables hissued hcontents, hsame⟩

/-- After any run in which the warehouse held, a table holds exactly the rows of the successful loads
in the order of the calls, its row count is their number, and calls that failed did nothing. -/
theorem run_rows_counted {s : LoadSettings} (hsize : 0 < s.batchSize) {start w : World}
    {events : List ManagerEvent} (htables : start.catalog.tables = [])
    (hclean : ∀ physical, start.contents physical = none) (h : ManagerRun s start events w)
    (hnames : DistinctNames events) (hstore : WarehouseHeld events) :
    (∀ t ∈ w.catalog.tables,
      w.contents t.physicalName = some (loadedRows t.sourceId t.name events)
        ∧ t.rowCount = (loadedRows t.sourceId t.name events).length)
    ∧ ∀ e ∈ events, ∀ failure, e.outcome = .error failure →
      e.after.contents = e.before.contents ∧ e.after.catalog = e.before.catalog := by
  obtain ⟨hcounted, hsame⟩ := h.counted hsize htables hclean hnames hstore
  refine ⟨fun t ht => ⟨hcounted.held t ht, hcounted.counted t ht⟩, fun e he failure herror => ?_⟩
  rw [hsame e he failure herror]
  exact ⟨rfl, rfl⟩

/-! ## A run with batches of two -/

/-- A text, a number that is stored as a text, and a row without a word. -/
def threeRows : List Row := [[("word", .text "x")], [("word", .int 5)], []]

/-- Batches of two rows. -/
def batchesOfTwo : LoadSettings := ⟨2, .permissive⟩

/-- The load of three rows into the new table `a`. -/
def wordLoad : Load := .create "s" "a" wordSchema threeRows

/-- The world after the load. -/
def wordWorld : World :=
  (Action.onCatalog (fun c now => c.putTable now "s" "a" "ds_s_a" wordSchema 3)
    (Action.writeBatches "ds_s_a" ["word"]
      [[[("word", .text "x")], [("word", .text "5")]], [[("word", .null)]]]
      (Action.onWarehouse (fun w => w.apply (.create "ds_s_a" wordSchema.columns []))
        freshWorld).2).2).2

/-- The record of the table `a`. -/
def wordTable : DataTable :=
  ⟨recordId 1, "s", "a", "ds_s_a", wordSchema, 3, default, default⟩

theorem wordLoad_run : wordLoad.run batchesOfTwo freshWorld = (.ok wordTable, wordWorld) := by
  have hbatches : chunks 2 threeRows = [threeRows.take 2, threeRows.drop 2] := by
    rw [chunks, dif_neg (by decide), chunks_one (by decide) (by decide) (by decide)]
  refine (createTable_eq_loadNew rfl (by decide)).trans ?_
  unfold Action.loadNew Action.writeRows batches
  rw [show batchesOfTwo.batchSize.toNat = 2 from rfl, hbatches]
  rfl

/-- The addition of rows to a table that does not exist. -/
def strayLoad : Load := .append "s" "b" threeRows

theorem strayLoad_run :
    strayLoad.run batchesOfTwo wordWorld = (.error (.tableNotFound "b" "s"), wordWorld) :=
  Action.bind_of_error (Action.findTable_none rfl)

/-- A load that succeeds and one that fails. -/
def wordEvents : List ManagerEvent :=
  [⟨freshWorld, .load wordLoad, .ok (some wordTable), wordWorld⟩,
    ⟨wordWorld, .load strayLoad, .error (.tableNotFound "b" "s"), wordWorld⟩]

theorem wordEvents_run : ManagerRun batchesOfTwo freshWorld wordEvents wordWorld := by
  have hstart : ManagerRun batchesOfTwo freshWorld [] freshWorld := .start
  have hload : (ManagerCall.load wordLoad).run batchesOfTwo freshWorld
      = (.ok (some wordTable), wordWorld) := by
    rw [ManagerCall.run, wordLoad_run]
    rfl
  have hstray : (ManagerCall.load strayLoad).run batchesOfTwo wordWorld
      = (.error (.tableNotFound "b" "s"), wordWorld) := by
    rw [ManagerCall.run, strayLoad_run]
    rfl
  have hfirst := hstart.call (.load wordLoad)
  rw [hload] at hfirst
  have hsecond := hfirst.call (.load strayLoad)
  rw [hstray] at hsecond
  exact hsecond

theorem wordEvents_counted :
    0 < batchesOfTwo.batchSize ∧ freshWorld.catalog.tables = []
      ∧ (∀ physical, freshWorld.contents physical = none)
      ∧ ManagerRun batchesOfTwo freshWorld wordEvents wordWorld
      ∧ DistinctNames wordEvents ∧ WarehouseHeld wordEvents
      ∧ wordWorld.contents "ds_s_a" = some (loadedRows "s" "a" wordEvents)
      ∧ loadedRows "s" "a" wordEvents
        = [[("word", .text "x")], [("word", .text "5")], [("word", .null)]] := by
  have hnames : DistinctNames wordEvents := by
    have hcreates : ∀ e ∈ wordEvents, ∀ sourceId name, e.Creates sourceId name →
        sourceId = "s" ∧ name = "a" := by
      intro e he sourceId name hcreates
      obtain ⟨schema, rows, hcall⟩ := hcreates
      rcases List.mem_pair.1 he with rfl | rfl
      · cases hcall
        exact ⟨rfl, rfl⟩
      · cases hcall
    intro e he f hf sourceId name sourceId' name' hone hother _
    obtain ⟨rfl, rfl⟩ := hcreates e he _ _ hone
    obtain ⟨rfl, rfl⟩ := hcreates f hf _ _ hother
    exact ⟨rfl, rfl⟩
  have hstore : WarehouseHeld wordEvents := by
    intro e he failure herror
    rcases List.mem_pair.1 he with rfl | rfl
    · cases herror
    · cases herror
      rfl
  have hheld := (run_rows_counted (by decide) rfl (fun _ => rfl) wordEvents_run hnames hstore).1
    wordTable (List.mem_singleton_self _)
  refine ⟨by decide, rfl, fun _ => rfl, wordEvents_run, hnames, hstore, hheld.1, ?_⟩
  rfl

end MetricLayer
