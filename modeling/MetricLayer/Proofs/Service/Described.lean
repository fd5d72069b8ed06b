import MetricLayer.Proofs.Service.Counts
import MetricLayer.Proofs.Service.Layout

/-!
# Records and the columns of their tables

The record of a table has the columns that its physical table was created with, unless a call failed
on the way.  The physical table is created before the rows are written and the record comes last, so
a creation that fails on its rows leaves a physical table without a record; the next creation at
that place does not look at it and records its own columns.  And the tables of a source are dropped
one by one before the records go, so a removal that fails leaves records of tables that are gone.

Nothing else can happen, whichever statements fail in whichever calls (`run_tables_described`).  The
invariant of the runs is `Described`; it has a lemma for each thing that a call can do to the
records and to the physical tables.
-/

namespace MetricLayer

/-! ## Runs -/

/-- The calls of the table manager so far, and the world after them; any statement may have failed
in any of them.  Between two calls anything may happen that leaves the records and the physical
tables alone. -/
inductive TableRun (s : LoadSettings) (start : World) : List ManagerEvent → World → Prop
  | start : TableRun s start [] start
  | call {events : List ManagerEvent} {w : World} (h : TableRun s start events w)
      (c : ManagerCall) :
      TableRun s start (events ++ [⟨w, c, (c.run s w).1, (c.run s w).2⟩]) (c.run s w).2
  | aside {events : List ManagerEvent} {w w' : World} (h : TableRun s start events w)
      (htables : w'.catalog.tables = w.catalog.tables)
      (hissued : w.catalog.issued ≤ w'.catalog.issued) (hlayouts : w'.layouts = w.layouts) :
      TableRun s start events w'

namespace ManagerEvent

/-- The call failed. -/
def Failed (e : ManagerEvent) : Prop := ∃ failure, e.outcome = .error failure

/-- The call creates a table under this physical name and with these columns; it failed and left
the physical table behind, which was not there before. -/
structure LeavesTable (e : ManagerEvent) (physical : String) (columns : List Column) : Prop where
  failed : e.Failed
  created : ∃ sourceId name schema rows, e.call = .load (.create sourceId name schema rows)
    ∧ physicalNameFor sourceId name = physical ∧ schema.columns = columns
  before : e.before.layouts physical = none
  after : e.after.layouts physical = some columns

/-- The call removes the source of the table; it failed after the physical table was dropped. -/
structure LosesTable (e : ManagerEvent) (t : DataTable) : Prop where
  failed : e.Failed
  removed : e.call = .drop t.sourceId
  before : (e.before.layouts t.physicalName).isSome
  after : e.after.layouts t.physicalName = none

end ManagerEvent

/-! ## The invariant -/

/-- The record has the columns of its physical table, or a call that failed has left that table
behind or has lost it. -/
def DataTable.Described (t : DataTable) (events : List ManagerEvent) (w : World) : Prop :=
  w.layouts t.physicalName = some t.schema.columns
  ∨ (∃ e ∈ events, ∃ columns, e.LeavesTable t.physicalName columns
    ∧ w.layouts t.physicalName = some columns)
  ∨ (w.layouts t.physicalName = none ∧ ∃ e ∈ events, e.LosesTable t)

/-- What a run says about the records and the physical tables after it. -/
structure Described (events : List ManagerEvent) (w : World) : Prop where
  /-- The catalog keeps its promises. -/
  consistent : w.catalog.Consistent
  /-- Each table has the physical name for its place. -/
  placed : ∀ t ∈ w.catalog.tables, t.physicalName = physicalNameFor t.sourceId t.name
  /-- Each physical table has a record or was left behind. -/
  known : ∀ physical columns, w.layouts physical = some columns →
    (∃ t ∈ w.catalog.tables, t.physicalName = physical)
    ∨ ∃ e ∈ events, e.LeavesTable physical columns
  /-- Each record has the columns of its physical table unless a call failed. -/
  described : ∀ t ∈ w.catalog.tables, t.Described events w

theorem DataTable.Described.mono {t : DataTable} {events events' : List ManagerEvent} {w w' : World}
    (h : t.Described events w) (hevents : ∀ e ∈ events, e ∈ events')
    (hlayout : w'.layouts t.physicalName = w.layouts t.physicalName) : t.Described events' w' := by
  unfold DataTable.Described
  rw [hlayout]
  rcases h with h | ⟨e, he, h⟩ | ⟨hnone, e, he, h⟩
  · exact .inl h
  · exact .inr (.inl ⟨e, hevents e he, h⟩)
  · exact .inr (.inr ⟨hnone, e, hevents e he, h⟩)

/-- The record of the same table with the same schema is described as well. -/
theorem DataTable.Described.of_samePlace {t u : DataTable} {events : List ManagerEvent} {w : World}
    (h : t.Described events w) (hsame : u.SamePlace t) (hschema : u.schema = t.schema) :
    u.Described events w := by
  unfold DataTable.Described
  rw [hsame.physicalName, hschema]
  refine h.imp_right (.imp_right (.imp_right ?_))
  rintro ⟨e, he, hlost⟩
  exact ⟨e, he, hlost.failed, hsame.sourceId ▸ hlost.removed, hsame.physicalName ▸ hlost.before,
    hsame.physicalName ▸ hlost.after⟩

namespace Described

variable {s : LoadSettings} {events : List ManagerEvent} {w w' : World}

theorem mem_concat (e : ManagerEvent) : ∀ f ∈ events, f ∈ events ++ [e] :=
  fun _ hf => List.mem_append_left _ hf

/-- A physical table without a record was left behind, also after more calls. -/
theorem known_mono (h : Described events w) {events' : List ManagerEvent}
    (hevents : ∀ e ∈ events, e ∈ events') {physical : String} {columns : List Column}
    (hlaid : w.layouts physical = some columns) :
    (∃ t ∈ w.catalog.tables, t.physicalName = physical)
    ∨ ∃ e ∈ events', e.LeavesTable physical columns := by
  rcases h.known physical columns hlaid with hrecord | ⟨e, he, hleft⟩
  · exact .inl hrecord
  · exact .inr ⟨e, hevents e he, hleft⟩

/-- Whatever leaves the records and the physical tables alone keeps the invariant. -/
theorem aside (h : Described events w) {events' : List ManagerEvent}
    (hevents : ∀ e ∈ events, e ∈ events') (htables : w'.catalog.tables = w.catalog.tables)
    (hissued : w.catalog.issued ≤ w'.catalog.issued) (hlayouts : w'.layouts = w.layouts) :
    Described events' w' := by
  refine ⟨h.consistent.of_subset (fun t ht => htables ▸ ht) hissued,
    fun t ht => h.placed t (htables ▸ ht), fun physical columns hlaid => ?_, fun t ht => ?_⟩
  · rw [htables]
    exact h.known_mono hevents (hlayouts ▸ hlaid)
  · exact (h.described t (htables ▸ ht)).mono hevents (congrFun hlayouts _)

/-- A record that is replaced by one of the same table with the same schema keeps the invariant. -/
theorem replaced (h : Described events w) {events' : List ManagerEvent}
    (hevents : ∀ e ∈ events, e ∈ events') {t u : DataTable} (ht : t ∈ w.catalog.tables)
    (hsame : u.SamePlace t) (hschema : u.schema = t.schema)
    (hcatalog : w'.catalog = w.catalog.replaceTable u) (hlayouts : w'.layouts = w.layouts) :
    Described events' w' := by
  have hnow : ∀ v ∈ w'.catalog.tables, v = u ∨ v ∈ w.catalog.tables :=
    fun v hv => (Catalog.mem_replaceTable hsame.id (hcatalog ▸ hv)).imp_right And.left
  refine ⟨hcatalog ▸ h.consistent.replaceTable ht hsame, fun v hv => ?_,
    fun physical columns hlaid => ?_, fun v hv => ?_⟩
  · rcases hnow v hv with rfl | hv
    · rw [hsame.physicalName, hsame.sourceId, hsame.name]
      exact h.placed t ht
    · exact h.placed v hv
  · rw [hlayouts] at hlaid
    rcases h.known_mono hevents hlaid with ⟨v, hv, hname⟩ | hleft
    · obtain ⟨v', hv', hplace⟩ := h.consistent.exists_replaced ht hsame hv
      exact .inl ⟨v', hcatalog ▸ hv', hplace.physicalName.trans hname⟩
    · exact .inr hleft
  · rcases hnow v hv with rfl | hv
    · exact ((h.described t ht).of_samePlace hsame hschema).mono hevents (congrFun hlayouts _)
    · exact (h.described v hv).mono hevents (congrFun hlayouts _)

/-- A creation that fails leaves its physical table behind, unless that was there before. -/
theorem leftBehind (h : Described events w) {l : Load} {schema : Schema}
    (hl : l = .create l.sourceId l.name schema l.rows) {failure : Failure}
    (htables : w'.catalog.tables = w.catalog.tables)
    (hissued : w.catalog.issued ≤ w'.catalog.issued)
    (hlayouts : w'.layouts = (l.creation schema).layouts w.layouts) :
    Described (events ++ [⟨w, .load l, .error failure, w'⟩]) w' := by
  generalize he : (⟨w, .load l, .error failure, w'⟩ : ManagerEvent) = e
  cases hbefore : w.layouts (physicalNameFor l.sourceId l.name) with
  | some columns =>
    rw [Load.creation, Change.layouts_create_of_some _ hbefore] at hlayouts
    exact h.aside (mem_concat e) htables hissued hlayouts
  | none =>
    rw [Load.creation, Change.layouts_create_of_none _ _ hbefore] at hlayouts
    have hafter : w'.layouts (physicalNameFor l.sourceId l.name) = some schema.columns := by
      rw [hlayouts, Function.update_self]
    have hleft : e.LeavesTable (physicalNameFor l.sourceId l.name) schema.columns := by
      subst he
      exact ⟨⟨failure, rfl⟩, ⟨_, _, schema, _, congrArg ManagerCall.load hl, rfl, rfl⟩, hbefore,
        hafter⟩
    have hlast : e ∈ events ++ [e] := List.mem_append_right _ (List.mem_singleton_self e)
    refine ⟨h.consistent.of_subset (fun t ht => htables ▸ ht) hissued,
      fun t ht => h.placed t (htables ▸ ht), fun physical columns hlaid => ?_, fun t ht => ?_⟩
    · by_cases hown : physical = physicalNameFor l.sourceId l.name
      · rw [hown, hafter, Option.some.injEq] at hlaid
        exact .inr ⟨e, hlast, hown ▸ hlaid ▸ hleft⟩
      · rw [hlayouts, Function.update_of_ne hown] at hlaid
        rw [htables]
        exact h.known_mono (mem_concat e) hlaid
    · by_cases hown : t.physicalName = physicalNameFor l.sourceId l.name
      · exact .inr (.inl ⟨e, hlast, schema.columns, hown ▸ hleft, hown ▸ hafter⟩)
      · refine (h.described t (htables ▸ ht)).mono (mem_concat e) ?_
        rw [hlayouts, Function.update_of_ne hown]

/-- A new record has the columns of its physical table, unless that was left behind. -/
theorem created (h : Described events w) {e : ManagerEvent} {l : Load} {schema : Schema}
    (hnone : w.catalog.table? l.sourceId l.name = none)
    (hfree : ∀ t ∈ w.catalog.tables, t.physicalName ≠ physicalNameFor l.sourceId l.name)
    (hcatalog : w'.catalog = { w.catalog.issue with
      tables := w.catalog.tables ++ [l.newTable w.catalog w.now schema] })
    (hlayouts : w'.layouts = (l.creation schema).layouts w.layouts) :
    Described (events ++ [e]) w' := by
  have hmem : ∀ v, v ∈ w'.catalog.tables
      ↔ v ∈ w.catalog.tables ∨ v = l.newTable w.catalog w.now schema := by
    intro v
    rw [hcatalog, List.mem_append, List.mem_singleton]
  have hothers : ∀ physical, physical ≠ physicalNameFor l.sourceId l.name →
      w'.layouts physical = w.layouts physical := by
    intro physical hne
    rw [hlayouts]
    exact Function.update_of_ne hne _ _
  refine ⟨hcatalog ▸ h.consistent.concat rfl (Catalog.table?_eq_none.1 hnone) hfree, fun v hv => ?_,
    fun physical columns hlaid => ?_, fun v hv => ?_⟩
  · rcases (hmem v).1 hv with hv | rfl
    · exact h.placed v hv
    · rfl
  · by_cases hown : physical = physicalNameFor l.sourceId l.name
    · exact .inl ⟨_, (hmem _).2 (.inr rfl), hown.symm⟩
    · rw [hothers physical hown] at hlaid
      rcases h.known_mono (mem_concat e) hlaid with ⟨v, hv, hname⟩ | hleft
      · exact .inl ⟨v, (hmem v).2 (.inl hv), hname⟩
      · exact .inr hleft
  · rcases (hmem v).1 hv with hv | rfl
    · exact (h.described v hv).mono (mem_concat e) (hothers _ (hfree v hv))
    · cases hbefore : w.layouts (physicalNameFor l.sourceId l.name) with
      | none =>
        rw [Load.creation, Change.layouts_create_of_none _ _ hbefore] at hlayouts
        exact .inl (hlayouts ▸ Function.update_self _ _ _)
      | some columns =>
        rw [Load.creation, Change.layouts_create_of_some _ hbefore] at hlayouts
        -- no record stands for the physical table, so a call that failed left it behind
        rcases h.known _ columns hbefore with ⟨t, ht, hname⟩ | ⟨f, hf, hleft⟩
        · exact absurd hname (hfree t ht)
        · exact .inr (.inl ⟨f, mem_concat e f hf, columns, hleft, hlayouts ▸ hbefore⟩)

/-- A load keeps the invariant. -/
theorem load (h : Described events w) (l : Load) {result : Outcome DataTable × World}
    (hresult : l.Result s w result) (hlays : l.Lays w result) :
    Described (events ++ [⟨w, .load l, result.1.map some, result.2⟩]) result.2 := by
  cases hlays with
  | nothing hreason hlayouts =>
    cases hresult with
    | refused | nothing => exact h.aside (mem_concat _) rfl (Nat.le_refl _) rfl
    | brokenOff _ hcatalog | stillborn _ _ hcatalog =>
      exact h.aside (mem_concat _) (congrArg Catalog.tables hcatalog)
        (congrArg Catalog.issued hcatalog).ge hlayouts
    | grown ht hcatalog =>
      exact h.replaced (u := l.grownTable _ w.now) (mem_concat _) (Catalog.table?_eq_some ht).1
        ⟨rfl, rfl, rfl, rfl⟩ rfl hcatalog hlayouts
    | collided _ _ _ hcatalog =>
      have hissued := congrArg Catalog.issued hcatalog
      exact h.aside (mem_concat _) (congrArg Catalog.tables hcatalog :)
        ((Nat.le_succ _).trans hissued.ge) hlayouts
    | created _ hnone =>
      rcases hreason with ⟨t, ht⟩ | ⟨failure, hfailed⟩
      · cases hnone.symm.trans ht
      · cases hfailed
  | creates hl hnone hlayouts =>
    cases hresult with
    | refused => exact h.leftBehind hl rfl (Nat.le_refl _) hlayouts
    | nothing ht | brokenOff ht | grown ht => cases hnone.symm.trans ht
    | stillborn _ _ hcatalog =>
      exact h.leftBehind hl (congrArg Catalog.tables hcatalog)
        (congrArg Catalog.issued hcatalog).ge hlayouts
    | collided _ _ _ hcatalog =>
      have hissued := congrArg Catalog.issued hcatalog
      exact h.leftBehind hl (congrArg Catalog.tables hcatalog :)
        ((Nat.le_succ _).trans hissued.ge) hlayouts
    | created hl' _ hfree hcatalog =>
      have hsame := hl'.symm.trans hl
      rw [Load.create.injEq] at hsame
      exact h.created hnone hfree hcatalog (hsame.2.2.1 ▸ hlayouts)

/-- The record of a physical table is among those with its name. -/
theorem mem_of_physicalName (h : Described events w) {tables : List DataTable}
    (htables : ∀ u ∈ tables, u ∈ w.catalog.tables) {t : DataTable} (ht : t ∈ w.catalog.tables)
    (hname : t.physicalName ∈ tables.map DataTable.physicalName) : t ∈ tables := by
  obtain ⟨u, hu, hsame⟩ := List.mem_map.1 hname
  rwa [← h.consistent.physicals u (htables u hu) t ht hsame]

/-- A removal that fails has dropped some tables of the source, and their records remain. -/
theorem lost (h : Described events w) {id : String} {failure : Failure} {tables : List DataTable}
    (htables : ∀ t ∈ tables, t ∈ w.catalog.tablesOf id) (hcatalog : w'.catalog = w.catalog)
    (hlayouts : w'.layouts = w.layouts.without tables) :
    Described (events ++ [⟨w, .drop id, .error failure, w'⟩]) w' := by
  generalize he : (⟨w, .drop id, .error failure, w'⟩ : ManagerEvent) = e
  have hlast : e ∈ events ++ [e] := List.mem_append_right _ (List.mem_singleton_self e)
  refine ⟨hcatalog ▸ h.consistent, fun t ht => h.placed t (hcatalog ▸ ht),
    fun physical columns hlaid => ?_, fun t ht => ?_⟩
  · rw [hlayouts, Layouts.without] at hlaid
    split_ifs at hlaid
    rw [hcatalog]
    exact h.known_mono (mem_concat e) hlaid
  · rw [hcatalog] at ht
    by_cases hdropped : t.physicalName ∈ tables.map DataTable.physicalName
    · have hafter : w'.layouts t.physicalName = none := by
        rw [hlayouts]
        exact if_pos hdropped
      cases hbefore : w.layouts t.physicalName with
      | none => exact (h.described t ht).mono (mem_concat e) (hafter.trans hbefore.symm)
      | some columns =>
        have hmem := h.mem_of_physicalName
          (fun u hu => List.mem_of_mem_filter (htables u hu)) ht hdropped
        have hsource : t.sourceId = id :=
          of_decide_eq_true (List.mem_filter.1 (htables t hmem)).2
        subst he hsource
        exact .inr (.inr ⟨hafter, _, hlast, ⟨failure, rfl⟩, rfl, by simp [hbefore], hafter⟩)
    · refine (h.described t ht).mono (mem_concat e) ?_
      rw [hlayouts]
      exact if_neg hdropped

/-- The records of a removed source go with its tables. -/
theorem dropped (h : Described events w) {e : ManagerEvent} {id : String}
    (hsource : (w.catalog.source? id).isSome)
    (hcatalog : w'.catalog = (w.catalog.deleteSource id).2)
    (hlayouts : w'.layouts = w.layouts.without (w.catalog.tablesOf id)) :
    Described (events ++ [e]) w' := by
  have hissued : w'.catalog.issued = w.catalog.issued := by
    obtain ⟨source, hfound⟩ := Option.isSome_iff_exists.1 hsource
    rw [hcatalog, Catalog.deleteSource, hfound]
  have hmem : ∀ v, v ∈ w'.catalog.tables ↔ v ∈ w.catalog.tables ∧ v ∉ w.catalog.tablesOf id :=
    fun v => hcatalog ▸ Catalog.mem_tables_deleteSource hsource
  refine ⟨h.consistent.of_subset (fun v hv => ((hmem v).1 hv).1) hissued.ge,
    fun v hv => h.placed v ((hmem v).1 hv).1, fun physical columns hlaid => ?_, fun v hv => ?_⟩
  · rw [hlayouts, Layouts.without] at hlaid
    split_ifs at hlaid with hkept
    rcases h.known_mono (mem_concat e) hlaid with ⟨v, hv, hname⟩ | hleft
    · refine .inl ⟨v, (hmem v).2 ⟨hv, fun hown => hkept ?_⟩, hname⟩
      exact List.mem_map.2 ⟨v, hown, hname⟩
    · exact .inr hleft
  · obtain ⟨hold, hother⟩ := (hmem v).1 hv
    refine (h.described v hold).mono (mem_concat e) ?_
    rw [hlayouts]
    refine if_neg fun hname => hother ?_
    exact h.mem_of_physicalName (fun u hu => List.mem_of_mem_filter hu) hold hname

/-- A removal keeps the invariant. -/
theorem removal (h : Described events w) {id : String} {result : Outcome Unit × World}
    (hresult : Removal id w result) :
    Described (events ++ [⟨w, .drop id, result.1.map fun _ => none, result.2⟩]) result.2 := by
  cases hresult with
  | refused => exact h.aside (mem_concat _) rfl (Nat.le_refl _) rfl
  | stopped _ _ hcatalog hlayouts =>
    exact h.lost (fun t ht => List.mem_of_mem_take ht) hcatalog hlayouts
  | done hsource _ hcatalog hlayouts => exact h.dropped hsource hcatalog hlayouts

/-- The physical tables have proper names. -/
theorem isSqlName (h : Described events w) : ∀ t ∈ w.catalog.tables, IsSqlName t.physicalName := by
  intro t ht
  rw [h.placed t ht]
  exact isSqlName_physicalNameFor t.sourceId t.name

/-- A call keeps the invariant. -/
theorem call (h : Described events w) (c : ManagerCall) :
    Described (events ++ [⟨w, c, (c.run s w).1, (c.run s w).2⟩]) (c.run s w).2 := by
  cases c with
  | load l => exact h.load l (l.run_result s h.consistent) (l.run_lays s w)
  | drop id => exact h.removal (dropSource_removal h.isSqlName)

/-- Before the first call there are no tables. -/
theorem start (htables : w.catalog.tables = []) (hclean : ∀ physical, w.layouts physical = none) :
    Described [] w := by
  have hnone : ∀ t, t ∉ w.catalog.tables := by
    intro t ht
    rw [htables] at ht
    cases ht
  refine ⟨Catalog.consistent_empty.of_subset (fun t ht => absurd ht (hnone t)) (Nat.zero_le _),
    fun t ht => absurd ht (hnone t), fun physical columns hlaid => ?_,
    fun t ht => absurd ht (hnone t)⟩
  rw [hclean] at hlaid
  cases hlaid

end Described

/-- The invariant holds throughout a run. -/
theorem TableRun.described {s : LoadSettings} {start w : World} {events : List ManagerEvent}
    (htables : start.catalog.tables = []) (hclean : ∀ physical, start.layouts physical = none)
    (h : TableRun s start events w) : Described events w := by
  induction h with
  | start => exact .start htables hclean
  | call _ c ih => exact ih.call c
  | aside _ htables hissued hlayouts ih => exact ih.aside (fun _ he => he) htables hissued hlayouts

/-- After any run, whichever statements failed in it, a record has exactly the columns that its
physical table was created with, unless that table was left behind by a creation that failed, or was
lost in a removal that failed. -/
theorem run_tables_described {s : LoadSettings} {start w : World} {events : List ManagerEvent}
    (htables : start.catalog.tables = []) (hclean : ∀ physical, start.layouts physical = none)
    (h : TableRun s start events w) {t : DataTable} (ht : t ∈ w.catalog.tables) :
    w.layouts t.physicalName = some t.schema.columns
    ∨ (∃ e ∈ events, ∃ columns, e.LeavesTable t.physicalName columns
      ∧ w.layouts t.physicalName = some columns)
    ∨ (w.layouts t.physicalName = none ∧ ∃ e ∈ events, e.LosesTable t) :=
  (h.described htables hclean).described t ht

/-! ## A table that was left behind -/

/-- The world at the start, with a failure of the second statement. -/
def brittleWorld : World :=
  { freshWorld with warehouse := { freshWorld.warehouse with faultIn := 2 } }

/-- The creation of the table `a` with one column of texts and one row. -/
def firstCreation : Load := .create "s" "a" wordSchema [wordRow]

/-- The world after the creation failed on the row. -/
def leftWorld : World :=
  (Action.writeBatches "ds_s_a" ["word"] [[wordRow]]
    (Action.onWarehouse (fun w => w.apply (.create "ds_s_a" wordSchema.columns []))
      brittleWorld).2).2

theorem firstCreation_run :
    firstCreation.run .standard brittleWorld = (.error .simulated, leftWorld) := by
  refine (createTable_eq_loadNew rfl (by decide)).trans ?_
  rw [Action.loadNew_one (by decide) (by decide)]
  rfl

/-- A schema of one column of numbers. -/
def sizeSchema : Schema := ⟨[⟨"size", .number, true, false, by decide⟩], [], by decide, by decide⟩

/-- The creation of the table `a` with one column of numbers. -/
def secondCreation : Load := .create "s" "a" sizeSchema []

/-- The world after the second creation. -/
def adoptedWorld : World :=
  (Action.onCatalog (fun c now => c.putTable now "s" "a" "ds_s_a" sizeSchema 0)
    (Action.onWarehouse (fun w => w.apply (.create "ds_s_a" sizeSchema.columns []))
      leftWorld).2).2

/-- The record of the table `a`. -/
def adoptedTable : DataTable :=
  ⟨recordId 1, "s", "a", "ds_s_a", sizeSchema, 0, default, default⟩

theorem secondCreation_run :
    secondCreation.run .standard leftWorld = (.ok adoptedTable, adoptedWorld) := by
  refine (createTable_eq_loadNew rfl (by decide)).trans ?_
  rw [Action.loadNew_nil]
  rfl

/-- The two creations. -/
def adoptionEvents : List ManagerEvent :=
  [⟨brittleWorld, .load firstCreation, .error .simulated, leftWorld⟩,
    ⟨leftWorld, .load secondCreation, .ok (some adoptedTable), adoptedWorld⟩]

theorem adoption_run : TableRun .standard freshWorld adoptionEvents adoptedWorld := by
  have hfirst : (ManagerCall.load firstCreation).run .standard brittleWorld
      = (.error .simulated, leftWorld) := by
    rw [ManagerCall.run, firstCreation_run]
    rfl
  have hsecond : (ManagerCall.load secondCreation).run .standard leftWorld
      = (.ok (some adoptedTable), adoptedWorld) := by
    rw [ManagerCall.run, secondCreation_run]
    rfl
  have hbrittle : TableRun .standard freshWorld [] brittleWorld :=
    .aside .start rfl (Nat.le_refl _) rfl
  have hleft := hbrittle.call (.load firstCreation)
  rw [hfirst] at hleft
  have hadopted := hleft.call (.load secondCreation)
  rw [hsecond] at hadopted
  exact hadopted

theorem adoptedTable_mem : adoptedTable ∈ adoptedWorld.catalog.tables := List.mem_singleton_self _

theorem adoptedTable_left :
    freshWorld.catalog.tables = [] ∧ (∀ physical, freshWorld.layouts physical = none)
      ∧ TableRun .standard freshWorld adoptionEvents adoptedWorld
      ∧ adoptedTable ∈ adoptedWorld.catalog.tables
      ∧ (adoptedWorld.layouts adoptedTable.physicalName = some adoptedTable.schema.columns
        ∨ (∃ e ∈ adoptionEvents, ∃ columns, e.LeavesTable adoptedTable.physicalName columns
          ∧ adoptedWorld.layouts adoptedTable.physicalName = some columns)
        ∨ (adoptedWorld.layouts adoptedTable.physicalName = none
          ∧ ∃ e ∈ adoptionEvents, e.LosesTable adoptedTable)) :=
  ⟨rfl, fun _ => rfl, adoption_run, adoptedTable_mem,
    run_tables_described rfl (fun _ => rfl) adoption_run adoptedTable_mem⟩

/-- The table has a column of texts, and its record has one of numbers. -/
theorem adoptedTable_not_described :
    TableRun .standard freshWorld adoptionEvents adoptedWorld
      ∧ adoptedTable ∈ adoptedWorld.catalog.tables
      ∧ adoptedWorld.layouts adoptedTable.physicalName = some wordSchema.columns
      ∧ adoptedTable.schema.columns ≠ wordSchema.columns :=
  ⟨adoption_run, adoptedTable_mem, rfl, by decide⟩

end MetricLayer
