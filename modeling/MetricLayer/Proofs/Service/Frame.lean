import MetricLayer.Proofs.Service.Load

/-!
# Loads and other tables

A load writes to one physical table: that of the table it is about, or the one that is to be created
for it.  So it leaves the rows of every other table alone, with one exception
(`load_keeps_other_tables`): the physical name of a new table is derived from its place, two places
can have one physical name (`physicalNameFor`), and that the name is taken is noticed only when the
record is added, after the rows were written (`twin_rows_mixed`).
-/

namespace MetricLayer

namespace Load

/-- The physical table that a load writes to. -/
def target (l : Load) (c : Catalog) : String :=
  ((c.table? l.sourceId l.name).map DataTable.physicalName).getD
    (physicalNameFor l.sourceId l.name)

theorem target_some {l : Load} {c : Catalog} {t : DataTable}
    (h : c.table? l.sourceId l.name = some t) : l.target c = t.physicalName := by
  rw [target, h]
  rfl

theorem target_none {l : Load} {c : Catalog} (h : c.table? l.sourceId l.name = none) :
    l.target c = physicalNameFor l.sourceId l.name := by
  rw [target, h]
  rfl

/-- A load touches no physical table but its own. -/
theorem contents_other {s : LoadSettings} {l : Load} {w : World} {result : Outcome DataTable × World}
    (h : l.Result s w result) {physical : String} (hne : physical ≠ l.target w.catalog) :
    result.2.contents physical = w.contents physical := by
  cases h with
  | refused => rfl
  | nothing => rfl
  | brokenOff ht _ _ hother => exact hother physical (target_some ht ▸ hne)
  | grown ht _ hcontents =>
    rw [hcontents]
    exact Function.update_of_ne (target_some ht ▸ hne) _ _
  | stillborn _ hnone _ _ hother => exact hother physical (target_none hnone ▸ hne)
  | collided _ hnone _ _ hcontents =>
    rw [hcontents]
    exact Function.update_of_ne (target_none hnone ▸ hne) _ _
  | created _ hnone _ _ hcontents =>
    rw [hcontents]
    exact Function.update_of_ne (target_none hnone ▸ hne) _ _

end Load

/-- A load leaves the rows of every other table alone, unless it fails on a new table whose physical
name belongs to that other table. -/
theorem load_keeps_other_tables (s : LoadSettings) (l : Load) {w : World} (hw : w.Reachable)
    {t : DataTable} (ht : t ∈ w.catalog.tables)
    (hother : ¬(t.sourceId = l.sourceId ∧ t.name = l.name)) :
    (l.run s w).2.contents t.physicalName = w.contents t.physicalName
    ∨ ((∃ schema, l = .create l.sourceId l.name schema l.rows)
      ∧ w.catalog.table? l.sourceId l.name = none
      ∧ t.physicalName = physicalNameFor l.sourceId l.name
      ∧ ∃ failure, (l.run s w).1 = .error failure) := by
  have hresult := l.run_result s hw.consistent
  generalize l.run s w = result at hresult ⊢
  by_cases hne : t.physicalName = l.target w.catalog
  · cases hfound : w.catalog.table? l.sourceId l.name with
    | some u =>
      -- the table of the load would be the other table
      obtain ⟨hu, hsource, hname⟩ := Catalog.table?_eq_some hfound
      rw [Load.target_some hfound] at hne
      rw [hw.consistent.physicals t ht u hu hne] at hother
      exact absurd ⟨hsource, hname⟩ hother
    | none =>
      rw [Load.target_none hfound] at hne
      cases hresult with
      | refused => exact .inl rfl
      | nothing hsome => exact .inl rfl
      | brokenOff hsome => rw [hfound] at hsome; cases hsome
      | grown hsome => rw [hfound] at hsome; cases hsome
      | stillborn hl => exact .inr ⟨⟨_, hl⟩, rfl, hne, _, rfl⟩
      | collided hl => exact .inr ⟨⟨_, hl⟩, rfl, hne, _, rfl⟩
      | created _ _ hfree => exact absurd hne (hfree t ht)
  · exact .inl (Load.contents_other hresult hne)

/-! ## Two places with one physical name -/

/-- Acceptable rows for a new table are loaded as such. -/
theorem createTable_eq_loadNew {s : LoadSettings} {sourceId name : String} {schema : Schema}
    {rows : List Row} {w : World} (hnone : w.catalog.table? sourceId name = none)
    (hvalid : (checkLoadable rows schema s.policy).isValid = true) :
    Action.createTable s sourceId name schema rows w
      = Action.loadNew s sourceId name schema rows w := by
  rcases Action.createTable_cases s sourceId name schema rows w with
    ⟨h, -⟩ | ⟨t, ht, -⟩ | ⟨-, h⟩
  · rcases h with ⟨t, ht, -⟩ | h
    · rw [hnone] at ht
      cases ht
    · rw [hvalid] at h
      cases h
  · rw [hnone] at ht
    cases ht
  · exact h

/-- Acceptable rows for a table that exists are added to it. -/
theorem append_eq_extend {s : LoadSettings} {sourceId name : String} {rows : List Row} {w : World}
    {t : DataTable} (ht : w.catalog.table? sourceId name = some t)
    (hvalid : (checkRows rows t.schema s.policy).isValid = true) :
    Action.append s sourceId name rows w = Action.extend s t rows w := by
  unfold Action.append
  rw [Action.bind_of_ok (Action.findTable_some ht)]
  rcases Action.accept_cases (checkRows rows t.schema s.policy) w with ⟨-, hok⟩ | ⟨hnot, -⟩
  · rw [Action.bind_of_ok hok]
  · rw [hvalid] at hnot
    cases hnot

/-- Rows without a bad cell are acceptable when extra columns are. -/
theorem checkRows_isValid {rows : List Row} {schema : Schema}
    (h : ∀ c ∈ schema.columns, ∀ row ∈ rows, ∀ i, checkCell c i (row.cell c.name) = []) :
    (checkRows rows schema .permissive).isValid = true := by
  have hnotes : cellNotes checkCell rows schema = [] := by
    rw [cellNotes, List.flatMap_eq_nil_iff]
    intro c hc
    rw [List.flatMap_eq_nil_iff]
    rintro ⟨row, i⟩ hrow
    exact h c hc row (List.fst_mem_of_mem_zipIdx hrow) (i + 1)
  unfold checkRows reportWith
  rw [hnotes]
  rfl

/-- A schema of one text column. -/
def wordSchema : Schema :=
  ⟨[⟨"word", .string, true, false, by decide⟩], [], by decide, by decide⟩

/-- A row with a word. -/
def wordRow : Row := [("word", .text "x")]

/-- The service at its start. -/
def freshWorld : World := ⟨.empty, .new .postgres Warehouse.defaultTimeoutMs, default⟩

/-- The world after the table `a-b` was created without rows. -/
def twinWorld : World :=
  let w := (Action.onWarehouse (fun w => w.apply (.create "ds_s_a_b" wordSchema.columns []))
    freshWorld).2
  (Action.onCatalog (fun c now => c.putTable now "s" "a-b" "ds_s_a_b" wordSchema 0) w).2

/-- The record of the table `a-b`. -/
def twinTable : DataTable :=
  ⟨recordId 1, "s", "a-b", "ds_s_a_b", wordSchema, 0, default, default⟩

theorem twinWorld_created :
    (Load.create "s" "a-b" wordSchema []).run .standard freshWorld = (.ok twinTable, twinWorld) := by
  refine (createTable_eq_loadNew rfl (by decide)).trans ?_
  rw [Action.loadNew_nil]
  rfl

theorem twinWorld_reachable : twinWorld.Reachable := by
  have hsteps := Action.createTable_steps .standard "s" "a-b" wordSchema [] freshWorld
  exact ⟨_, _, _, congrArg Prod.snd twinWorld_created ▸ hsteps⟩

theorem twinTable_mem : twinTable ∈ twinWorld.catalog.tables := List.mem_singleton_self _

/-- The load of a row into the table `a_b`, whose physical name is that of `a-b`. -/
def twinLoad : Load := .create "s" "a_b" wordSchema [wordRow]

theorem twinLoad_keeps_or_fails :
    twinWorld.Reachable ∧ twinTable ∈ twinWorld.catalog.tables
      ∧ ¬(twinTable.sourceId = twinLoad.sourceId ∧ twinTable.name = twinLoad.name)
      ∧ ((twinLoad.run .standard twinWorld).2.contents twinTable.physicalName
          = twinWorld.contents twinTable.physicalName
        ∨ ((∃ schema, twinLoad
            = .create twinLoad.sourceId twinLoad.name schema twinLoad.rows)
          ∧ twinWorld.catalog.table? twinLoad.sourceId twinLoad.name = none
          ∧ twinTable.physicalName = physicalNameFor twinLoad.sourceId twinLoad.name
          ∧ ∃ failure, (twinLoad.run .standard twinWorld).1 = .error failure)) := by
  have hother : ¬(twinTable.sourceId = twinLoad.sourceId ∧ twinTable.name = twinLoad.name) := by
    decide
  exact ⟨twinWorld_reachable, twinTable_mem, hother,
    load_keeps_other_tables .standard twinLoad twinWorld_reachable twinTable_mem hother⟩

/-- The row for the table `a_b` ends up in the table `a-b`, and the load fails only then. -/
theorem twin_rows_mixed :
    twinWorld.Reachable ∧ twinTable ∈ twinWorld.catalog.tables
      ∧ ¬(twinTable.sourceId = twinLoad.sourceId ∧ twinTable.name = twinLoad.name)
      ∧ twinWorld.contents twinTable.physicalName = some []
      ∧ (twinLoad.run .standard twinWorld).2.contents twinTable.physicalName = some [wordRow] := by
  have hrun : twinLoad.run .standard twinWorld
      = Action.loadNew .standard "s" "a_b" wordSchema [wordRow] twinWorld :=
    createTable_eq_loadNew rfl (by decide)
  refine ⟨twinWorld_reachable, twinTable_mem, by decide, rfl, ?_⟩
  rw [hrun, Action.loadNew_one (by decide) (by decide)]
  rfl

end MetricLayer
