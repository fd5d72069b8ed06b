import MetricLayer.Proofs.Number.Digits
import MetricLayer.Proofs.Service.Action

/-!
# Steps of the world

Everything the service does to its records and tables is made of atomic steps (`World.Step`): one
update of the catalog, one change or query of the warehouse, or something that happens outside.
`createTable_steps` and its siblings say that the actions of the service are made of steps.

What the catalog promises about its tables (`Catalog.Consistent`) is kept by every step
(`World.Step.consistent`) and so holds of every world that can be reached
(`World.Reachable.consistent`).
-/

namespace MetricLayer

/-- The catalog after an update at the time `now`. -/
inductive Catalog.Update (now : Moment) (c : Catalog) : Catalog → Prop
  | createSource (name : String) (description : Option String) (kindName : String) :
      Update now c (c.createSource now name description kindName).2
  | deleteSource (id : String) : Update now c (c.deleteSource id).2
  | putTable (sourceId name physical : String) (schema : Schema) (rowCount : Int) :
      Update now c (c.putTable now sourceId name physical schema rowCount).2
  | addRows (id : String) (count : Int) : Update now c (c.addRows now id count).2
  | insertMetric (m : Metric) : Update now c (c.insertMetric m).2
  | storeMetric (columns : Fields) : Update now c (c.storeMetric now columns).2
  | deleteMetric (id : String) : Update now c (c.deleteMetric id).2

/-- The world after one step. -/
inductive World.Step : World → World → Prop
  | update {w : World} {c : Catalog} (h : Catalog.Update w.now w.catalog c) :
      Step w { w with catalog := c }
  | change (w : World) (c : Change) : Step w { w with warehouse := (w.warehouse.apply c).2 }
  | query (w : World) (sql : String) (params : Fields) :
      Step w { w with warehouse := (w.warehouse.query sql params).2 }
  /-- Time passes, and the results and faults to come are arranged anew. -/
  | outside (w : World) (now : Moment) (warehouse : Warehouse)
      (h : warehouse.transactions = w.warehouse.transactions) : Step w { w with warehouse, now }

/-- The world after any number of steps. -/
abbrev World.Steps : World → World → Prop := Relation.ReflTransGen World.Step

/-- The world can be reached from one without records and without a history. -/
def World.Reachable (w : World) : Prop :=
  ∃ dialect timeout now, World.Steps ⟨.empty, .new dialect timeout, now⟩ w

/-! ## Actions are made of steps -/

namespace Action

variable {α : Type}

/-- The action is made of steps. -/
abbrev Stepwise (x : Action α) : Prop := Keeps World.Steps x

theorem onCatalog_steps {update : Catalog → Moment → Outcome α × Catalog}
    (h : ∀ c now, Catalog.Update now c (update c now).2) : Stepwise (onCatalog update) :=
  fun w => .single (.update (h w.catalog w.now))

theorem apply_steps (c : Change) : Stepwise (onWarehouse fun w => w.apply c) :=
  fun w => .single (.change w c)

theorem insert_steps (physical : String) (columns : List String) (rows : List Row) :
    Stepwise (onWarehouse fun w => w.insert physical columns rows) := by
  cases rows with
  | nil => exact .of_same fun _ => rfl
  | cons row rows => exact apply_steps _

theorem extend_steps (s : LoadSettings) (t : DataTable) (rows : List Row) :
    Stepwise (extend s t rows) :=
  .extend insert_steps s t rows (onCatalog_steps fun _ _ => .addRows _ _)

theorem loadNew_steps (s : LoadSettings) (sourceId name : String) (schema : Schema)
    (rows : List Row) : Stepwise (loadNew s sourceId name schema rows) :=
  .bind (apply_steps _) fun _ => .bind (.writeRows insert_steps _ _ _ _) fun _ =>
    onCatalog_steps fun _ _ => .putTable _ _ _ _ _

theorem createTable_steps (s : LoadSettings) (sourceId name : String) (schema : Schema)
    (rows : List Row) : Stepwise (createTable s sourceId name schema rows) := by
  intro w
  rcases createTable_cases s sourceId name schema rows w with
    ⟨-, failure, h⟩ | ⟨t, -, -, h⟩ | ⟨-, h⟩ <;> rw [h]
  · exact extend_steps s t rows w
  · exact loadNew_steps s sourceId name schema rows w

theorem append_steps (s : LoadSettings) (sourceId name : String) (rows : List Row) :
    Stepwise (append s sourceId name rows) := by
  intro w
  rcases append_cases s sourceId name rows w with ⟨failure, h⟩ | ⟨t, -, h⟩ <;> rw [h]
  exact extend_steps s t rows w

theorem dropTables_steps (tables : List DataTable) : Stepwise (dropTables tables) := by
  induction tables with
  | nil => exact .pure ()
  | cons t rest ih => exact .bind (apply_steps _) fun _ => ih

theorem dropSource_steps (id : String) : Stepwise (dropSource id) := by
  intro w
  rcases dropSource_cases id w with ⟨-, h⟩ | ⟨source, -, h⟩ <;> rw [h]
  exact Keeps.bind (dropTables_steps _) (fun _ => onCatalog_steps fun _ _ => .deleteSource _) w

end Action

/-! ## What the catalog promises -/

/-- Tables differ in their ids, in their place and in their physical names, and their ids were
given out by the catalog. -/
structure Catalog.Consistent (c : Catalog) : Prop where
  /-- The ids were given out. -/
  issued : ∀ t ∈ c.tables, ∃ n ≤ c.issued, t.id = recordId n
  /-- No two tables have the same id. -/
  ids : ∀ t ∈ c.tables, ∀ u ∈ c.tables, t.id = u.id → t = u
  /-- No two tables of a source have the same name. -/
  places : ∀ t ∈ c.tables, ∀ u ∈ c.tables, t.sourceId = u.sourceId → t.name = u.name → t = u
  /-- No two tables have the same physical table. -/
  physicals : ∀ t ∈ c.tables, ∀ u ∈ c.tables, t.physicalName = u.physicalName → t = u

/-- The record stands for the same table at the same place. -/
structure DataTable.SamePlace (t u : DataTable) : Prop where
  id : t.id = u.id
  sourceId : t.sourceId = u.sourceId
  name : t.name = u.name
  physicalName : t.physicalName = u.physicalName

namespace Catalog

variable {c : Catalog}

theorem consistent_empty : Consistent .empty := by
  constructor <;> intro t ht <;> cases ht

theorem table?_eq_some {sourceId name : String} {t : DataTable}
    (h : c.table? sourceId name = some t) : t ∈ c.tables ∧ t.sourceId = sourceId ∧ t.name = name := by
  have := List.find?_some h
  rw [Bool.and_eq_true, decide_eq_true_eq, decide_eq_true_eq] at this
  exact ⟨List.mem_of_find?_eq_some h, this⟩

theorem table?_eq_none {sourceId name : String} :
    c.table? sourceId name = none ↔ ∀ t ∈ c.tables, ¬(t.sourceId = sourceId ∧ t.name = name) := by
  rw [table?, List.find?_eq_none]
  refine forall₂_congr fun t _ => ?_
  rw [Bool.and_eq_true, decide_eq_true_eq, decide_eq_true_eq]

/-- What stands in the catalog after a replacement: the new record and the other old ones. -/
theorem mem_replaceTable {t u v : DataTable} (hid : u.id = t.id)
    (hv : v ∈ (c.replaceTable u).tables) : v = u ∨ (v ∈ c.tables ∧ v ≠ t) := by
  obtain ⟨v', hv', rfl⟩ := List.mem_map.1 hv
  split
  · exact .inl rfl
  · next hne => exact .inr ⟨hv', fun heq => hne (heq ▸ hid.symm)⟩

namespace Consistent

/-- Fewer tables and more ids break no promise. -/
theorem of_subset {d : Catalog} (h : c.Consistent) (htables : ∀ t ∈ d.tables, t ∈ c.tables)
    (hissued : c.issued ≤ d.issued) : d.Consistent where
  issued t ht := by
    obtain ⟨n, hn, hid⟩ := h.issued t (htables t ht)
    exact ⟨n, Nat.le_trans hn hissued, hid⟩
  ids t ht u hu := h.ids t (htables t ht) u (htables u hu)
  places t ht u hu := h.places t (htables t ht) u (htables u hu)
  physicals t ht u hu := h.physicals t (htables t ht) u (htables u hu)

theorem issue (h : c.Consistent) : c.issue.Consistent :=
  h.of_subset (fun _ ht => ht) (Nat.le_succ _)

/-- The record of a table is found under its id. -/
theorem find?_id (h : c.Consistent) {t : DataTable} (ht : t ∈ c.tables) :
    c.tables.find? (·.id = t.id) = some t := by
  cases hfound : c.tables.find? (·.id = t.id) with
  | none =>
    have := List.find?_eq_none.1 hfound t ht
    simp at this
  | some u =>
    have hid : u.id = t.id := by simpa using List.find?_some hfound
    rw [h.ids u (List.mem_of_find?_eq_some hfound) t ht hid]

/-- The record of a table is found at its place. -/
theorem table?_place (h : c.Consistent) {t : DataTable} (ht : t ∈ c.tables) :
    c.table? t.sourceId t.name = some t := by
  cases hfound : c.table? t.sourceId t.name with
  | none => exact absurd ⟨rfl, rfl⟩ (table?_eq_none.1 hfound t ht)
  | some u =>
    obtain ⟨hu, hsource, hname⟩ := table?_eq_some hfound
    rw [h.places u hu t ht hsource hname]

/-- Every old record has its successor after a replacement. -/
theorem exists_replaced (h : c.Consistent) {t u : DataTable} (ht : t ∈ c.tables)
    (hsame : u.SamePlace t) {v : DataTable} (hv : v ∈ c.tables) :
    ∃ v' ∈ (c.replaceTable u).tables, v'.SamePlace v := by
  refine ⟨_, List.mem_map_of_mem hv, ?_⟩
  split
  · next hid => rwa [h.ids v hv t ht (hid.trans hsame.id)]
  · exact ⟨rfl, rfl, rfl, rfl⟩

/-- A record may be replaced by one for the same table. -/
theorem replaceTable (h : c.Consistent) {t u : DataTable} (ht : t ∈ c.tables)
    (hsame : u.SamePlace t) : (c.replaceTable u).Consistent := by
  have hold : ∀ v ∈ (c.replaceTable u).tables, ∃ v' ∈ c.tables, v.SamePlace v'
      ∧ v = if v'.id = u.id then u else v' := by
    intro v hv
    obtain ⟨v', hv', rfl⟩ := List.mem_map.1 hv
    refine ⟨v', hv', ?_, rfl⟩
    split
    · next hid => rwa [h.ids v' hv' t ht (hid.trans hsame.id)]
    · exact ⟨rfl, rfl, rfl, rfl⟩
  constructor
  · intro v hv
    obtain ⟨v', hv', hv, -⟩ := hold v hv
    rw [hv.id]
    exact h.issued v' hv'
  · intro v hv x hx hid
    obtain ⟨v', hv', hv, hveq⟩ := hold v hv
    obtain ⟨x', hx', hx, hxeq⟩ := hold x hx
    rw [hveq, hxeq, h.ids v' hv' x' hx' (by rw [← hv.id, ← hx.id, hid])]
  · intro v hv x hx hsource hname
    obtain ⟨v', hv', hv, hveq⟩ := hold v hv
    obtain ⟨x', hx', hx, hxeq⟩ := hold x hx
    rw [hveq, hxeq, h.places v' hv' x' hx' (by rw [← hv.sourceId, ← hx.sourceId, hsource])
      (by rw [← hv.name, ← hx.name, hname])]
  · intro v hv x hx hphysical
    obtain ⟨v', hv', hv, hveq⟩ := hold v hv
    obtain ⟨x', hx', hx, hxeq⟩ := hold x hx
    rw [hveq, hxeq, h.physicals v' hv' x' hx'
      (by rw [← hv.physicalName, ← hx.physicalName, hphysical])]

/-- A record may be added for a table at a new place with a new physical name. -/
theorem concat (h : c.Consistent) {t : DataTable} (hid : t.id = c.nextId)
    (hplace : ∀ u ∈ c.tables, ¬(u.sourceId = t.sourceId ∧ u.name = t.name))
    (hphysical : ∀ u ∈ c.tables, u.physicalName ≠ t.physicalName) :
    Consistent { c.issue with tables := c.tables ++ [t] } := by
  have hnew : ∀ u ∈ c.tables, u.id ≠ t.id := by
    intro u hu hsame
    obtain ⟨n, hn, hun⟩ := h.issued u hu
    have := recordId_injective (hun.symm.trans (hsame.trans hid))
    omega
  constructor <;> intro u hu
  · rcases List.mem_append.1 hu with hu | hu
    · obtain ⟨n, hn, hun⟩ := h.issued u hu
      exact ⟨n, Nat.le_succ_of_le hn, hun⟩
    · rw [List.mem_singleton.1 hu]
      exact ⟨c.issued + 1, Nat.le_refl _, hid⟩
  all_goals
    intro v hv
    rcases List.mem_append.1 hu with hu | hu <;> rcases List.mem_append.1 hv with hv | hv
  · exact h.ids u hu v hv
  · rw [List.mem_singleton.1 hv]
    exact fun hsame => absurd hsame (hnew u hu)
  · rw [List.mem_singleton.1 hu]
    exact fun hsame => absurd hsame.symm (hnew v hv)
  · rw [List.mem_singleton.1 hu, List.mem_singleton.1 hv]
    exact fun _ => rfl
  · exact h.places u hu v hv
  · rw [List.mem_singleton.1 hv]
    exact fun hsource hname => absurd ⟨hsource, hname⟩ (hplace u hu)
  · rw [List.mem_singleton.1 hu]
    exact fun hsource hname => absurd ⟨hsource.symm, hname.symm⟩ (hplace v hv)
  · rw [List.mem_singleton.1 hu, List.mem_singleton.1 hv]
    exact fun _ _ => rfl
  · exact h.physicals u hu v hv
  · rw [List.mem_singleton.1 hv]
    exact fun hsame => absurd hsame (hphysical u hu)
  · rw [List.mem_singleton.1 hu]
    exact fun hsame => absurd hsame.symm (hphysical v hv)
  · rw [List.mem_singleton.1 hu, List.mem_singleton.1 hv]
    exact fun _ => rfl

end Consistent

/-- Every update keeps the promises. -/
theorem Update.consistent {now : Moment} {d : Catalog} (h : Update now c d) (hc : c.Consistent) :
    d.Consistent := by
  cases h with
  | createSource name description kindName =>
    unfold Catalog.createSource
    split
    · exact hc
    · split
      · exact hc
      · exact hc.of_subset (fun _ ht => ht) (Nat.le_succ _)
  | deleteSource id =>
    unfold Catalog.deleteSource
    split
    · exact hc
    · exact hc.of_subset (fun _ ht => List.mem_of_mem_filter ht) (Nat.le_refl _)
  | putTable sourceId name physical schema rowCount =>
    unfold Catalog.putTable
    split
    · next hnone =>
      unfold insertTable
      split
      · exact hc.issue
      · next hphysical =>
        refine hc.concat rfl (table?_eq_none.1 hnone) fun u hu hsame => hphysical ?_
        exact List.any_eq_true.2 ⟨u, hu, decide_eq_true hsame⟩
    · next t hsome =>
      split
      · exact hc
      · exact hc.replaceTable (table?_eq_some hsome).1 ⟨rfl, rfl, rfl, rfl⟩
  | addRows id count =>
    unfold Catalog.addRows
    split
    · exact hc
    · next t hsome =>
      exact hc.replaceTable (List.mem_of_find?_eq_some hsome) ⟨rfl, rfl, rfl, rfl⟩
  | insertMetric m =>
    unfold Catalog.insertMetric
    split <;> exact hc.of_subset (fun _ ht => ht) (Nat.le_succ _)
  | storeMetric columns =>
    unfold Catalog.storeMetric
    split
    · exact hc.issue
    · split <;> exact hc.of_subset (fun _ ht => ht) (Nat.le_succ _)
  | deleteMetric id =>
    unfold Catalog.deleteMetric
    split
    · exact hc
    · exact hc.of_subset (fun _ ht => ht) (Nat.le_refl _)

end Catalog

namespace World

variable {w w' : World}

theorem Step.consistent (h : Step w w') (hw : w.catalog.Consistent) : w'.catalog.Consistent := by
  cases h with
  | update h => exact h.consistent hw
  | _ => exact hw

theorem Steps.consistent (h : Steps w w') (hw : w.catalog.Consistent) :
    w'.catalog.Consistent := by
  induction h with
  | refl => exact hw
  | tail _ hstep ih => exact hstep.consistent ih

/-- The promises of the catalog hold wherever the service can get. -/
theorem Reachable.consistent (h : w.Reachable) : w.catalog.Consistent := by
  obtain ⟨dialect, timeout, now, hsteps⟩ := h
  exact Steps.consistent hsteps Catalog.consistent_empty

theorem Reachable.steps (h : w.Reachable) (hsteps : Steps w w') : w'.Reachable := by
  obtain ⟨dialect, timeout, now, hfirst⟩ := h
  exact ⟨dialect, timeout, now, hfirst.trans hsteps⟩

end World

end MetricLayer
