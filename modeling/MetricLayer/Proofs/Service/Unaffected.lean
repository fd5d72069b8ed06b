import MetricLayer.Proofs.Service.Frame
import MetricLayer.Proofs.Service.NewMetric
import MetricLayer.Proofs.Service.Reading

/-!
# Metrics that a change leaves alone

The query of a metric depends on the record of the metric, on the tables of its data source and on
the rows of these.  `World.SameFor id s` says that nothing of this changed for the metric `id` on the
source `s`.

Actions that add records or only read are `Harmless`: they change it for no metric.  A load and a
removal concern one source or one metric; `Spares` says that they leave all others alone, and that a
failure that leaves the rows alone leaves all alone.

`Catalog.Attached` is the promise that a metric has no source but one that exists.
-/

namespace MetricLayer

variable {α β : Type}

/-! ## Metrics and their sources -/

namespace Catalog

/-- The source of every metric exists. -/
def Attached (c : Catalog) : Prop :=
  ∀ m ∈ c.metrics, ∀ s, m.sourceId = some s → s ≠ "" → (c.source? s).isSome

variable {c : Catalog}

theorem source?_isSome {s : String} : (c.source? s).isSome ↔ ∃ source ∈ c.sources, source.id = s := by
  rw [source?, List.find?_isSome]
  exact exists_congr fun source => and_congr_right fun _ => decide_eq_true_iff

theorem metric?_eq_some {id : String} {m : Metric} (h : c.metric? id = some m) :
    m ∈ c.metrics ∧ m.id = id := by
  have hid := List.find?_some h
  exact ⟨List.mem_of_find?_eq_some h, of_decide_eq_true hid⟩

/-- More sources and fewer metrics break no promise. -/
theorem Attached.of_subset {d : Catalog} (h : c.Attached) (hmetrics : ∀ m ∈ d.metrics, m ∈ c.metrics)
    (hsources : ∀ source ∈ c.sources, source ∈ d.sources) : d.Attached := by
  intro m hm s hs hne
  obtain ⟨source, hsource, hid⟩ := source?_isSome.1 (h m (hmetrics m hm) s hs hne)
  exact source?_isSome.2 ⟨source, hsources source hsource, hid⟩

theorem attached_empty : Attached .empty := fun _ hm => absurd hm List.not_mem_nil

/-! ## Removals -/

theorem metric?_deleteMetric {id other : String} (hne : id ≠ other) :
    (c.deleteMetric other).2.metric? id = c.metric? id := by
  unfold deleteMetric
  split
  · rfl
  · rw [metric?, metric?, List.find?_filter]
    refine congrArg (fun p => List.find? p c.metrics) (funext fun m => ?_)
    by_cases hid : m.id = id <;> simp [hid, hne]

theorem metric?_deleteSource {id s other : String} {m : Metric} (hm : c.metric? id = some m)
    (hs : m.sourceId = some s) (hne : s ≠ other) :
    (c.deleteSource other).2.metric? id = some m := by
  unfold deleteSource
  split
  · exact hm
  · -- metrics keep their ids when their source goes
    have hid : ((fun m => decide (m.id = id)) ∘ fun m : Metric =>
        if m.sourceId = some other then orphaned m else m) = fun m => decide (m.id = id) := by
      funext u
      by_cases hu : u.sourceId = some other <;> simp [hu, orphaned]
    show List.find? _ _ = some m
    rw [List.find?_map, hid, show List.find? _ c.metrics = some m from hm, Option.map_some, hs,
      if_neg fun h => hne (Option.some.inj h)]

theorem tablesOf_deleteSource {s other : String} (hne : s ≠ other) :
    (c.deleteSource other).2.tablesOf s = c.tablesOf s := by
  unfold deleteSource
  split
  · rfl
  · rw [tablesOf, tablesOf, List.filter_filter]
    refine List.filter_congr fun t _ => ?_
    by_cases ht : t.sourceId = s <;> simp [ht, hne]

theorem Attached.deleteMetric (h : c.Attached) (id : String) : (c.deleteMetric id).2.Attached := by
  unfold Catalog.deleteMetric
  split
  · exact h
  · exact h.of_subset (fun m hm => List.mem_of_mem_filter hm) fun _ hsource => hsource

theorem Attached.deleteSource (h : c.Attached) (id : String) : (c.deleteSource id).2.Attached := by
  unfold Catalog.deleteSource
  split
  · exact h
  · intro m hm s hs hne
    obtain ⟨u, hu, rfl⟩ := List.mem_map.1 hm
    by_cases hgone : u.sourceId = some id
    · rw [if_pos hgone] at hs
      cases hs
    · rw [if_neg hgone] at hs
      obtain ⟨source, hsource, hid⟩ := source?_isSome.1 (h u hu s hs hne)
      refine source?_isSome.2 ⟨source, List.mem_filter.2 ⟨hsource, decide_eq_true ?_⟩, hid⟩
      rintro rfl
      exact hgone (hs.trans (congrArg some hid.symm))

/-! ## Loads -/

/-- A new record for a table of a source concerns no other source. -/
theorem tablesOf_replaceTable (hc : c.Consistent) {t u : DataTable} (ht : t ∈ c.tables)
    (hsame : u.SamePlace t) {s : String} (hne : s ≠ t.sourceId) :
    (c.replaceTable u).tablesOf s = c.tablesOf s := by
  have hother : ∀ v ∈ c.tables, v.sourceId = s → (if v.id = u.id then u else v) = v := by
    intro v hv hsource
    rw [if_neg]
    intro hid
    rw [hc.ids v hv t ht (hid.trans hsame.id)] at hsource
    exact hne hsource.symm
  rw [tablesOf, tablesOf, replaceTable, List.filter_map]
  have hpred : ∀ v ∈ c.tables, ((fun t : DataTable => decide (t.sourceId = s)) ∘
      fun v => if v.id = u.id then u else v) v = decide (v.sourceId = s) := by
    intro v hv
    show decide ((if v.id = u.id then u else v).sourceId = s) = _
    split
    · next hid => rw [hc.ids v hv t ht (hid.trans hsame.id), hsame.sourceId]
    · rfl
  rw [List.filter_congr hpred]
  refine (List.map_congr_left fun v hv => ?_).trans (List.map_id _)
  obtain ⟨hv, hsource⟩ := List.mem_filter.1 hv
  exact hother v hv (of_decide_eq_true hsource)

end Catalog

/-! ## Worlds that agree on a metric -/

namespace World

variable {w w' w'' : World} {id s : String}

/-- For the metric on the source, if there is one, nothing changed that its query reads. -/
structure SameFor (id s : String) (w w' : World) : Prop where
  /-- The record of the metric. -/
  metric : ∀ m, w.catalog.metric? id = some m → m.sourceId = some s →
    w'.catalog.metric? id = some m
  /-- The tables of the source. -/
  tables : w'.catalog.tablesOf s = w.catalog.tablesOf s
  /-- The rows of these tables. -/
  rows : ∀ t ∈ w.catalog.tablesOf s, w'.contents t.physicalName = w.contents t.physicalName

/-- No metric that exists is concerned. -/
structure Harmless (w w' : World) : Prop where
  /-- All metrics stay. -/
  metrics : ∀ id m, w.catalog.metric? id = some m → w'.catalog.metric? id = some m
  /-- No table is added or changed. -/
  tables : w'.catalog.tables = w.catalog.tables
  /-- Ids that were given out stay given out. -/
  issued : w.catalog.issued ≤ w'.catalog.issued
  /-- No row is added or removed. -/
  contents : w'.contents = w.contents
  /-- The sources of metrics go on to exist. -/
  attached : w.catalog.Attached → w'.catalog.Attached

namespace Harmless

theorem of_catalog (hcatalog : w'.catalog = w.catalog) (hcontents : w'.contents = w.contents) :
    Harmless w w' where
  metrics := by
    rw [hcatalog]
    exact fun _ _ h => h
  tables := by rw [hcatalog]
  issued := by rw [hcatalog]
  contents := hcontents
  attached := by
    rw [hcatalog]
    exact fun h => h

instance : Std.Refl Harmless := ⟨fun _ => of_catalog rfl rfl⟩

instance : IsTrans World Harmless where
  trans _ _ _ h h' :=
    { metrics := fun id m hm => h'.metrics id m (h.metrics id m hm)
      tables := h'.tables.trans h.tables
      issued := h.issued.trans h'.issued
      contents := h'.contents.trans h.contents
      attached := fun hw => h'.attached (h.attached hw) }

theorem sameFor (h : Harmless w w') (id s : String) : SameFor id s w w' where
  metric m hm _ := h.metrics id m hm
  tables := by rw [Catalog.tablesOf, Catalog.tablesOf, h.tables]
  rows t _ := by rw [h.contents]

theorem consistent (h : Harmless w w') (hw : w.catalog.Consistent) : w'.catalog.Consistent :=
  hw.of_subset (fun t ht => by rwa [h.tables] at ht) h.issued

end Harmless

end World

/-! ## Actions that add records or only read -/

namespace Action

open World

theorem onCatalog_harmless {update : Catalog → Moment → Outcome α × Catalog}
    (h : ∀ w : World, Harmless w { w with catalog := (update w.catalog w.now).2 }) :
    Keeps Harmless (onCatalog update) := h

theorem Keeps.harmless {x : Action α} (h : Keeps SameRecords x) : Keeps Harmless x :=
  fun w => .of_catalog (h w).catalog (h w).contents

theorem createSource_harmless (name : String) (description : Option String) (kindName : String) :
    Keeps Harmless (onCatalog fun c now => c.createSource now name description kindName) := by
  refine onCatalog_harmless fun w => ?_
  unfold Catalog.createSource
  split
  · exact refl w
  · split
    · exact refl w
    · exact
        { metrics := fun _ _ h => h
          tables := rfl
          issued := Nat.le_succ _
          contents := rfl
          attached := fun h => h.of_subset (fun _ hm => hm) fun _ => List.mem_append_left _ }

/-- A metric may be added when its source exists. -/
theorem withMetric_harmless {m : Metric} {w : World}
    (hm : ∀ s, m.sourceId = some s → s ≠ "" → (w.catalog.source? s).isSome) :
    Harmless w { w with catalog := w.catalog.withMetric m } := by
  refine ⟨fun id u hu => ?_, rfl, Nat.le_succ _, rfl, fun h u hu => ?_⟩
  · show List.find? _ (w.catalog.metrics ++ [m]) = some u
    rw [List.find?_append, show List.find? _ w.catalog.metrics = some u from hu, Option.some_or]
  · rcases List.mem_append.1 hu with hu | hu
    · exact h u hu
    · rw [List.mem_singleton.1 hu]
      exact hm

theorem createMetric_harmless (d : MetricDefinition) : Keeps Harmless (createMetric d) := by
  intro w
  have hresult := createMetric_result d w
  generalize createMetric d w = result at hresult ⊢
  cases hresult with
  | refused failure => exact refl w
  | added _ _ hsource hworld =>
    subst hworld
    exact withMetric_harmless hsource

end Action

/-! ## Actions that concern one source or one metric -/

/-- The result leaves all metrics and sources alone but those with the id `tag`; a failure that leaves
the rows alone leaves all of them alone. -/
structure Spares (tag : String) (w : World) (result : Outcome α × World) : Prop where
  /-- The sources of metrics go on to exist. -/
  attached : w.catalog.Attached → result.2.catalog.Attached
  /-- What success leaves alone. -/
  done : ∀ a, result.1 = .ok a → ∀ id s, id ≠ tag → s ≠ tag → w.SameFor id s result.2
  /-- What a failure leaves alone. -/
  failed : ∀ failure, result.1 = .error failure → result.2.contents = w.contents →
    ∀ id s, w.SameFor id s result.2

namespace Spares

variable {tag : String} {w w' : World}

/-- A failure that leaves metrics, sources and tables alone. -/
theorem of_error {failure : Failure} (hattached : w.catalog.Attached → w'.catalog.Attached)
    (hmetrics : w'.catalog.metrics = w.catalog.metrics)
    (htables : w'.catalog.tables = w.catalog.tables) :
    Spares tag w ((.error failure, w') : Outcome α × World) where
  attached := hattached
  done a h := by cases h
  failed _ _ hcontents id s :=
    { metric := fun m hm _ => by rwa [Catalog.metric?, hmetrics]
      tables := by rw [Catalog.tablesOf, Catalog.tablesOf, htables]
      rows := fun t _ => by rw [hcontents] }

theorem of_refused (failure : Failure) : Spares tag w ((.error failure, w) : Outcome α × World) :=
  of_error (fun h => h) rfl rfl

theorem of_brokenOff {failure : Failure} (h : w'.catalog = w.catalog) :
    Spares tag w ((.error failure, w') : Outcome α × World) := by
  refine of_error ?_ ?_ ?_ <;> rw [h]
  exact fun hw => hw

theorem of_ok {a : α} (hattached : w.catalog.Attached → w'.catalog.Attached)
    (h : ∀ id s, id ≠ tag → s ≠ tag → w.SameFor id s w') :
    Spares tag w ((.ok a, w') : Outcome α × World) where
  attached := hattached
  done _ _ := h
  failed _ hfailure := by cases hfailure

theorem of_nothing (a : α) : Spares tag w ((.ok a, w) : Outcome α × World) :=
  of_ok (fun h => h) fun id s _ _ => (refl w : World.Harmless w w).sameFor id s

end Spares

theorem deleteMetric_spares (id : String) (w : World) :
    Spares id w (Action.onCatalog (fun c _ => c.deleteMetric id) w) := by
  cases hfound : w.catalog.metric? id with
  | none =>
    have hrun : Action.onCatalog (fun c _ => c.deleteMetric id) w
        = (.error (.metricNotFound id), w) := by
      rw [Action.onCatalog_eq, Catalog.deleteMetric, hfound]
    rw [hrun]
    exact .of_refused _
  | some m =>
    have hok : (w.catalog.deleteMetric id).1 = .ok () := by
      rw [Catalog.deleteMetric, hfound]
    rw [Action.onCatalog_eq, hok]
    refine .of_ok (fun h => h.deleteMetric id) fun other s hother _ => ⟨fun m hm _ => ?_, ?_, ?_⟩
    · show (w.catalog.deleteMetric id).2.metric? other = some m
      rwa [Catalog.metric?_deleteMetric hother]
    · show (w.catalog.deleteMetric id).2.tablesOf s = _
      unfold Catalog.deleteMetric
      split <;> rfl
    · exact fun _ _ => rfl

theorem dropSource_spares {w : World} (hw : w.catalog.Consistent) (id : String) :
    Spares id w (Action.dropSource id w) := by
  have hresult := dropSource_result id w
  generalize Action.dropSource id w = result at hresult ⊢
  cases hresult with
  | refused failure => exact .of_refused failure
  | brokenOff hcatalog => exact .of_brokenOff hcatalog
  | dropped _ hcatalog hcontents =>
    refine .of_ok (fun h => hcatalog ▸ h.deleteSource id) fun other s _ hs => ⟨?_, ?_, ?_⟩
    · intro m hm hsource
      rw [hcatalog]
      exact Catalog.metric?_deleteSource hm hsource hs
    · rw [hcatalog]
      exact Catalog.tablesOf_deleteSource hs
    · intro t ht
      obtain ⟨ht, hsource⟩ := List.mem_filter.1 ht
      rw [hcontents, Contents.without, if_neg]
      rintro hgone
      -- a dropped table with this physical name would be this table
      obtain ⟨u, hu, hname⟩ := List.mem_map.1 hgone
      obtain ⟨hu, husource⟩ := List.mem_filter.1 hu
      rw [hw.physicals u hu t ht hname] at husource
      exact hs ((of_decide_eq_true hsource).symm.trans (of_decide_eq_true husource))

namespace Load

/-- A table of another source is not the one that a successful load writes to. -/
theorem target_ne {s : LoadSettings} {l : Load} {w w' : World} {u : DataTable}
    (hw : w.catalog.Consistent) (h : l.Result s w (.ok u, w')) {t : DataTable}
    (ht : t ∈ w.catalog.tables) (hsource : t.sourceId ≠ l.sourceId) :
    t.physicalName ≠ l.target w.catalog := by
  have hplace : ∀ u, w.catalog.table? l.sourceId l.name = some u →
      t.physicalName ≠ u.physicalName := by
    intro u hu hname
    obtain ⟨hu, husource, -⟩ := Catalog.table?_eq_some hu
    rw [hw.physicals t ht u hu hname] at hsource
    exact hsource husource
  cases h with
  | nothing hfound => exact target_some hfound ▸ hplace _ hfound
  | grown hfound => exact target_some hfound ▸ hplace _ hfound
  | created _ hnone hfree => exact target_none hnone ▸ hfree t ht

theorem run_spares (s : LoadSettings) (l : Load) {w : World} (hw : w.catalog.Consistent) :
    Spares l.sourceId w (l.run s w) := by
  have hresult := l.run_result s hw
  -- the rows of other sources stay, as no table of theirs is written to
  have hrows : ∀ {u w'}, l.Result s w (.ok u, w') → ∀ source, source ≠ l.sourceId →
      ∀ t ∈ w.catalog.tablesOf source, w'.contents t.physicalName = w.contents t.physicalName := by
    intro u w' h source hne t ht
    obtain ⟨ht, hsource⟩ := List.mem_filter.1 ht
    refine contents_other h (target_ne hw h ht ?_)
    rwa [of_decide_eq_true hsource]
  generalize l.run s w = result at hresult ⊢
  cases hresult with
  | refused failure => exact .of_refused failure
  | nothing => exact .of_nothing _
  | brokenOff _ hcatalog => exact .of_brokenOff hcatalog
  | stillborn _ _ hcatalog => exact .of_brokenOff hcatalog
  | collided _ _ _ hcatalog =>
    refine .of_error ?_ ?_ ?_ <;> rw [hcatalog]
    · exact fun h => h
    · rfl
    · rfl
  | @grown t w' ht hcatalog hcontents =>
    refine .of_ok ?_ fun id source _ hne =>
      ⟨?_, ?_, hrows (.grown ht hcatalog hcontents) source hne⟩ <;> rw [hcatalog]
    · exact fun h => h
    · exact fun m hm _ => hm
    · obtain ⟨hmem, hsource, -⟩ := Catalog.table?_eq_some ht
      have hsame : (l.grownTable t w.now).SamePlace t := ⟨rfl, rfl, rfl, rfl⟩
      exact Catalog.tablesOf_replaceTable hw hmem hsame (hsource ▸ hne)
  | @created schema w' hl hnone hfree hcatalog hcontents =>
    refine .of_ok ?_ fun id source _ hne =>
      ⟨?_, ?_, hrows (.created hl hnone hfree hcatalog hcontents) source hne⟩ <;> rw [hcatalog]
    · exact fun h => h
    · exact fun m hm _ => hm
    · rw [Catalog.tablesOf, List.filter_append]
      simp [newTable, hne.symm, Catalog.tablesOf]

end Load

end MetricLayer
