import MetricLayer.Proofs.Service.Unaffected

/-!
# References to data sources

A table refers to a data source, and so does a metric, unless it has none.  `Catalog.Referenced` says
that these sources exist, apart from blank references of metrics.  Removing a source removes its tables
and takes the reference from its metrics, so nothing is left behind (`Referenced.deleteSource`), and
tables are only added to sources that exist (`Referenced.load`).
-/

namespace MetricLayer

namespace Catalog

/-- Tables and metrics refer to sources that exist, but for the metrics that refer to the blank id,
which is the id of no source: of these `blank` holds. -/
structure Referenced (blank : Metric → Prop) (c : Catalog) : Prop where
  /-- No source has the blank id. -/
  ids : ∀ source ∈ c.sources, source.id ≠ ""
  /-- The source of every table exists. -/
  tables : ∀ t ∈ c.tables, (c.source? t.sourceId).isSome
  /-- The source of every metric exists. -/
  attached : c.Attached
  /-- What is known of metrics on the blank id. -/
  blanks : ∀ m ∈ c.metrics, m.sourceId = some "" → blank m

namespace Referenced

variable {blank blank' : Metric → Prop} {c d : Catalog}

theorem mono (h : c.Referenced blank) (hblank : ∀ m, blank m → blank' m) : c.Referenced blank' :=
  ⟨h.ids, h.tables, h.attached, fun m hm hs => hblank m (h.blanks m hm hs)⟩

theorem empty : Referenced blank .empty := by
  refine ⟨?_, ?_, attached_empty, ?_⟩ <;> exact List.forall_mem_nil _

/-- A reference is to a source that exists exactly when it is not blank. -/
theorem source?_isSome_iff (h : c.Referenced blank) {m : Metric} (hm : m ∈ c.metrics) {s : String}
    (hs : m.sourceId = some s) : (c.source? s).isSome ↔ s ≠ "" := by
  refine ⟨?_, h.attached m hm s hs⟩
  rintro hsome rfl
  obtain ⟨source, hsource, hid⟩ := source?_isSome.1 hsome
  exact h.ids source hsource hid

/-- Other metrics, about which as much is known. -/
theorem of_metrics (h : c.Referenced blank) (hsources : d.sources = c.sources)
    (htables : d.tables = c.tables) (hmetrics : ∀ m ∈ d.metrics, m ∈ c.metrics) :
    d.Referenced blank where
  ids := hsources ▸ h.ids
  tables t ht := by
    rw [source?, hsources]
    exact h.tables t (htables ▸ ht)
  attached := h.attached.of_subset hmetrics fun _ hsource => hsources ▸ hsource
  blanks m hm := h.blanks m (hmetrics m hm)

theorem deleteMetric (h : c.Referenced blank) (id : String) :
    (c.deleteMetric id).2.Referenced blank := by
  unfold Catalog.deleteMetric
  split
  · exact h
  · exact h.of_metrics rfl rfl fun m hm => List.mem_of_mem_filter hm

/-- More sources break no reference. -/
theorem createSource (h : c.Referenced blank) (now : Moment) (name : String)
    (description : Option String) (kindName : String) :
    (c.createSource now name description kindName).2.Referenced blank := by
  unfold Catalog.createSource
  split
  · exact h
  · split
    · exact h
    · refine ⟨fun source hsource => ?_, fun t ht => ?_,
        h.attached.of_subset (fun _ hm => hm) fun _ => List.mem_append_left _, h.blanks⟩
      · rcases List.mem_append.1 hsource with hsource | hsource
        · exact h.ids source hsource
        · rw [List.mem_singleton.1 hsource]
          exact recordId_ne_blank _
      · obtain ⟨source, hsource, hid⟩ := source?_isSome.1 (h.tables t ht)
        exact source?_isSome.2 ⟨source, List.mem_append_left _ hsource, hid⟩

/-- What referred to a removed source is gone or refers to no source. -/
theorem deleteSource (h : c.Referenced blank) (id : String) :
    (c.deleteSource id).2.Referenced blank := by
  have hattached := h.attached.deleteSource id
  unfold Catalog.deleteSource at hattached ⊢
  split
  · exact h
  · next hsource =>
    rw [hsource] at hattached
    refine ⟨fun source hmem => h.ids source (List.mem_of_mem_filter hmem), fun t ht => ?_,
      hattached, fun m hm hs => ?_⟩
    · obtain ⟨ht, hne⟩ := List.mem_filter.1 ht
      obtain ⟨source, hmem, hid⟩ := source?_isSome.1 (h.tables t ht)
      refine source?_isSome.2 ⟨source, List.mem_filter.2 ⟨hmem, ?_⟩, hid⟩
      rwa [hid]
    · obtain ⟨u, hu, rfl⟩ := List.mem_map.1 hm
      split at hs
      · cases hs
      · next hne =>
        rw [if_neg hne]
        exact h.blanks u hu hs

/-- A metric may be added on a source that exists, and on the blank id if `blank` holds of it. -/
theorem withMetric (h : c.Referenced blank) {m : Metric}
    (hsource : ∀ s, m.sourceId = some s → s ≠ "" → (c.source? s).isSome)
    (hblank : m.sourceId = some "" → blank m) : (c.withMetric m).Referenced blank := by
  refine ⟨h.ids, h.tables, fun u hu => ?_, fun u hu => ?_⟩
  · rcases List.mem_append.1 hu with hu | hu
    · exact h.attached u hu
    · exact List.mem_singleton.1 hu ▸ hsource
  · rcases List.mem_append.1 hu with hu | hu
    · exact h.blanks u hu
    · exact List.mem_singleton.1 hu ▸ hblank

/-- A load adds tables to sources that exist. -/
theorem load {s : LoadSettings} {l : Load} {w : World} (h : w.catalog.Referenced blank)
    (hsource : ∀ schema, l = .create l.sourceId l.name schema l.rows →
      (w.catalog.source? l.sourceId).isSome)
    {result : Outcome DataTable × World} (hresult : l.Result s w result) :
    result.2.catalog.Referenced blank := by
  cases hresult with
  | refused => exact h
  | nothing => exact h
  | brokenOff _ hcatalog => exact hcatalog ▸ h
  | stillborn _ _ hcatalog => exact hcatalog ▸ h
  | collided _ _ _ hcatalog => exact hcatalog ▸ ⟨h.ids, h.tables, h.attached, h.blanks⟩
  | @grown t w' ht hcatalog =>
    rw [hcatalog]
    refine ⟨h.ids, fun u hu => ?_, h.attached, h.blanks⟩
    have hid : (l.grownTable t w.now).id = t.id := rfl
    rcases mem_replaceTable hid hu with rfl | ⟨hu, -⟩
    · exact h.tables t (table?_eq_some ht).1
    · exact h.tables u hu
  | created hl _ _ hcatalog =>
    rw [hcatalog]
    refine ⟨h.ids, fun u hu => ?_, h.attached, h.blanks⟩
    rcases List.mem_append.1 hu with hu | hu
    · exact h.tables u hu
    · rw [List.mem_singleton.1 hu]
      exact hsource _ hl

end Referenced

end Catalog

end MetricLayer
