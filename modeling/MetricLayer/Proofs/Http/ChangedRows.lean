import MetricLayer.Proofs.Http.Transparency
import MetricLayer.Proofs.Service.StoredMetrics
import MetricLayer.Proofs.Value.AsJson

/-!
# Cached rows after a change

A request that changes the rows of a data source drops what is cached for the metrics of that
source, if it succeeds.  So whoever runs such a metric after that and finds rows in the cache finds
rows that were queried after the change (`rows_queried_after_change`).

The proof follows the entries of the cache through a run: each was there at the start or was stored
by a request, and it stays tagged with its metric and the source of that (`Traced`).  Requests that
fail are no exception (`serve_keeps`).  But a request that fails after its first statements for the
warehouse drops nothing, and what was cached before it is found after it
(`CountedOrders.brokenLoad_stale`).
-/

namespace MetricLayer

/-- The metric `id` is on the source `s`. -/
def Catalog.IsOn (c : Catalog) (id s : String) : Prop :=
  ∃ m, c.metric? id = some m ∧ m.sourceId = some s

theorem Catalog.IsOn.unique {c : Catalog} {id s s' : String} (h : c.IsOn id s)
    (h' : c.IsOn id s') : s = s' := by
  obtain ⟨m, hm, hs⟩ := h
  obtain ⟨m', hm', hs'⟩ := h'
  rw [hm] at hm'
  cases hm'
  exact Option.some.inj (hs.symm.trans hs')

theorem Catalog.IsOn.of_metrics {c d : Catalog} {id s : String} (h : c.IsOn id s)
    (hmetrics : d.metrics = c.metrics) : d.IsOn id s := by
  obtain ⟨m, hm, hs⟩ := h
  exact ⟨m, by rwa [metric?, hmetrics], hs⟩

/-- The rows of a table of the source are not what they were. -/
def World.RowsChanged (s : String) (w w' : World) : Prop :=
  ∃ t ∈ w.catalog.tablesOf s ++ w'.catalog.tablesOf s,
    w'.contents t.physicalName ≠ w.contents t.physicalName

theorem World.SameFor.not_rowsChanged {id s : String} {w w' : World} (h : w.SameFor id s w') :
    ¬w.RowsChanged s w' := by
  rintro ⟨t, ht, hne⟩
  rw [h.tables, List.mem_append, or_self] at ht
  exact hne (h.rows t ht)

namespace Http

open MetricLayer.Action

open World (Harmless Steps)

/-! ## What leaves metrics alone -/

/-- The creation of a table leaves all metrics alone. -/
theorem createFor_sameMetrics (sourceId : String) (b : TableBody) :
    Keeps World.SameMetrics (App.createFor sourceId b) := by
  intro w
  rcases App.createFor_cases sourceId b w with ⟨failure, h⟩ | ⟨-, schema, h⟩ <;> rw [h]
  · exact refl w
  · exact Load.run_sameMetrics App.loading _ w

/-- A removal that fails leaves all metrics alone. -/
theorem sameMetrics_of_failed_drop {id : String} {w : World} {failure : Failure}
    (h : (dropSource id w).1 = .error failure) : w.SameMetrics (dropSource id w).2 := by
  have hresult := dropSource_result id w
  generalize dropSource id w = result at h hresult ⊢
  cases hresult with
  | refused => exact refl w
  | brokenOff hcatalog => exact congrArg Catalog.metrics hcatalog
  | dropped => cases h

/-! ## What a request leaves in the cache -/

/-- An entry of the cache under its key. -/
abbrev Entry := String × CacheEntry Seconds Rows

/-- The entry is tagged with a metric and the source that the metric is on. -/
def Labels (c : Catalog) (id : String) (p : Entry) : Prop :=
  id ∈ p.2.tags ∧ ∃ s ∈ p.2.tags, c.IsOn id s

namespace App

variable {α : Type} {a a' : App} {r : Request}

/-- No entry is new, and what an entry is about is still there. -/
structure Keeps (a a' : App) : Prop where
  /-- The catalog keeps its promises. -/
  consistent : a'.world.catalog.Consistent
  /-- Each entry was there before and has kept its metric. -/
  entries : ∀ p ∈ a'.cache.entries, p ∈ a.cache.entries
    ∧ ∀ id, Labels a.world.catalog id p → Labels a'.world.catalog id p

theorem Follows.keeps (h : Follows a a') : Keeps a a' where
  consistent := h.consistent
  entries := by
    intro p hp
    obtain ⟨hold, hsame⟩ := h.entries p hp
    refine ⟨hold, ?_⟩
    rintro id ⟨hid, s, hs, m, hm, hsource⟩
    exact ⟨hid, s, hs, m, (hsame id hid s hs).metric m hm hsource, hsource⟩

theorem Keeps.of_metrics (hconsistent : a'.world.catalog.Consistent)
    (hentries : ∀ p ∈ a'.cache.entries, p ∈ a.cache.entries)
    (hmetrics : a'.world.catalog.metrics = a.world.catalog.metrics) : Keeps a a' where
  consistent := hconsistent
  entries := by
    intro p hp
    refine ⟨hentries p hp, ?_⟩
    rintro id ⟨hid, s, hs, hon⟩
    exact ⟨hid, s, hs, hon.of_metrics hmetrics⟩

/-- What a change does, by the outcome of its action. -/
theorem change_eq (a : App) (tag : String) (action : Action α) (success : α → Response) :
    a.change tag action success = (respond (action a.world).1 success,
      dropping tag ((action a.world).1 matches .ok _) { a with world := (action a.world).2 }) := rfl

theorem reading_keeps (ha : a.world.catalog.Consistent) (input : Checked α)
    {next : α → Response × App} (h : ∀ v, Keeps a (next v).2) :
    Keeps a (a.reading input next).2 := by
  cases input with
  | valid v => exact h v
  | invalid issues => exact (follows_self ha).keeps

/-- What succeeds follows, and what fails leaves the cache and all metrics alone. -/
theorem change_keeps {tag : String} {action : Action α}
    (hconsistent : (action a.world).2.catalog.Consistent)
    (hspares : Spares tag a.world (action a.world))
    (hfailed : ∀ failure, (action a.world).1 = .error failure →
      a.world.SameMetrics (action a.world).2) (success : α → Response)
    (hsuccess : ∀ v, (success v).status < 300) :
    Keeps a (a.change tag action success).2 := by
  rcases hrun : action a.world with ⟨failure | v, w'⟩
  · have hchange : (a.change tag action success).2 = { a with world := w' } := by
      unfold change perform
      rw [hrun]
      rfl
    rw [hrun] at hconsistent hfailed
    rw [hchange]
    exact .of_metrics hconsistent (fun _ hp => hp) (hfailed failure rfl)
  · refine (change_follows hconsistent hspares success (.inl ?_)).keeps
    unfold change perform
    rw [hrun]
    exact hsuccess v

/-- Requests that do not run a metric store nothing and leave what entries are about alone, whether
they succeed or fail. -/
theorem serve_keeps (ha : a.world.catalog.Consistent) {e : Endpoint}
    (he : ∀ id, e ≠ .runMetric id) : Keeps a (a.serve r e).2 := by
  by_cases hchanges : e.changesRows = true
  · cases e with
    | deleteSource id =>
      exact change_keeps (Steps.consistent (dropSource_steps id a.world) ha)
        (dropSource_spares ha id) (fun _ => sameMetrics_of_failed_drop) _
        fun _ => (by decide : 204 < 300)
    | createTable id =>
      refine reading_keeps ha _ fun b => ?_
      exact change_keeps (createFor_consistent ha id b) (createFor_spares ha id b)
        (fun _ _ => createFor_sameMetrics id b a.world) _ fun _ => (by decide : 201 < 300)
    | appendRows id table =>
      refine reading_keeps ha _ fun rows => ?_
      exact change_keeps (Steps.consistent (append_steps loading id table rows a.world) ha)
        (Load.run_spares loading (.append id table rows) ha)
        (fun _ _ => Load.run_sameMetrics loading (.append id table rows) a.world) _
        fun _ => (by decide : 200 < 300)
    | _ => cases hchanges
  · exact (serve_follows ha he fun h => absurd h hchanges).keeps

/-- If the request succeeds and changes the rows of the source, then nothing is cached for the
source after it. -/
def Drops (s : String) (a : App) (result : Response × App) : Prop :=
  result.1.status < 300 → a.world.RowsChanged s result.2.world →
    ∀ p ∈ result.2.cache.entries, s ∉ p.2.tags

theorem reading_drops {s : String} (input : Checked α) {next : α → Response × App}
    (h : ∀ v, Drops s a (next v)) : Drops s a (a.reading input next) := by
  cases input with
  | valid v => exact h v
  | invalid issues =>
    intro _ hrows
    exact absurd hrows ((refl a.world : Harmless a.world a.world).sameFor s s).not_rowsChanged

theorem change_drops {tag : String} {action : Action α} (s : String)
    (hspares : Spares tag a.world (action a.world)) (success : α → Response) :
    Drops s a (a.change tag action success) := by
  intro hstatus hrows
  unfold change perform at hstatus hrows ⊢
  rcases hrun : action a.world with ⟨failure | v, w'⟩ <;> rw [hrun] at hspares hstatus hrows
  · exact absurd hstatus (Nat.not_lt.2 (Response.ofFailure_status failure))
  · intro p hp
    obtain ⟨-, htag⟩ := ResultCache.mem_invalidateTag.1 hp
    -- the rows of all other sources are what they were
    by_cases hs : s = tag
    · rwa [hs]
    · exact absurd hrows (hspares.done v rfl s s hs hs).not_rowsChanged

theorem serve_drops (ha : a.world.catalog.Consistent) {e : Endpoint} (he : e.changesRows = true)
    (s : String) : Drops s a (a.serve r e) := by
  cases e with
  | deleteSource id => exact change_drops s (dropSource_spares ha id) _
  | createTable id =>
    exact reading_drops _ fun b => change_drops s (createFor_spares ha id b) _
  | appendRows id table =>
    exact reading_drops _ fun rows =>
      change_drops s (Load.run_spares loading (.append id table rows) ha) _
  | _ => cases he

end App

/-! ## Where entries come from -/

namespace Exchange

/-- The request runs the metric, does not find its rows in the cache and puts them there as the
entry. -/
structure Stores (e : Exchange) (id : String) (b : RunBody) (p : Entry) : Prop where
  /-- It runs the metric. -/
  runs : e.RunsMetric id b
  /-- It finds nothing in the cache. -/
  missed : e.found id b = none
  /-- The rows of the entry are fresh. -/
  fresh : e.fresh id b = .ok p.2.value
  /-- The key of the entry is that of the request. -/
  key : p.1 = (e.asked id b).value.digest

end Exchange

section Change

variable {α : Type} {e : Exchange} {tag : String} {action : Action α} {success : α → Response}
  (h : e.before.handle e.request = e.before.change tag action success)

include h

theorem Exchange.response_of_change :
    e.response = App.respond (action e.before.world).1 success := by
  unfold response
  rw [h, App.change_eq]

theorem Exchange.world_of_change : e.after.world = (action e.before.world).2 := by
  unfold after
  rw [h, App.change_eq, App.dropping]
  split <;> rfl

/-- A change leaves the settings and the clock as they are. -/
theorem Exchange.settings_of_change : e.after.policy = e.before.policy
    ∧ e.after.clock = e.before.clock ∧ e.after.cache.ttl = e.before.cache.ttl := by
  unfold after
  rw [h, App.change_eq, App.dropping]
  split <;> exact ⟨rfl, rfl, rfl⟩

/-- A change that fails drops nothing. -/
theorem Exchange.cache_of_failed_change {failure : Failure} {w : World}
    (hrun : action e.before.world = (.error failure, w)) : e.after.cache = e.before.cache := by
  unfold after
  rw [h, App.change_eq, hrun]
  rfl

end Change

/-- What is in the cache after some requests was there before or was stored by one of them, and it
is about a metric that is still there. -/
structure Traced (log : List Exchange) (a a' : App) : Prop where
  /-- The catalog keeps its promises. -/
  consistent : a'.world.catalog.Consistent
  /-- Where an entry comes from. -/
  entries : ∀ p ∈ a'.cache.entries,
    (p ∈ a.cache.entries ∧ ∀ id, Labels a.world.catalog id p → Labels a'.world.catalog id p)
    ∨ ∃ g ∈ log, ∃ id b, g.Stores id b p ∧ Labels a'.world.catalog id p

namespace Traced

variable {a a' a'' : App} {log log' : List Exchange}

theorem of_keeps (h : a.Keeps a') : Traced [] a a' :=
  ⟨h.consistent, fun p hp => .inl (h.entries p hp)⟩

theorem mono (h : Traced log a a') (hsub : ∀ e ∈ log, e ∈ log') : Traced log' a a' := by
  refine ⟨h.consistent, ?_⟩
  intro p hp
  rcases h.entries p hp with hold | ⟨g, hg, hstores⟩
  · exact .inl hold
  · exact .inr ⟨g, hsub g hg, hstores⟩

theorem trans (h : Traced log a a') (h' : Traced log' a' a'') : Traced (log ++ log') a a'' := by
  refine ⟨h'.consistent, ?_⟩
  intro p hp
  rcases h'.entries p hp with ⟨hold, hkept⟩ | ⟨g, hg, hstores⟩
  · rcases h.entries p hold with ⟨hstart, hlabels⟩ | ⟨g, hg, id, b, hstores, hlabels⟩
    · exact .inl ⟨hstart, fun id hid => hkept id (hlabels id hid)⟩
    · exact .inr ⟨g, List.mem_append_left _ hg, id, b, hstores, hkept id hlabels⟩
  · exact .inr ⟨g, List.mem_append_right _ hg, hstores⟩

end Traced

namespace Exchange

variable {e : Exchange} {id : String} {b : RunBody}

/-- Fresh rows are tagged with the metric and the source that it is on. -/
theorem RunsMetric.labels (h : e.RunsMetric id b) {m : Metric} {rows : Rows} {world : World}
    (hrun : runMetric id (e.asked id b).run e.before.world = (.ok rows, world))
    (hm : e.before.world.catalog.metric? id = some m) {p : Entry}
    (htags : p.2.tags = ([some m.id, m.sourceId].filterMap fun t => t).filter (· ≠ "")) :
    Labels e.before.world.catalog id p := by
  rcases runMetric_cases id (e.asked id b).run e.before.world with
    ⟨failure, herror⟩ | ⟨s, sql, ⟨m', t, hm', hs, hne, -⟩, -⟩
  · rw [hrun] at herror
    cases herror
  · rw [hm] at hm'
    cases hm'
    have hid : m.id = id := (Catalog.metric?_eq_some hm).2
    have hnamed : id ≠ "" := Route.runMetric_ne h.1
    have hall : p.2.tags = [id, s] := by
      rw [htags, hs, hid]
      simp [hnamed, hne]
    refine ⟨?_, s, ?_, m, hm, hs⟩ <;> rw [hall] <;> simp

theorem RunsMetric.traced (h : e.RunsMetric id b) (he : e.before.world.catalog.Consistent) :
    Traced [e] e.before e.after := by
  have hharmless := h.harmless
  refine ⟨hharmless.consistent he, ?_⟩
  have hkept : ∀ (id : String) (p : Entry), Labels e.before.world.catalog id p →
      Labels e.after.world.catalog id p := by
    rintro id p ⟨hid, s, hs, m, hm, hsource⟩
    exact ⟨hid, s, hs, m, hharmless.metrics id m hm, hsource⟩
  have hold : ∀ {found : Option Rows} {cache : ResultCache Seconds Rows},
      e.before.cache.get e.before.clock (e.asked id b).value.digest = (found, cache) →
        ∀ p ∈ cache.entries, p ∈ e.before.cache.entries := by
    intro found cache hget p hp
    have hmem : p ∈ (e.before.cache.get e.before.clock (e.asked id b).value.digest).2.entries := by
      rwa [hget]
    exact ResultCache.mem_get hmem
  intro p hp
  have hresult := h.result
  unfold after at hp hkept ⊢
  generalize e.before.handle e.request = result at hp hkept hresult ⊢
  cases hresult with
  | hit hget => exact .inl ⟨hold hget p hp, fun id => hkept id p⟩
  | failed hget => exact .inl ⟨hold hget p hp, fun id => hkept id p⟩
  | @fresh _ rows world m hget hrun hm =>
    rcases ResultCache.mem_put hp with hp | rfl
    · exact .inl ⟨hold hget p hp, fun id => hkept id p⟩
    · have hmiss : e.found id b = none := congrArg Prod.fst hget
      have hfresh : e.fresh id b = .ok rows := congrArg Prod.fst hrun
      exact .inr ⟨e, List.mem_singleton_self e, id, b, ⟨h, hmiss, hfresh, rfl⟩,
        hkept id _ (h.labels hrun hm rfl)⟩

theorem traced (he : e.before.world.catalog.Consistent) : Traced [e] e.before e.after := by
  rcases e.handle_cases with ⟨id, b, hruns⟩ | hsame | ⟨endpoint, hrun, -, hhandle⟩
  · exact hruns.traced he
  · rw [hsame]
    exact (Traced.of_keeps (App.follows_self he).keeps).mono (List.forall_mem_nil _)
  · have hkeeps : e.before.Keeps e.after := by
      unfold after
      rw [hhandle]
      exact App.serve_keeps he hrun
    exact (Traced.of_keeps hkeeps).mono (List.forall_mem_nil _)

/-- A load or a removal that succeeds leaves nothing in the cache for a source whose rows it
changed. -/
theorem drops (he : e.before.world.catalog.Consistent) (hchanges : e.ChangesRows)
    (hsuccess : e.response.status < 300) {s : String}
    (hrows : e.before.world.RowsChanged s e.after.world) :
    ∀ p ∈ e.after.cache.entries, s ∉ p.2.tags := by
  obtain ⟨endpoint, hroute, hendpoint⟩ := hchanges
  have hhandle : e.before.handle e.request = e.before.serve e.request endpoint := by
    unfold App.handle
    rw [hroute]
  unfold response at hsuccess
  unfold after at hrows ⊢
  rw [hhandle] at hsuccess hrows ⊢
  exact App.serve_drops he hendpoint s hsuccess hrows

end Exchange

theorem Run.traced {start a : App} {log : List Exchange} (hrun : Run start log a)
    (hstart : start.world.catalog.Consistent) : Traced log start a := by
  induction hrun with
  | start => exact .of_keeps (App.follows_self hstart).keeps
  | @request log a _ r ih => exact ih.trans (Exchange.traced (e := ⟨a, r⟩) ih.consistent)
  | @outside log a _ clock now warehouse hsame ih =>
    exact ⟨ih.consistent, ih.entries⟩

/-- In a run of the service from its start, a load or a removal succeeds and changes the rows of a
data source.  When a metric that is on this source, then or later, is run after that and its rows
are found in the cache, then they were queried by a request that came after the change, and for the
same text, provided that no two texts that are hashed have the same digest. -/
theorem rows_queried_after_change {start : App} {before between : List Exchange} {e f : Exchange}
    (hbefore : Run start before e.before) (hnew : start.IsNew)
    (hafter : Run e.after between f.before)
    (hinj : Set.InjOn sha256Hex (hashedTexts (before ++ e :: (between ++ [f]))))
    (hchanges : e.ChangesRows) (hsuccess : e.response.status < 300) {s : String}
    (hrows : e.before.world.RowsChanged s e.after.world) {id : String} {b : RunBody}
    (hruns : f.RunsMetric id b)
    (hon : e.before.world.catalog.IsOn id s ∨ f.before.world.catalog.IsOn id s) {rows : Rows}
    (hfound : f.found id b = some rows) :
    ∃ g ∈ between, ∃ c, g.RunsMetric id c ∧ g.found id c = none ∧ g.fresh id c = .ok rows
      ∧ (g.asked id c).value.canonical = (f.asked id b).value.canonical := by
  have hfirst := hbefore.traced (hnew.catalog ▸ Catalog.consistent_empty)
  have hchange := e.traced hfirst.consistent
  have hlast := hafter.traced hchange.consistent
  obtain ⟨entry, hentry, rfl⟩ := ResultCache.exists_of_get (Prod.ext hfound rfl)
  -- whoever stored the entry asked with the same text, hence for the same metric
  have hsame : ∀ g ∈ before ++ between, ∀ id' c,
      g.Stores id' c ((f.asked id b).value.digest, entry) →
        (g.asked id' c).value.canonical = (f.asked id b).value.canonical ∧ id' = id := by
    intro g hg id' c hstores
    have hlog : g ∈ before ++ e :: (between ++ [f]) := by
      rcases List.mem_append.1 hg with hg | hg <;> simp [hg]
    have htext : (g.asked id' c).value.canonical = (f.asked id b).value.canonical :=
      hinj (hstores.runs.text_mem hlog) (hruns.text_mem (by simp)) hstores.key.symm
    exact ⟨htext, ResultRequest.metricId_of_canonical_eq htext⟩
  rcases hlast.entries _ hentry with ⟨hold, hkept⟩ | ⟨g, hg, id', c, hstores, -⟩
  · exfalso
    have hdropped := e.drops hfirst.consistent hchanges hsuccess hrows _ hold
    rcases hchange.entries _ hold with ⟨hold, hkept'⟩ | ⟨g, hg, id', c, hstores, -⟩
    · rcases hfirst.entries _ hold with ⟨hstart, -⟩ | ⟨g, hg, id', c, hstores, hlabels⟩
      · rw [hnew.entries] at hstart
        cases hstart
      · obtain ⟨-, rfl⟩ := hsame g (List.mem_append_left _ hg) id' c hstores
        rcases hon with hon | hon
        · obtain ⟨-, s', hs', hon'⟩ := hlabels
          exact hdropped (hon.unique hon' ▸ hs')
        · obtain ⟨-, s', hs', hon'⟩ := hkept _ (hkept' _ hlabels)
          exact hdropped (hon.unique hon' ▸ hs')
    · rw [List.mem_singleton.1 hg] at hstores
      exact hstores.runs.not_changesRows hchanges
  · obtain ⟨htext, rfl⟩ := hsame g (List.mem_append_right _ hg) id' c hstores
    exact ⟨g, hg, c, hstores.runs, hstores.missed, hstores.fresh, htext⟩

/-! ## Loads after a run

The orders of `CountedOrders` were counted, and their number is in the cache, when a load comes. -/

namespace CountedOrders

/-! ### Orders that are added -/

/-- An order from a region. -/
def regionRow (name : String) : Row := [("region", .text name)]

/-- Adds orders from these regions. -/
def appendOrders (names : List String) : Request :=
  posted ("/data-sources/" ++ salesId ++ "/tables/orders/rows") []
    [("rows", .list ((names.map regionRow).map .object))]

/-- The world after the orders were written, but not counted. -/
def withOrders (w : World) (names : List String) (sql : String) : World :=
  let change := Change.insert orders.physicalName ["region"] (names.map regionRow)
  { w with warehouse := w.warehouse.record (.committed change sql) }

theorem route_appendOrders (names : List String) :
    Route.find (appendOrders names).method (appendOrders names).path
      = .endpoint (.appendRows salesId "orders") := by
  exact routes.2.2.2.1

theorem handle_appendOrders (a : App) (names : List String) : a.handle (appendOrders names)
    = a.change salesId (Action.append App.loading salesId "orders" (names.map regionRow))
      fun t => .ok t.toValue := by
  have hbody : readBody (appendOrders names) readUpload = .valid (names.map regionRow) := by
    have hread : ∀ row : Row, Reader.fields (.object row) = .valid row := fun _ => rfl
    have hitems := Reader.items_map hread 0 (names.map regionRow)
    show (((Reader.items Reader.fields 0 _).under (.field "rows")).under (.field "body")) = _
    rw [hitems]
    rfl
  unfold App.handle
  rw [route_appendOrders]
  show a.appendRows (appendOrders names) salesId "orders" = _
  unfold App.appendRows
  rw [hbody]
  rfl

section Orders

variable {w : World} {names : List String}

/-- Orders fit the schema of their table. -/
theorem append_orders (ht : w.catalog.table? salesId "orders" = some orders) :
    Action.append App.loading salesId "orders" (names.map regionRow) w
      = Action.extend App.loading orders (names.map regionRow) w := by
  refine append_eq_extend ht (checkRows_isValid ?_)
  intro c hc row hrow i
  obtain ⟨name, -, rfl⟩ := List.mem_map.1 hrow
  rw [List.mem_singleton.1 hc]
  rfl

/-- Orders are stored as they are. -/
theorem conform_orders :
    (names.map regionRow).map (conformRow orders.schema) = names.map regionRow := by
  rw [List.map_map]
  rfl

/-- Orders from regions without NULs can be written. -/
theorem render_orders (hne : names ≠ []) (hnames : ∀ name ∈ names, holdsNul name = false) :
    Succeeds (Change.insert orders.physicalName ["region"] (names.map regionRow)).render := by
  have hrows : ¬(names.map regionRow).isEmpty = true := by simpa using hne
  have htuples : Succeeds ((names.map regionRow).mapM (rowTuple ["region"])) := by
    rw [succeeds_mapM]
    intro row hrow
    obtain ⟨name, hname, rfl⟩ := List.mem_map.1 hrow
    have htext : sqlLiteral ((regionRow name).cell "region") = .ok (enclosed '\'' name) :=
      if_neg (by simp [hnames name hname])
    unfold rowTuple
    rw [List.mapM_cons, htext]
    exact ⟨_, rfl⟩
  obtain ⟨tuples, htuples⟩ := htuples
  rw [Change.render, insertStatement, if_neg hrows, htuples]
  exact ⟨_, rfl⟩

theorem insert_orders (hfault : w.warehouse.faultIn = 0) (hne : names ≠ [])
    (hnames : ∀ name ∈ names, holdsNul name = false) :
    ∃ sql, onWarehouse (fun w => w.insert orders.physicalName ["region"] (names.map regionRow)) w
      = (.ok (), withOrders w names sql) := by
  obtain ⟨sql, hsql⟩ := render_orders hne hnames
  refine ⟨sql, ?_⟩
  have hinsert : w.warehouse.insert orders.physicalName ["region"] (names.map regionRow)
      = (.ok (), (withOrders w names sql).warehouse) := by
    rw [Warehouse.insert, if_neg (by simpa using hne), Warehouse.apply_of_render hsql hfault]
    rfl
  exact congrArg (fun r => (r.1, { w with warehouse := r.2 })) hinsert

/-- Orders that are written change the rows of the source. -/
theorem rowsChanged_orders {w' : World} {sql : String} {rows : List Row} (hne : names ≠ [])
    (ht : w.catalog.table? salesId "orders" = some orders)
    (hrows : w.contents orders.physicalName = some rows)
    (hafter : w'.contents = (withOrders w names sql).contents) : w.RowsChanged salesId w' := by
  obtain ⟨hmem, hsource, -⟩ := Catalog.table?_eq_some ht
  have htable : orders ∈ w.catalog.tablesOf salesId :=
    List.mem_filter.2 ⟨hmem, decide_eq_true hsource⟩
  have hwritten : (withOrders w names sql).contents orders.physicalName
      = (w.contents orders.physicalName).map (· ++ names.map regionRow) := by
    show (w.warehouse.record _).contents _ = _
    rw [Warehouse.contents_record_committed, Change.target, Function.update_self]
    rfl
  refine ⟨orders, List.mem_append_left _ htable, ?_⟩
  rw [hafter, hwritten, hrows]
  simpa using hne

end Orders

/-! ### The requests around the load -/

/-- The metric is run for the first time, by a caller without restrictions. -/
abbrev firstCount : Exchange := firstRun .unrestricted (runCount [] [])

/-- The requests before the load. -/
def beforeLoad : List Exchange := creations .unrestricted ++ [firstCount]

/-- A load comes. -/
def loadOf (names : List String) : Exchange := ⟨answering firstCount.after 0, appendOrders names⟩

/-- The metric is run again, and its query would have the answer `n`. -/
def countAfter (e : Exchange) (n : Int) : Exchange := ⟨answering e.after n, runCount [] []⟩

/-- The request is for the number of all orders, from a caller without restrictions. -/
def Counts (e : Exchange) : Prop :=
  e.RunsMetric countId everything ∧ e.asked countId everything = countAll

theorem counts_runCount {a : App} (hpolicy : a.policy = .unrestricted) :
    Counts ⟨a, runCount [] []⟩ := by
  refine ⟨runCount_runsMetric a [] [], ?_⟩
  unfold Exchange.asked App.resultRequest
  rw [hpolicy]
  rfl

theorem firstCount_counts : Counts firstCount := counts_runCount rfl

/-- One text is hashed if all who run a metric ask for the number of all orders. -/
theorem injOn_of_counts {log : List Exchange}
    (h : ∀ e ∈ log, (∀ id b, ¬e.RunsMetric id b) ∨ Counts e) :
    Set.InjOn sha256Hex (hashedTexts log) := by
  refine (Set.injOn_singleton _ countAll.value.canonical).mono ?_
  rintro _ ⟨e, he, id, b, hruns, rfl⟩
  rcases h e he with hnone | ⟨hcount, hasked⟩
  · exact absurd hruns (hnone id b)
  · obtain ⟨rfl, rfl⟩ := hcount.unique hruns
    rw [hasked]
    rfl

theorem beforeLoad_counts : ∀ e ∈ beforeLoad, (∀ id b, ¬e.RunsMetric id b) ∨ Counts e := by
  intro e he
  rcases List.mem_append.1 he with he | he
  · exact .inl (creations_harmless e he).2.2
  · rw [List.mem_singleton.1 he]
    exact .inr firstCount_counts

/-- The first run counted no orders. -/
theorem firstCount_fresh : firstCount.fresh countId everything = .ok (numberRows 0) := by
  have hasks := asks_countAll
  rw [← firstCount_counts.2] at hasks
  exact firstRun_fresh hasks

section Load

variable (names : List String)

theorem before_loadOf : (loadOf names).before = answering firstCount.after 0 := rfl

theorem run_beforeLoad : Run (started .unrestricted) beforeLoad (loadOf names).before := by
  have hfirst : Run (started .unrestricted) (creations .unrestricted) firstCount.before :=
    run_answering (run_creations .unrestricted) 0
  rw [before_loadOf]
  exact run_answering (Run.exchange (e := firstCount) hfirst) 0

theorem loadOf_harmless : Harmless worldOfCount (loadOf names).before.world := by
  have hfirst := answering_harmless (serviceIn worldOfCount .unrestricted) 0
  have hafter := IsTrans.trans _ _ _ hfirst firstCount_counts.1.harmless
  rw [before_loadOf]
  exact IsTrans.trans _ _ _ hafter (answering_harmless _ 0)

theorem loadOf_tables : (loadOf names).before.world.catalog.tables = [orders] :=
  (loadOf_harmless names).tables

theorem loadOf_table :
    (loadOf names).before.world.catalog.table? salesId "orders" = some orders := by
  rw [Catalog.table?, loadOf_tables]
  rfl

theorem loadOf_metric :
    (loadOf names).before.world.catalog.metric? countId = some orderCount :=
  (loadOf_harmless names).metrics countId orderCount rfl

theorem loadOf_isOn : (loadOf names).before.world.catalog.IsOn countId salesId :=
  ⟨orderCount, loadOf_metric names, rfl⟩

theorem loadOf_contents :
    ∃ rows, (loadOf names).before.world.contents orders.physicalName = some rows := by
  rw [(loadOf_harmless names).contents]
  exact Option.isSome_iff_exists.1 orders_created.2.2.2.2.2.2

theorem loadOf_faultIn : (loadOf names).before.world.warehouse.faultIn = 0 := by
  rw [before_loadOf]
  rfl

theorem loadOf_changesRows : (loadOf names).ChangesRows :=
  ⟨.appendRows salesId "orders", route_appendOrders names, rfl⟩

theorem loadOf_runs_nothing : ∀ id b, ¬(loadOf names).RunsMetric id b :=
  fun _ _ h => h.not_changesRows (loadOf_changesRows names)

theorem handle_loadOf : (loadOf names).before.handle (loadOf names).request
    = (loadOf names).before.change salesId
      (Action.append App.loading salesId "orders" (names.map regionRow)) fun t => .ok t.toValue :=
  handle_appendOrders (loadOf names).before names

theorem loadOf_settings : (loadOf names).after.policy = .unrestricted
    ∧ (loadOf names).after.clock = .whole 0 ∧ (loadOf names).after.cache.ttl = .whole 300 := by
  obtain ⟨hpolicy, hclock⟩ := firstCount_counts.1.settings
  have httl : firstCount.after.cache.ttl = firstCount.before.cache.ttl :=
    firstCount_counts.1.result.ttl
  obtain ⟨hpolicy', hclock', httl'⟩ := Exchange.settings_of_change (handle_loadOf names)
  rw [hpolicy', hclock', httl', before_loadOf, policy_answering, clock_answering, cache_answering,
    hpolicy, hclock, httl]
  exact ⟨rfl, rfl, rfl⟩

end Load

section Recount

variable {e : Exchange} {n : Int}

theorem before_countAfter (e : Exchange) (n : Int) :
    (countAfter e n).before = answering e.after n := rfl

theorem run_countAfter : Run e.after [] (countAfter e n).before := by
  rw [before_countAfter]
  exact run_answering .start n

theorem countAfter_counts (hpolicy : e.after.policy = .unrestricted) :
    Counts (countAfter e n) := by
  unfold countAfter
  exact counts_runCount ((policy_answering e.after n).trans hpolicy)

theorem countAfter_fresh (hpolicy : e.after.policy = .unrestricted)
    (hasks : e.after.world.Asks countId salesId countAll.run countSql) :
    (countAfter e n).fresh countId everything = .ok (numberRows n) := by
  have hasks' : (countAfter e n).before.world.Asks countId salesId countAll.run countSql := by
    rw [before_countAfter]
    exact hasks.sameFor ((answering_harmless e.after n).sameFor countId salesId)
  rw [Exchange.fresh_eq, (countAfter_counts hpolicy).2, runMetric_of_asks hasks', before_countAfter]
  exact query_answering e.after n countSql

end Recount

/-! ### A load that succeeds -/

/-- The record of the table with one order. -/
def filledOrders (now : Moment) : DataTable := { orders with rowCount := 1, updatedAt := now }

/-- The world after one order was written and counted. -/
def withOneOrder (w : World) (sql : String) : World :=
  { withOrders w ["north"] sql with catalog := w.catalog.replaceTable (filledOrders w.now) }

section OneOrder

variable {w : World}

theorem append_whole (htables : w.catalog.tables = [orders]) (hfault : w.warehouse.faultIn = 0) :
    ∃ sql, Action.append App.loading salesId "orders" (["north"].map regionRow) w
      = (.ok (filledOrders w.now), withOneOrder w sql) := by
  obtain ⟨sql, hinsert⟩ : ∃ sql, onWarehouse (fun w => w.insert orders.physicalName ["region"]
      (["north"].map regionRow)) w = (.ok (), withOrders w ["north"] sql) :=
    insert_orders hfault (by simp) (by simp [holdsNul])
  refine ⟨sql, ?_⟩
  have ht : w.catalog.table? salesId "orders" = some orders := by
    rw [Catalog.table?, htables]
    rfl
  have hbatches : batches App.loading.batchSize (["north"].map regionRow)
      = [["north"].map regionRow] := chunks_one (by decide) (by simp) (by decide)
  have hwritten : Action.writeRows App.loading orders.physicalName orders.schema
      (["north"].map regionRow) w = (.ok (), withOrders w ["north"] sql) := by
    rw [Action.writeRows_eq (by decide), hbatches, List.map_singleton, conform_orders]
    exact bind_of_ok hinsert
  have hcounted : w.catalog.addRows w.now orders.id 1
      = (.ok (filledOrders w.now), w.catalog.replaceTable (filledOrders w.now)) := by
    rw [Catalog.addRows, htables]
    rfl
  rw [append_orders ht, Action.extend, if_neg (by simp)]
  refine (bind_of_ok hwritten).trans ?_
  exact congrArg (fun r => (r.1, { withOrders w ["north"] sql with catalog := r.2 })) hcounted

theorem asks_withOneOrder (sql : String) (htables : w.catalog.tables = [orders])
    (hmetric : w.catalog.metric? countId = some orderCount) :
    (withOneOrder w sql).Asks countId salesId countAll.run countSql := by
  refine ⟨orderCount, filledOrders w.now, hmetric, rfl, by decide, ?_, query_countAll⟩
  show ((w.catalog.replaceTable _).tablesOf salesId).head? = _
  rw [Catalog.tablesOf, Catalog.replaceTable, htables]
  rfl

end OneOrder

/-- A load of one order. -/
def wholeLoad : Exchange := loadOf ["north"]

/-- The order is counted after that. -/
def recount : Exchange := countAfter wholeLoad 1

/-- The number of orders is asked for again. -/
def recountAgain : Exchange := countAfter recount 1

theorem recount_counts : Counts recount := countAfter_counts (loadOf_settings ["north"]).1

theorem recountAgain_counts : Counts recountAgain := by
  refine countAfter_counts ?_
  rw [recount_counts.1.settings.1, recount, before_countAfter, policy_answering]
  exact (loadOf_settings ["north"]).1

theorem wholeLoad_done : ∃ sql, wholeLoad.after.world = withOneOrder wholeLoad.before.world sql
    ∧ wholeLoad.response.status = 200 := by
  obtain ⟨sql, happend⟩ := append_whole (loadOf_tables ["north"]) (loadOf_faultIn ["north"])
  refine ⟨sql, ?_, ?_⟩
  · rw [wholeLoad, Exchange.world_of_change (handle_loadOf ["north"]), happend]
  · rw [wholeLoad, Exchange.response_of_change (handle_loadOf ["north"]), happend]
    rfl

theorem recount_fresh : recount.fresh countId everything = .ok (numberRows 1) := by
  obtain ⟨sql, hworld, -⟩ := wholeLoad_done
  refine countAfter_fresh (loadOf_settings ["north"]).1 ?_
  rw [hworld]
  exact asks_withOneOrder sql (loadOf_tables ["north"]) (loadOf_metric ["north"])

theorem recountAgain_found (hmiss : recount.found countId everything = none) :
    recountAgain.found countId everything = some (numberRows 1) := by
  obtain ⟨-, hclock, httl⟩ := loadOf_settings ["north"]
  refine recount_counts.1.found_again hmiss recount_fresh ?_ ?_ ?_
  · rw [recountAgain, before_countAfter, cache_answering]
  · have hstart : recount.before.clock = .whole 0 := by
      rw [recount, before_countAfter, clock_answering]
      exact hclock
    have hkept : recount.before.cache.ttl = .whole 300 := by
      rw [recount, before_countAfter, cache_answering]
      exact httl
    rw [recountAgain, before_countAfter, clock_answering, recount_counts.1.settings.2, hstart, hkept]
    decide
  · rw [recount_counts.2, recountAgain_counts.2]

theorem wholeLoad_rowsChanged :
    wholeLoad.before.world.RowsChanged salesId wholeLoad.after.world := by
  obtain ⟨sql, hworld, -⟩ := wholeLoad_done
  obtain ⟨rows, hrows⟩ := loadOf_contents ["north"]
  rw [hworld]
  exact rowsChanged_orders (by simp) (loadOf_table ["north"]) hrows rfl

theorem recountAgain_queried_after : Run (started .unrestricted) beforeLoad wholeLoad.before
    ∧ (started .unrestricted).IsNew ∧ Run wholeLoad.after [recount] recountAgain.before
    ∧ Set.InjOn sha256Hex (hashedTexts (beforeLoad ++ wholeLoad :: ([recount] ++ [recountAgain])))
    ∧ wholeLoad.ChangesRows ∧ wholeLoad.response.status < 300
    ∧ wholeLoad.before.world.RowsChanged salesId wholeLoad.after.world
    ∧ recountAgain.RunsMetric countId everything
    ∧ wholeLoad.before.world.catalog.IsOn countId salesId
    ∧ recountAgain.found countId everything = some (numberRows 1)
    ∧ ∃ g ∈ [recount], ∃ c, g.RunsMetric countId c ∧ g.found countId c = none
      ∧ g.fresh countId c = .ok (numberRows 1)
      ∧ (g.asked countId c).value.canonical
        = (recountAgain.asked countId everything).value.canonical := by
  obtain ⟨sql, -, hstatus⟩ := wholeLoad_done
  have hnew : (started .unrestricted).IsNew := ⟨rfl, rfl, rfl⟩
  have hbefore : Run (started .unrestricted) beforeLoad wholeLoad.before := run_beforeLoad ["north"]
  have hchanges : wholeLoad.ChangesRows := loadOf_changesRows ["north"]
  have hsuccess : wholeLoad.response.status < 300 := by
    rw [hstatus]
    decide
  have hrows := wholeLoad_rowsChanged
  have hon : wholeLoad.before.world.catalog.IsOn countId salesId := loadOf_isOn ["north"]
  have hload : ∀ id b, ¬wholeLoad.RunsMetric id b := loadOf_runs_nothing ["north"]
  -- right after the load nothing is found
  have hnext : Run wholeLoad.after [] recount.before := run_countAfter
  have hmiss : recount.found countId everything = none := by
    cases hfound : recount.found countId everything with
    | none => rfl
    | some rows =>
      have hinj : Set.InjOn sha256Hex
          (hashedTexts (beforeLoad ++ wholeLoad :: ([] ++ [recount]))) := by
        refine injOn_of_counts (List.forall_mem_append.2 ⟨beforeLoad_counts, ?_⟩)
        exact List.forall_mem_cons.2 ⟨.inl hload, List.forall_mem_singleton.2 (.inr recount_counts)⟩
      obtain ⟨g, hg, -⟩ := rows_queried_after_change hbefore hnew hnext hinj hchanges hsuccess hrows
        recount_counts.1 (.inl hon) hfound
      cases hg
  have hfound := recountAgain_found hmiss
  have hlater : Run wholeLoad.after [recount] recountAgain.before := by
    rw [recountAgain, before_countAfter]
    exact run_answering (Run.exchange (e := recount) hnext) 1
  have hinj : Set.InjOn sha256Hex
      (hashedTexts (beforeLoad ++ wholeLoad :: ([recount] ++ [recountAgain]))) := by
    refine injOn_of_counts (List.forall_mem_append.2 ⟨beforeLoad_counts, ?_⟩)
    exact List.forall_mem_cons.2 ⟨.inl hload, List.forall_mem_cons.2 ⟨.inr recount_counts,
      List.forall_mem_singleton.2 (.inr recountAgain_counts)⟩⟩
  exact ⟨hbefore, hnew, hlater, hinj, hchanges, hsuccess, hrows, recountAgain_counts.1, hon, hfound,
    rows_queried_after_change hbefore hnew hlater hinj hchanges hsuccess hrows recountAgain_counts.1
      (.inl hon) hfound⟩

/-! ### A load that breaks off -/

/-- The first batch is written before the order after it, whose region is a NUL, breaks off the
load. -/
theorem append_broken {w : World} {names : List String}
    (ht : w.catalog.table? salesId "orders" = some orders) (hfault : w.warehouse.faultIn = 0)
    (hlength : names.length = 500) (hnames : ∀ name ∈ names, holdsNul name = false) :
    ∃ sql, Action.append App.loading salesId "orders" ((names ++ ["\x00"]).map regionRow) w
      = (.error (.sqlText .nulInText), withOrders w names sql) := by
  have hne : names ≠ [] := by
    rintro rfl
    cases hlength
  obtain ⟨sql, hinsert⟩ := insert_orders hfault hne hnames
  refine ⟨sql, ?_⟩
  have hbatches : batches App.loading.batchSize ((names ++ ["\x00"]).map regionRow)
      = [names.map regionRow, [regionRow "\x00"]] := by
    have hrows : (names.map regionRow).length = 500 := by rw [List.length_map, hlength]
    show chunks 500 _ = _
    rw [List.map_append, chunks_append (by decide) hrows, List.map_singleton,
      chunks_one (by decide) (by simp) (by simp)]
  have hnul : onWarehouse (fun w => w.insert orders.physicalName ["region"] [regionRow "\x00"])
      (withOrders w names sql) = (.error (.sqlText .nulInText), withOrders w names sql) := rfl
  rw [append_orders ht, Action.extend, if_neg (by simp)]
  refine bind_of_error ?_
  rw [Action.writeRows_eq (by decide), hbatches, List.map_cons, conform_orders]
  exact (bind_of_ok hinsert).trans (bind_of_error hnul)

/-- The regions of as many orders as fit into a batch. -/
def northNames : List String := List.replicate 500 "north"

theorem length_northNames : northNames.length = 500 := List.length_replicate

theorem northNames_written : ∀ name ∈ northNames, holdsNul name = false := by
  intro name hname
  rw [List.eq_of_mem_replicate hname]
  decide

/-- The regions of one order more, of which the last one cannot be written. -/
def brokenNames : List String := northNames ++ ["\x00"]

/-- A load that fails after its first batch. -/
def brokenLoad : Exchange := loadOf brokenNames

/-- The orders are counted after the broken load. -/
def countAfterBroken : Exchange := countAfter brokenLoad 500

theorem countAfterBroken_counts : Counts countAfterBroken :=
  countAfter_counts (loadOf_settings brokenNames).1

theorem brokenLoad_failed : ∃ sql,
    brokenLoad.after.world = withOrders brokenLoad.before.world northNames sql
      ∧ brokenLoad.after.cache = firstCount.after.cache := by
  obtain ⟨sql, happend⟩ : ∃ sql, Action.append App.loading salesId "orders"
      (brokenNames.map regionRow) (loadOf brokenNames).before.world
        = (.error (.sqlText .nulInText),
          withOrders (loadOf brokenNames).before.world northNames sql) :=
    append_broken (loadOf_table brokenNames) (loadOf_faultIn brokenNames) length_northNames
      northNames_written
  refine ⟨sql, ?_, ?_⟩
  · rw [brokenLoad, Exchange.world_of_change (handle_loadOf brokenNames), happend]
  · rw [brokenLoad, Exchange.cache_of_failed_change (handle_loadOf brokenNames) happend,
      before_loadOf, cache_answering]

theorem brokenLoad_rowsChanged :
    brokenLoad.before.world.RowsChanged salesId brokenLoad.after.world := by
  obtain ⟨sql, hworld, -⟩ := brokenLoad_failed
  obtain ⟨rows, hrows⟩ := loadOf_contents brokenNames
  have hne : northNames ≠ [] := List.ne_nil_of_length_pos (by rw [length_northNames]; decide)
  rw [hworld]
  exact rowsChanged_orders hne (loadOf_table brokenNames) hrows rfl

theorem countAfterBroken_fresh :
    countAfterBroken.fresh countId everything = .ok (numberRows 500) := by
  obtain ⟨sql, hworld, -⟩ := brokenLoad_failed
  refine countAfter_fresh (loadOf_settings brokenNames).1 ?_
  rw [hworld]
  exact (asks_countAll.sameFor ((loadOf_harmless brokenNames).sameFor countId salesId)).of_catalog rfl

theorem countAfterBroken_found :
    countAfterBroken.found countId everything = some (numberRows 0) := by
  obtain ⟨sql, -, hcache⟩ := brokenLoad_failed
  refine firstCount_counts.1.found_again rfl firstCount_fresh ?_ ?_ ?_
  · rw [countAfterBroken, before_countAfter, cache_answering, hcache]
  · have hclock : brokenLoad.after.clock = .whole 0 := (loadOf_settings brokenNames).2.1
    rw [countAfterBroken, before_countAfter, clock_answering, hclock]
    show ¬Seconds.whole 0 + Seconds.whole 300 ≤ Seconds.whole 0
    decide
  · rw [countAfterBroken_counts.2, firstCount_counts.2]

/-- Batches are written one by one, and the cached rows are dropped after the last one only.  So the
number of orders before the load is sent after it. -/
theorem brokenLoad_stale : Run (started .unrestricted) beforeLoad brokenLoad.before
    ∧ (started .unrestricted).IsNew ∧ Run brokenLoad.after [] countAfterBroken.before
    ∧ Set.InjOn sha256Hex (hashedTexts (beforeLoad ++ brokenLoad :: ([] ++ [countAfterBroken])))
    ∧ brokenLoad.ChangesRows ∧ brokenLoad.before.world.RowsChanged salesId brokenLoad.after.world
    ∧ countAfterBroken.RunsMetric countId everything
    ∧ brokenLoad.before.world.catalog.IsOn countId salesId
    ∧ countAfterBroken.fresh countId everything = .ok (numberRows 500)
    ∧ countAfterBroken.found countId everything = some (numberRows 0)
    ∧ countAfterBroken.response = App.sendResult countId true (numberRows 0) := by
  have hload : ∀ id b, ¬brokenLoad.RunsMetric id b := loadOf_runs_nothing brokenNames
  have hinj : Set.InjOn sha256Hex
      (hashedTexts (beforeLoad ++ brokenLoad :: ([] ++ [countAfterBroken]))) := by
    refine injOn_of_counts (List.forall_mem_append.2 ⟨beforeLoad_counts, ?_⟩)
    exact List.forall_mem_cons.2
      ⟨.inl hload, List.forall_mem_singleton.2 (.inr countAfterBroken_counts)⟩
  exact ⟨run_beforeLoad brokenNames, ⟨rfl, rfl, rfl⟩, run_countAfter, hinj,
    loadOf_changesRows brokenNames, brokenLoad_rowsChanged, countAfterBroken_counts.1,
    loadOf_isOn brokenNames, countAfterBroken_fresh, countAfterBroken_found,
    countAfterBroken_counts.1.response_of_found countAfterBroken_found⟩

end CountedOrders

end Http

end MetricLayer
