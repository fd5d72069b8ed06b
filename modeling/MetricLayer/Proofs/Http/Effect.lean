import MetricLayer.Http.App
import MetricLayer.Proofs.Cache.Entries
import MetricLayer.Proofs.Service.MetricRun

/-!
# What requests do

A request that does not run a metric changes records and rows in one of two ways: it does no harm to
any metric (`answer_follows`), or it drops the cached rows that it may have made wrong
(`change_follows`).  Either way the entries that stay in the cache are about metrics that it left
alone (`App.Follows`, `serve_follows`).

A request that runs a metric finds its rows in the cache, fails, or puts fresh rows there
(`RunResult`, `runMetric_result`).  Fresh rows are found again until they expire
(`RunResult.found_again`).
-/

namespace MetricLayer.Http

open MetricLayer.Action

open World (Harmless Steps)

variable {α : Type}

/-- The operation is a load or a removal of rows. -/
def Endpoint.changesRows : Endpoint → Bool
  | .createTable _ | .appendRows _ _ | .deleteSource _ => true
  | _ => false

/-- A request whose outcome is a failure does not answer as if it had succeeded. -/
theorem Response.ofFailure_status (failure : Failure) : 300 ≤ (ofFailure failure).status := by
  cases failure <;> simp [ofFailure, Failure.status?, broken]

namespace App

variable {a : App} {r : Request}

/-- What is still in the cache was there before and is about metrics that nothing changed for. -/
structure Follows (a a' : App) : Prop where
  /-- The catalog keeps its promises. -/
  consistent : a'.world.catalog.Consistent
  /-- The sources of metrics go on to exist. -/
  attached : a.world.catalog.Attached → a'.world.catalog.Attached
  /-- The policy is a setting. -/
  policy : a'.policy = a.policy
  /-- No entry is new, and what an entry is about is the same as before. -/
  entries : ∀ p ∈ a'.cache.entries, p ∈ a.cache.entries
    ∧ ∀ id ∈ p.2.tags, ∀ s ∈ p.2.tags, a.world.SameFor id s a'.world

/-- The request succeeded or left all rows alone. -/
def Undisturbed (a : App) (result : Response × App) : Prop :=
  result.1.status < 300 ∨ result.2.world.contents = a.world.contents

theorem follows_self (ha : a.world.catalog.Consistent) : Follows a a :=
  ⟨ha, fun h => h, rfl, fun _ hp => ⟨hp, fun id _ s _ =>
    (refl a.world : Harmless a.world a.world).sameFor id s⟩⟩

theorem reading_follows (ha : a.world.catalog.Consistent) (input : Checked α)
    {next : α → Response × App} (h : ∀ v, input = .valid v → Follows a (next v).2) :
    Follows a (a.reading input next).2 := by
  cases input with
  | valid v => exact h v rfl
  | invalid issues => exact follows_self ha

theorem undisturbed_of_valid {input : Checked α} {next : α → Response × App} {v : α}
    (hv : input = .valid v) (h : a.Undisturbed (a.reading input next)) :
    a.Undisturbed (next v) := by
  subst hv
  exact h

/-- A request that harms no metric may leave the cache as it is. -/
theorem answer_follows (ha : a.world.catalog.Consistent) {action : Action α}
    (h : Keeps Harmless action) (success : α → Response) :
    Follows a (a.answer action success).2 where
  consistent := (h a.world).consistent ha
  attached := (h a.world).attached
  policy := rfl
  entries _ hp := ⟨hp, fun id _ s _ => (h a.world).sameFor id s⟩

/-- A request that makes the rows with a tag wrong drops them when it succeeds, and when it fails it
has left all rows alone. -/
theorem change_follows {tag : String} {action : Action α}
    (hconsistent : (action a.world).2.catalog.Consistent)
    (h : Spares tag a.world (action a.world)) (success : α → Response)
    (hundisturbed : a.Undisturbed (a.change tag action success)) :
    Follows a (a.change tag action success).2 := by
  unfold Undisturbed at hundisturbed
  unfold change perform at hundisturbed ⊢
  rcases hrun : action a.world with ⟨failure | v, w⟩ <;> rw [hrun] at h hconsistent hundisturbed
  · have hcontents : w.contents = a.world.contents :=
      hundisturbed.resolve_left (Nat.not_lt.2 (Response.ofFailure_status failure))
    exact ⟨hconsistent, h.attached, rfl, fun p hp => ⟨hp, fun id _ s _ =>
      h.failed failure rfl hcontents id s⟩⟩
  · refine ⟨hconsistent, h.attached, rfl, fun p hp => ?_⟩
    obtain ⟨hp, htag⟩ := ResultCache.mem_invalidateTag.1 hp
    refine ⟨hp, fun id hid s hs => h.done v rfl id s ?_ ?_⟩
    · rintro rfl
      exact htag hid
    · rintro rfl
      exact htag hs

/-! ## The operations -/

/-- Removing a metric removes no rows. -/
theorem contents_deleteMetric (r : Request) (id : String) :
    (a.serve r (.deleteMetric id)).2.world.contents = a.world.contents := by
  show (dropping id _ _).world.contents = _
  unfold dropping
  split <;> rfl

theorem existingSource_reads (id : String) : Keeps World.SameRecords (existingSource id) := by
  refine .bind catalog_reads fun c => ?_
  split
  · exact .pure _
  · exact .throw _

/-- Creates a table of a source that exists. -/
def createFor (sourceId : String) (b : TableBody) : Action DataTable := do
  let _ ← existingSource sourceId
  let schema ← Action.ofOutcome (schemaOf b)
  Action.createTable loading sourceId b.name schema b.rows

theorem existingSource_cases (id : String) (w : World) :
    (w.catalog.source? id = none ∧ existingSource id w = (.error (.sourceNotFound id), w))
    ∨ ∃ source, w.catalog.source? id = some source ∧ existingSource id w = (.ok source, w) := by
  unfold existingSource
  rw [bind_of_ok (rfl : Action.catalog w = (.ok w.catalog, w))]
  cases hsource : w.catalog.source? id with
  | none => exact .inl ⟨rfl, rfl⟩
  | some source => exact .inr ⟨source, rfl, rfl⟩

/-- Creating a table is refused before anything is done, or it is a load into a source that exists. -/
theorem createFor_cases (sourceId : String) (b : TableBody) (w : World) :
    (∃ failure, createFor sourceId b w = (.error failure, w))
    ∨ (w.catalog.source? sourceId).isSome ∧ ∃ schema, createFor sourceId b w
      = (Load.create sourceId b.name schema b.rows).run loading w := by
  unfold createFor
  rcases existingSource_cases sourceId w with ⟨-, h⟩ | ⟨source, hsource, h⟩
  · rw [bind_of_error h]
    exact .inl ⟨_, rfl⟩
  · rw [bind_of_ok h]
    cases hschema : schemaOf b with
    | error failure => exact .inl ⟨failure, rfl⟩
    | ok schema => exact .inr ⟨Option.isSome_of_eq_some hsource, schema, rfl⟩

theorem createFor_spares {w : World} (hw : w.catalog.Consistent) (sourceId : String)
    (b : TableBody) : Spares sourceId w (createFor sourceId b w) := by
  rcases createFor_cases sourceId b w with ⟨failure, h⟩ | ⟨-, schema, h⟩ <;> rw [h]
  · exact .of_refused failure
  · exact Load.run_spares loading (.create sourceId b.name schema b.rows) hw

theorem createFor_consistent {w : World} (hw : w.catalog.Consistent) (sourceId : String)
    (b : TableBody) : (createFor sourceId b w).2.catalog.Consistent := by
  rcases createFor_cases sourceId b w with ⟨failure, h⟩ | ⟨-, schema, h⟩ <;> rw [h]
  · exact hw
  · exact Steps.consistent (createTable_steps loading sourceId b.name schema b.rows w) hw

/-- The cache follows every request that does not run a metric. -/
theorem serve_follows (ha : a.world.catalog.Consistent) {e : Endpoint}
    (he : ∀ id, e ≠ .runMetric id)
    (hundisturbed : e.changesRows = true → a.Undisturbed (a.serve r e)) :
    Follows a (a.serve r e).2 := by
  cases e with
  | createMetric =>
    exact reading_follows ha _ fun d _ => answer_follows ha (createMetric_harmless d) _
  | listMetrics => exact reading_follows ha _ fun _ _ => follows_self ha
  | validateExpression => exact reading_follows ha _ fun _ _ => follows_self ha
  | showMetric id => exact answer_follows ha (findMetric_reads id).harmless _
  | deleteMetric id =>
    have hupdate : Catalog.Update a.world.now a.world.catalog (a.world.catalog.deleteMetric id).2 :=
      .deleteMetric id
    exact change_follows (hupdate.consistent ha) (deleteMetric_spares id a.world) _
      (.inr (contents_deleteMetric r id))
  | runMetric id => exact absurd rfl (he id)
  | createSource =>
    exact reading_follows ha _ fun b _ => answer_follows ha (createSource_harmless _ _ _) _
  | listSources => exact reading_follows ha _ fun _ _ => follows_self ha
  | inferSchema => exact reading_follows ha _ fun _ _ => follows_self ha
  | showSource id => exact answer_follows ha (existingSource_reads id).harmless _
  | deleteSource id =>
    exact change_follows (Steps.consistent (dropSource_steps id a.world) ha)
      (dropSource_spares ha id) _ (hundisturbed rfl)
  | listTables id => exact answer_follows ha (existingSource_reads id).harmless _
  | createTable id =>
    have hread : a.Undisturbed (a.reading (readBody r TableBody.read) _) := hundisturbed rfl
    refine reading_follows ha _ fun b hb => ?_
    have hcreate := undisturbed_of_valid hb hread
    exact change_follows (createFor_consistent ha id b) (createFor_spares ha id b) _ hcreate
  | appendRows id table =>
    have hread : a.Undisturbed (a.reading (readBody r readUpload) _) := hundisturbed rfl
    refine reading_follows ha _ fun rows hrows => ?_
    have happend := undisturbed_of_valid hrows hread
    exact change_follows (Steps.consistent (append_steps loading id table rows a.world) ha)
      (Load.run_spares loading (.append id table rows) ha) _ happend
  | preview id table =>
    exact reading_follows ha _ fun _ _ => answer_follows ha (preview_reads _ _ _).harmless _
  | chart =>
    exact reading_follows ha _ fun _ _ => answer_follows ha (runChart_reads _ _ _).harmless _
  | timeSeries =>
    exact reading_follows ha _ fun _ _ => answer_follows ha (runSeries_reads _ _ _).harmless _
  | cacheStatistics => exact follows_self ha
  | clearCache =>
    refine ⟨ha, fun h => h, rfl, fun p hp => ?_⟩
    have hempty : (a.serve r .clearCache).2.cache.entries = [] := ResultCache.entries_clear a.cache
    rw [hempty] at hp
    cases hp
  | health => exact follows_self ha

end App

/-! ## Running a metric -/

namespace App

/-- What a caller asks of a metric, with the restrictions of the policy. -/
def resultRequest (a : App) (r : Request) (id : String) (b : RunBody) : ResultRequest :=
  ⟨id, some (a.policy.mergedFilters r.userId? b.filters), some b.groupBy, b.dateField⟩

/-- All that running a metric can do. -/
inductive RunResult (a : App) (q : ResultRequest) : Response × App → Prop
  /-- The rows are in the cache. -/
  | hit {rows : Rows} {cache : ResultCache Seconds Rows}
      (hget : a.cache.get a.clock q.value.digest = (some rows, cache)) :
      RunResult a q (sendResult q.metricId true rows, { a with cache })
  /-- The metric has no rows. -/
  | failed {cache : ResultCache Seconds Rows} {failure : Failure} {world : World}
      (hget : a.cache.get a.clock q.value.digest = (none, cache))
      (hrun : Action.runMetric q.metricId q.run a.world = (.error failure, world)) :
      RunResult a q (.ofFailure failure, { a with cache, world })
  /-- The rows come from the warehouse and go into the cache. -/
  | fresh {cache : ResultCache Seconds Rows} {rows : Rows} {world : World} {m : Metric}
      (hget : a.cache.get a.clock q.value.digest = (none, cache))
      (hrun : Action.runMetric q.metricId q.run a.world = (.ok rows, world))
      (hm : a.world.catalog.metric? q.metricId = some m) :
      RunResult a q (sendResult q.metricId false rows,
        { a with world, cache := cache.put a.clock q.value.digest rows [some m.id, m.sourceId] })

theorem freshRows_error {id : String} {r : RunRequest} {w w' : World} {failure : Failure}
    (h : Action.runMetric id r w = (.error failure, w')) :
    freshRows id r w = (.error failure, w') := by
  unfold freshRows
  rw [bind_of_error h]

/-- Rows come from a metric that exists. -/
theorem freshRows_ok {id : String} {r : RunRequest} {w w' : World} {rows : Rows}
    (h : Action.runMetric id r w = (.ok rows, w')) :
    ∃ m, w.catalog.metric? id = some m ∧ freshRows id r w = (.ok (rows, m), w') := by
  rcases runMetric_cases id r w with ⟨failure, herror⟩ |
    ⟨s, sql, ⟨m, t, hmetric, -⟩, hquery⟩
  · rw [h] at herror
    cases herror
  · refine ⟨m, hmetric, ?_⟩
    have hafter : w'.catalog.metric? id = some m := by
      have hworld : w' = (query sql w).2 := by rw [← hquery, h]
      rwa [hworld]
    unfold freshRows
    rw [bind_of_ok h, bind_of_ok (findMetric_some hafter)]
    rfl

theorem runMetric_result {b : RunBody} (id : String)
    (hb : readBody r RunBody.read = .valid b) :
    RunResult a (a.resultRequest r id b) (a.runMetric r id) := by
  unfold App.runMetric
  rw [hb]
  dsimp only [App.reading]
  have hkey : cacheKey id (a.restricted r b.filters) (.list (b.groupBy.map .text))
      (.ofText? b.dateField) = (a.resultRequest r id b).value.digest := rfl
  have hasked : (⟨a.restricted r b.filters, b.groupBy, b.dateField⟩ : RunRequest)
      = (a.resultRequest r id b).run := rfl
  rw [hkey, hasked]
  rcases hget : a.cache.get a.clock (a.resultRequest r id b).value.digest with ⟨_ | rows, cache⟩
  · dsimp only
    rcases hrun : Action.runMetric id (a.resultRequest r id b).run a.world with
      ⟨failure | rows, world⟩
    · have hfresh : ({ a with cache } : App).perform (freshRows id (a.resultRequest r id b).run)
          = (.error failure, { a with cache, world }) := by
        unfold perform
        rw [freshRows_error hrun]
      rw [hfresh]
      exact .failed hget hrun
    · obtain ⟨m, hm, hrows⟩ := freshRows_ok hrun
      have hfresh : ({ a with cache } : App).perform (freshRows id (a.resultRequest r id b).run)
          = (.ok (rows, m), { a with cache, world }) := by
        unfold perform
        rw [hrows]
      rw [hfresh]
      exact .fresh hget hrun hm
  · exact .hit hget

namespace RunResult

variable {q : ResultRequest} {result : Response × App}

theorem sameRecords (h : RunResult a q result) : World.SameRecords a.world result.2.world := by
  have hworld : World.SameRecords a.world (Action.runMetric q.metricId q.run a.world).2 :=
    runMetric_reads q.metricId q.run a.world
  cases h with
  | hit => exact refl a.world
  | failed _ hrun =>
    rw [hrun] at hworld
    exact hworld
  | fresh _ hrun =>
    rw [hrun] at hworld
    exact hworld

theorem harmless (h : RunResult a q result) : Harmless a.world result.2.world :=
  .of_catalog h.sameRecords.catalog h.sameRecords.contents

/-- Running a metric leaves the settings and the clock as they are. -/
theorem settings (h : RunResult a q result) :
    result.2.policy = a.policy ∧ result.2.clock = a.clock := by
  cases h <;> exact ⟨rfl, rfl⟩

/-- Running a metric leaves the time for which rows are cached as it is. -/
theorem ttl (h : RunResult a q result) : result.2.cache.ttl = a.cache.ttl := by
  have hget : (a.cache.get a.clock q.value.digest).2.ttl = a.cache.ttl := ResultCache.ttl_get _ _ _
  cases h with
  | hit hfound => rwa [hfound] at hget
  | failed hfound => rwa [hfound] at hget
  | fresh hfound => rwa [hfound] at hget

/-- The response is made of what the cache has, or else of what a run gives. -/
theorem response (h : RunResult a q result) :
    (∃ rows, (a.cache.get a.clock q.value.digest).1 = some rows
      ∧ result.1 = sendResult q.metricId true rows)
    ∨ (a.cache.get a.clock q.value.digest).1 = none
      ∧ ((∃ rows, (Action.runMetric q.metricId q.run a.world).1 = .ok rows
          ∧ result.1 = sendResult q.metricId false rows)
        ∨ ∃ failure, (Action.runMetric q.metricId q.run a.world).1 = .error failure
          ∧ result.1 = .ofFailure failure) := by
  cases h with
  | @hit rows _ hget => exact .inl ⟨rows, by rw [hget], rfl⟩
  | @fresh _ rows _ _ hget hrun => exact .inr ⟨by rw [hget], .inl ⟨rows, by rw [hrun], rfl⟩⟩
  | @failed _ failure _ hget hrun => exact .inr ⟨by rw [hget], .inr ⟨failure, by rw [hrun], rfl⟩⟩

/-- Rows that were fresh are found again until they expire. -/
theorem found_again (h : RunResult a q result) {rows : Rows} {later : Seconds}
    (hmiss : (a.cache.get a.clock q.value.digest).1 = none)
    (hrows : (Action.runMetric q.metricId q.run a.world).1 = .ok rows)
    (hlive : ¬a.clock + a.cache.ttl ≤ later) :
    (result.2.cache.get later q.value.digest).1 = some rows := by
  cases h with
  | hit hget =>
    rw [hget] at hmiss
    cases hmiss
  | failed _ hrun =>
    rw [hrun] at hrows
    cases hrows
  | @fresh cache _ _ _ hget hrun =>
    rw [hrun] at hrows
    cases hrows
    have httl : cache.ttl = a.cache.ttl := by
      rw [← ResultCache.ttl_get a.cache a.clock q.value.digest, hget]
    exact ResultCache.get_put cache _ _ _ (by rwa [httl])

end RunResult

end App

end MetricLayer.Http
