import MetricLayer.Proofs.Http.Effect
import MetricLayer.Proofs.Http.JsonFilters

/-!
# Runs of the service

A run of the service is a sequence of requests, one after another (`Run`).  Between two requests the
clocks may be set and the answers of the warehouse may be arranged in any way; its tables are changed
by requests only.

An `Exchange` is a request together with the state that it meets.  Most of them run a metric
(`RunsMetric`): these keep the records, the rows and the settings, and fresh rows are found again by
whoever asks with the same text (`RunsMetric.found_again`).
-/

namespace MetricLayer.Http

open MetricLayer.Action

open World (Harmless)

/-- A request and the state of the service that it meets. -/
structure Exchange where
  /-- The service before the request. -/
  before : App
  /-- The request. -/
  request : Request

namespace Exchange

/-- The response to the request. -/
def response (e : Exchange) : Response := (e.before.handle e.request).1

/-- The service after the request. -/
def after (e : Exchange) : App := (e.before.handle e.request).2

/-- The request asks for the rows of a metric, with a body that can be read. -/
def RunsMetric (e : Exchange) (id : String) (b : RunBody) : Prop :=
  Route.find e.request.method e.request.path = .endpoint (.runMetric id)
    ∧ readBody e.request RunBody.read = .valid b

/-- What is asked of the metric, under the filters of the caller. -/
def asked (e : Exchange) (id : String) (b : RunBody) : ResultRequest :=
  e.before.resultRequest e.request id b

/-- The rows that a fresh run of the metric gives at this moment. -/
def fresh (e : Exchange) (id : String) (b : RunBody) : Outcome Rows :=
  (Action.runMetric id ⟨e.before.restricted e.request b.filters, b.groupBy, b.dateField⟩
    e.before.world).1

/-- What the cache has for the request. -/
def found (e : Exchange) (id : String) (b : RunBody) : Option Rows :=
  (e.before.cache.get e.before.clock (e.asked id b).value.digest).1

/-- The body of the request is JSON. -/
def IsJson (e : Exchange) : Prop := ∀ v ∈ e.request.body, v.IsJson

/-- The request is a load or a removal of rows. -/
def ChangesRows (e : Exchange) : Prop :=
  ∃ endpoint, Route.find e.request.method e.request.path = .endpoint endpoint
    ∧ endpoint.changesRows = true

/-- The request succeeds or leaves all rows alone; so it does when it fails before its first statement
for the warehouse. -/
def Undisturbed (e : Exchange) : Prop := e.before.Undisturbed (e.before.handle e.request)

/-- If the request runs a metric, the warehouse would answer its query as the database does. -/
def Answered (db : RowFunction) (e : Exchange) : Prop :=
  ∀ id b sql, e.RunsMetric id b →
    (metricQuery id (e.asked id b).run e.before.world).1 = .ok sql →
      (e.before.world.warehouse.query sql []).1 = db.answer e.before.world.contents sql

/-- There is no such metric, or it has no source that exists. -/
def Gone (e : Exchange) (id : String) : Prop :=
  ∀ m s, e.before.world.catalog.metric? id = some m → m.sourceId = some s →
    e.before.world.catalog.source? s = none

end Exchange

/-- The requests of a run so far, and the service after them. -/
inductive Run (start : App) : List Exchange → App → Prop
  | start : Run start [] start
  | request {log : List Exchange} {a : App} (h : Run start log a) (r : Request) :
      Run start (log ++ [⟨a, r⟩]) (a.handle r).2
  /-- Clocks are set and answers of the warehouse are arranged. -/
  | outside {log : List Exchange} {a : App} (h : Run start log a) (clock : Seconds) (now : Moment)
      (warehouse : Warehouse) (hsame : warehouse.transactions = a.world.warehouse.transactions) :
      Run start log { a with clock, world := { a.world with warehouse, now } }

/-- The texts whose digests the run uses as keys. -/
def hashedTexts (log : List Exchange) : Set String :=
  { text | ∃ e ∈ log, ∃ id b, e.RunsMetric id b ∧ text = (e.asked id b).value.canonical }

/-- The service without records, without a history and with nothing cached. -/
structure App.IsNew (a : App) : Prop where
  catalog : a.world.catalog = .empty
  transactions : a.world.warehouse.transactions = []
  entries : a.cache.entries = []

/-! ## Paths -/

/-- A path for running a metric names the metric. -/
theorem Route.mem_endpoints {method id : String} {parts : List String}
    (h : (method, .runMetric id) ∈ endpoints parts) : parts = ["metrics", id, "execute"] := by
  unfold endpoints at h
  split at h
  · simp at h
  · split at h <;> simp at h
  · simp at h
    rw [h.2]
  · simp at h
  · split at h <;> simp at h
  all_goals simp at h

theorem Route.runMetric_ne {method path id : String}
    (h : find method path = .endpoint (.runMetric id)) : id ≠ "" := by
  unfold find at h
  dsimp only at h
  generalize segments (withoutEndSlashes (Text.percentDecoded path)) = parts at h
  by_cases hempty : parts.contains "" = true
  · rw [if_pos hempty] at h
    cases h
  · rw [if_neg hempty] at h
    cases hfound : (endpoints parts).lookup method with
    | none =>
      rw [hfound] at h
      dsimp only at h
      split at h <;> cases h
    | some e =>
      rw [hfound] at h
      cases h
      rintro rfl
      rw [mem_endpoints (mem_of_lookup hfound)] at hempty
      exact hempty (by decide)

/-! ## Requests that run a metric -/

namespace Exchange

variable {e : Exchange} {id id' : String} {b b' : RunBody}

theorem fresh_eq (e : Exchange) (id : String) (b : RunBody) :
    e.fresh id b = (Action.runMetric id (e.asked id b).run e.before.world).1 := rfl

theorem RunsMetric.result (h : e.RunsMetric id b) :
    e.before.RunResult (e.asked id b) (e.before.handle e.request) := by
  have hhandle : e.before.handle e.request = e.before.runMetric e.request id := by
    unfold App.handle
    rw [h.1]
    rfl
  rw [hhandle]
  exact App.runMetric_result id h.2

theorem asked_isJson (hjson : e.IsJson) (hpolicy : e.before.policy.IsJson)
    (h : e.RunsMetric id b) : (e.asked id b).IsJson := by
  rintro fields ⟨⟩
  exact hpolicy.mergedFilters e.request.userId? (runBody_filters_isJson hjson h.2)

/-- The text of the request is one of the texts that are hashed. -/
theorem RunsMetric.text_mem (h : e.RunsMetric id b) {log : List Exchange} (he : e ∈ log) :
    (e.asked id b).value.canonical ∈ hashedTexts log := ⟨e, he, id, b, h, rfl⟩

/-- A request runs one metric in one way. -/
theorem RunsMetric.unique (h : e.RunsMetric id b) (h' : e.RunsMetric id' b') :
    id = id' ∧ b = b' := by
  constructor
  · cases h.1.symm.trans h'.1
    rfl
  · cases h.2.symm.trans h'.2
    rfl

/-- A request that runs no metric is served as something else, or nothing happens. -/
theorem handle_cases (e : Exchange) : (∃ id b, e.RunsMetric id b) ∨ e.after = e.before
    ∨ ∃ endpoint, (∀ id, endpoint ≠ .runMetric id)
      ∧ Route.find e.request.method e.request.path = .endpoint endpoint
      ∧ e.before.handle e.request = e.before.serve e.request endpoint := by
  unfold after RunsMetric App.handle
  cases hroute : Route.find e.request.method e.request.path with
  | otherMethods => exact .inr (.inl rfl)
  | nowhere => exact .inr (.inl rfl)
  | endpoint endpoint =>
    by_cases hrun : ∃ id, endpoint = .runMetric id
    · obtain ⟨id, rfl⟩ := hrun
      cases hbody : readBody e.request RunBody.read with
      | valid b => exact .inl ⟨id, b, rfl, rfl⟩
      | invalid issues =>
        refine .inr (.inl ?_)
        show (e.before.runMetric e.request id).2 = e.before
        unfold App.runMetric
        rw [hbody]
        rfl
    · exact .inr (.inr ⟨endpoint, fun id h => hrun ⟨id, h⟩, rfl, rfl⟩)

theorem RunsMetric.harmless (h : e.RunsMetric id b) : Harmless e.before.world e.after.world := by
  unfold after
  exact h.result.harmless

theorem RunsMetric.not_changesRows (h : e.RunsMetric id b) : ¬e.ChangesRows := by
  rintro ⟨endpoint, hroute, hchanges⟩
  cases h.1.symm.trans hroute
  cases hchanges

theorem RunsMetric.settings (h : e.RunsMetric id b) :
    e.after.policy = e.before.policy ∧ e.after.clock = e.before.clock := by
  unfold after
  exact h.result.settings

/-- What is found in the cache is sent. -/
theorem RunsMetric.response_of_found (h : e.RunsMetric id b) {rows : Rows}
    (hfound : e.found id b = some rows) : e.response = App.sendResult id true rows := by
  rcases h.result.response with ⟨_, hrows, hsent⟩ | ⟨hmiss, -⟩
  · cases hfound.symm.trans hrows
    exact hsent
  · cases hfound.symm.trans hmiss

/-- Whoever asks with the same text before the fresh rows expire finds them in the cache. -/
theorem RunsMetric.found_again (h : e.RunsMetric id b) {f : Exchange} {rows : Rows}
    (hmiss : e.found id b = none) (hrows : e.fresh id b = .ok rows)
    (hcache : f.before.cache = e.after.cache)
    (hlive : ¬e.before.clock + e.before.cache.ttl ≤ f.before.clock)
    (htext : (f.asked id' b').value.canonical = (e.asked id b).value.canonical) :
    f.found id' b' = some rows := by
  have hkey : (f.asked id' b').value.digest = (e.asked id b).value.digest :=
    congrArg sha256Hex htext
  rw [fresh_eq] at hrows
  unfold found at hmiss ⊢
  rw [hcache, hkey]
  unfold after
  exact h.result.found_again hmiss hrows hlive

end Exchange

/-! ## Runs -/

theorem Run.exchange {start : App} {log : List Exchange} {e : Exchange}
    (h : Run start log e.before) : Run start (log ++ [e]) e.after := .request h e.request

theorem hashedTexts_mono {log log' : List Exchange} (h : ∀ e ∈ log, e ∈ log') :
    hashedTexts log ⊆ hashedTexts log' := by
  rintro text ⟨e, he, hrest⟩
  exact ⟨e, h e he, hrest⟩

end MetricLayer.Http
