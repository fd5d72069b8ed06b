import MetricLayer.Proofs.Expr.Completeness
import MetricLayer.Proofs.Expr.Excerpt
import MetricLayer.Proofs.Http.Exchange

/-!
# The cache is transparent

The invariant of a run of the service is `Sound`: every entry of the cache is tagged with a metric
and its source and holds the rows that the metric has now, for a request whose text has the key of
the entry as its digest.  Requests that run a metric keep it (`Sound.run`), and so do all others,
because the entries that stay are about metrics that did not change (`Sound.follows`).  So whoever
asks for a metric is sent the rows, or the failure, of a fresh run under the filters of the caller
(`cache_transparent`).

That needs the filters of the access policy to be JSON values.  A moment has the key of its text but
another literal, so a caller who is restricted to a moment is sent the rows of one who filters by
the text (`CountedOrders.runOfAlice_foreign`).
-/

namespace MetricLayer.Http

open MetricLayer.Action

open World (Harmless)

/-! ## The invariant -/

/-- The entry holds what the database answers for a metric now, and is tagged with the metric and
its source. -/
def Holds (db : RowFunction) (texts : Set String) (w : World)
    (p : String × CacheEntry Seconds Rows) : Prop :=
  ∃ q : ResultRequest, q.IsJson ∧ q.value.canonical ∈ texts ∧ p.1 = q.value.digest
    ∧ ∃ s sql, w.Asks q.metricId s q.run sql ∧ db.answer w.contents sql = .ok p.2.value
      ∧ q.metricId ∈ p.2.tags ∧ s ∈ p.2.tags

/-- The cache holds nothing but what is right. -/
structure Sound (db : RowFunction) (texts : Set String) (a : App) : Prop where
  /-- The catalog keeps its promises. -/
  consistent : a.world.catalog.Consistent
  /-- The sources of metrics exist. -/
  attached : a.world.catalog.Attached
  /-- The policy restricts rows by JSON values. -/
  policy : a.policy.IsJson
  /-- Each entry is right. -/
  entries : ∀ p ∈ a.cache.entries, Holds db texts a.world p

variable {db : RowFunction} {texts texts' : Set String} {a a' : App}

theorem Holds.sameFor {w w' : World} {p : String × CacheEntry Seconds Rows}
    (h : Holds db texts w p)
    (hsame : ∀ id ∈ p.2.tags, ∀ s ∈ p.2.tags, w.SameFor id s w') : Holds db texts w' p := by
  obtain ⟨q, hjson, htext, hkey, s, sql, hasks, hanswer, hid, hs⟩ := h
  have hmetric := hsame q.metricId hid s hs
  exact ⟨q, hjson, htext, hkey, s, sql, hasks.sameFor hmetric,
    (hasks.answer_eq db hmetric).trans hanswer, hid, hs⟩

namespace Sound

theorem mono (h : Sound db texts a) (hsub : texts ⊆ texts') : Sound db texts' a := by
  refine ⟨h.consistent, h.attached, h.policy, fun p hp => ?_⟩
  obtain ⟨q, hjson, htext, hrest⟩ := h.entries p hp
  exact ⟨q, hjson, hsub htext, hrest⟩

/-- Before the first request nothing is cached. -/
theorem of_isNew (h : a.IsNew) (hpolicy : a.policy.IsJson) : Sound db texts a where
  consistent := h.catalog ▸ Catalog.consistent_empty
  attached := h.catalog ▸ Catalog.attached_empty
  policy := hpolicy
  entries p hp := by
    rw [h.entries] at hp
    cases hp

/-- What stays in the cache was right and is about metrics that did not change. -/
theorem follows (h : Sound db texts a) (hfollows : a.Follows a') : Sound db texts a' where
  consistent := hfollows.consistent
  attached := hfollows.attached h.attached
  policy := hfollows.policy ▸ h.policy
  entries p hp := (h.entries p (hfollows.entries p hp).1).sameFor (hfollows.entries p hp).2

/-- A harmless change of the world, with fewer entries in the cache. -/
theorem harmless {cache : ResultCache Seconds Rows} {world : World} (h : Sound db texts a)
    (hworld : Harmless a.world world) (hcache : ∀ p ∈ cache.entries, p ∈ a.cache.entries) :
    Sound db texts { a with cache, world } :=
  h.follows ⟨hworld.consistent h.consistent, hworld.attached, rfl, fun p hp =>
    ⟨hcache p hp, fun id _ s _ => hworld.sameFor id s⟩⟩

/-- What is found in the cache for a request is what the metric has now. -/
theorem exists_asks (h : Sound db texts a) (hinj : Set.InjOn sha256Hex texts) {q : ResultRequest}
    (hq : q.IsJson) (htext : q.value.canonical ∈ texts) {rows : Rows}
    {cache : ResultCache Seconds Rows}
    (hget : a.cache.get a.clock q.value.digest = (some rows, cache)) :
    ∃ s sql, a.world.Asks q.metricId s q.run sql ∧ db.answer a.world.contents sql = .ok rows := by
  obtain ⟨entry, hentry, rfl⟩ := ResultCache.exists_of_get hget
  obtain ⟨q', hq', htext', hkey, s, sql, hasks, hanswer, -⟩ := h.entries _ hentry
  -- the digests of the two texts are equal, hence the texts, hence the requests up to order
  obtain ⟨hid, hdate, hgroup, hfilters⟩ :=
    ResultRequest.same_of_canonical_eq hq' hq (hinj htext' htext hkey.symm)
  have hjson : ∀ {q : ResultRequest}, q.IsJson → q.run.filters.IsJson := by
    intro q hq
    refine .object fun f hf => ?_
    cases hfields : q.filters with
    | none =>
      rw [hfields] at hf
      cases hf
    | some fields =>
      rw [hfields] at hf
      exact hq fields hfields f hf
  obtain ⟨sql', hasks', hsame⟩ := hasks.reordered db (hjson hq') (hjson hq) hfilters
  refine ⟨s, sql', ?_, (hsame _).symm.trans hanswer⟩
  have hrun : { q'.run with filters := q.run.filters } = q.run := by
    unfold ResultRequest.run
    rw [hdate, hgroup]
  rwa [hrun, hid] at hasks'

/-- Running a metric puts nothing into the cache but what is right. -/
theorem run (h : Sound db texts a) {q : ResultRequest} (hq : q.IsJson)
    (htext : q.value.canonical ∈ texts) (hid : q.metricId ≠ "") {result : Response × App}
    (hanswered : ∀ sql, (metricQuery q.metricId q.run a.world).1 = .ok sql →
      (a.world.warehouse.query sql []).1 = db.answer a.world.contents sql)
    (hresult : a.RunResult q result) : Sound db texts result.2 := by
  have hworld := hresult.harmless
  have hkept : ∀ {found : Option Rows} {cache : ResultCache Seconds Rows},
      a.cache.get a.clock q.value.digest = (found, cache) →
        ∀ p ∈ cache.entries, p ∈ a.cache.entries := by
    intro found cache hget p hp
    have hmem : p ∈ (a.cache.get a.clock q.value.digest).2.entries := by rwa [hget]
    exact ResultCache.mem_get hmem
  cases hresult with
  | hit hget => exact h.harmless hworld (hkept hget)
  | failed hget => exact h.harmless hworld (hkept hget)
  | @fresh cache rows world m hget hrun hm =>
    have hsound := h.harmless hworld (hkept hget)
    refine ⟨hsound.consistent, hsound.attached, hsound.policy, fun p hp => ?_⟩
    rcases ResultCache.mem_put hp with hp | rfl
    · exact hsound.entries p hp
    · rcases runMetric_cases q.metricId q.run a.world with
        ⟨failure, herror⟩ | ⟨s, sql, hasks, hquery⟩
      · rw [hrun] at herror
        cases herror
      · have hrows : db.answer a.world.contents sql = .ok rows := by
          rw [← hanswered sql (by rw [metricQuery_of_asks hasks])]
          exact congrArg Prod.fst (hquery.symm.trans hrun)
        have hsame := hworld.sameFor q.metricId s
        refine ⟨q, hq, htext, rfl, s, sql, hasks.sameFor hsame,
          (hasks.answer_eq db hsame).trans hrows, ?_⟩
        obtain ⟨m', t, hm', hs, hne, -⟩ := hasks
        rw [hm] at hm'
        cases hm'
        simp [hs, hne, hid, (Catalog.metric?_eq_some hm).2]

end Sound

/-! ## Runs are sound -/

namespace Exchange

/-- The response to a request for a metric is what a fresh run would give, and a metric that is gone
is never answered from the cache. -/
structure Transparent (e : Exchange) (id : String) (b : RunBody) : Prop where
  /-- The rows are those of a fresh run. -/
  rows : ∀ rows, e.fresh id b = .ok rows → ∃ cached, e.response = App.sendResult id cached rows
  /-- The failure is that of a fresh run. -/
  failure : ∀ failure, e.fresh id b = .error failure → e.response = .ofFailure failure
  /-- What is gone is not in the cache, and the response is a failure. -/
  gone : e.Gone id → e.found id b = none ∧ ∃ failure, e.response = .ofFailure failure

variable {e : Exchange} {id : String} {b : RunBody}

/-- Every request keeps the cache right. -/
theorem sound_handle (hsound : Sound db texts e.before) (hjson : e.IsJson)
    (hundisturbed : e.ChangesRows → e.Undisturbed) (hanswered : e.Answered db)
    (htexts : hashedTexts [e] ⊆ texts) :
    Sound db texts (e.before.handle e.request).2 := by
  rcases e.handle_cases with ⟨id, b, hruns⟩ | hsame | ⟨endpoint, hrun, hroute, hhandle⟩
  · exact hsound.run (asked_isJson hjson hsound.policy hruns)
      (htexts (hruns.text_mem (List.mem_singleton_self e))) (Route.runMetric_ne hruns.1)
      (fun sql => hanswered id b sql hruns) hruns.result
  · unfold after at hsame
    rwa [hsame]
  · unfold Undisturbed at hundisturbed
    rw [hhandle] at hundisturbed ⊢
    exact hsound.follows (App.serve_follows hsound.consistent hrun
      fun hchanges => hundisturbed ⟨endpoint, hroute, hchanges⟩)

/-- As long as the cache is right, the response to a request for a metric is. -/
theorem transparent_of_sound (hsound : Sound db texts e.before) (hinj : Set.InjOn sha256Hex texts)
    (hjson : e.IsJson) (hanswered : e.Answered db) (htexts : hashedTexts [e] ⊆ texts)
    (h : e.RunsMetric id b) : e.Transparent id b := by
  have htext := htexts (h.text_mem (List.mem_singleton_self e))
  -- a query that was found in the cache would give the same rows
  have hhit : ∀ {rows}, e.found id b = some rows →
      ∃ s sql, e.before.world.Asks id s (e.asked id b).run sql ∧ e.fresh id b = .ok rows := by
    intro rows hfound
    obtain ⟨s, sql, hasks, hanswer⟩ : ∃ s sql, e.before.world.Asks id s (e.asked id b).run sql
        ∧ db.answer e.before.world.contents sql = .ok rows :=
      hsound.exists_asks hinj (asked_isJson hjson hsound.policy h) htext (Prod.ext hfound rfl)
    refine ⟨s, sql, hasks, ?_⟩
    rw [fresh_eq, runMetric_of_asks hasks]
    exact (hanswered id b sql h (by rw [metricQuery_of_asks hasks])).trans hanswer
  have hresponse : (∃ rows cached, e.fresh id b = .ok rows
        ∧ e.response = App.sendResult id cached rows)
      ∨ ∃ failure, e.fresh id b = .error failure ∧ e.response = .ofFailure failure := by
    rcases h.result.response with ⟨rows, hfound, hsent⟩ | ⟨-, ⟨rows, hrun, hsent⟩ | hfailed⟩
    · obtain ⟨-, -, -, hfresh⟩ := hhit hfound
      exact .inl ⟨rows, true, hfresh, hsent⟩
    · exact .inl ⟨rows, false, hrun, hsent⟩
    · exact .inr hfailed
  constructor
  case rows =>
    intro rows hfresh
    rcases hresponse with ⟨_, cached, hrun, hsent⟩ | ⟨_, hrun, -⟩ <;> cases hfresh.symm.trans hrun
    exact ⟨cached, hsent⟩
  case failure =>
    intro failure hfresh
    rcases hresponse with ⟨_, _, hrun, -⟩ | ⟨_, hrun, hsent⟩ <;> cases hfresh.symm.trans hrun
    exact hsent
  case gone =>
    intro hgone
    -- without a source that exists there is no query
    have hnone : ∀ s sql, ¬e.before.world.Asks id s (e.asked id b).run sql := by
      rintro s sql ⟨m, t, hm, hs, hne, -⟩
      have hsource := hsound.attached m (Catalog.metric?_eq_some hm).1 s hs hne
      rw [hgone m s hm hs] at hsource
      cases hsource
    constructor
    · cases hfound : e.found id b with
      | none => rfl
      | some rows =>
        obtain ⟨s, sql, hasks, -⟩ := hhit hfound
        exact absurd hasks (hnone s sql)
    · rcases runMetric_cases id (e.asked id b).run e.before.world with
        ⟨failure, hrun⟩ | ⟨s, sql, hasks, -⟩
      · have hfresh : e.fresh id b = .error failure := by rw [fresh_eq, hrun]
        rcases hresponse with ⟨_, _, hrows, -⟩ | ⟨_, -, hsent⟩
        · cases hfresh.symm.trans hrows
        · exact ⟨_, hsent⟩
      · exact absurd hasks (hnone s sql)

end Exchange

/-- The cache is right after every request of a run, and each of them met a cache that was right. -/
theorem Run.sound {start : App} {log : List Exchange} (hrun : Run start log a) (hnew : start.IsNew)
    (hpolicy : start.policy.IsJson) (hjson : ∀ e ∈ log, e.IsJson)
    (hundisturbed : ∀ e ∈ log, e.ChangesRows → e.Undisturbed)
    (hanswered : ∀ e ∈ log, e.Answered db) :
    Sound db (hashedTexts log) a ∧ ∀ e ∈ log, Sound db (hashedTexts log) e.before := by
  induction hrun with
  | start => exact ⟨.of_isNew hnew hpolicy, List.forall_mem_nil _⟩
  | @request log a _ r ih =>
    rw [List.forall_mem_append, List.forall_mem_singleton] at hjson hundisturbed hanswered
    obtain ⟨hafter, hbefore⟩ := ih hjson.1 hundisturbed.1 hanswered.1
    have hsub : hashedTexts log ⊆ hashedTexts (log ++ [⟨a, r⟩]) :=
      hashedTexts_mono fun e he => List.mem_append_left _ he
    refine ⟨?_, List.forall_mem_append.2 ⟨fun e he => (hbefore e he).mono hsub,
      List.forall_mem_singleton.2 (hafter.mono hsub)⟩⟩
    exact Exchange.sound_handle (e := ⟨a, r⟩) (hafter.mono hsub) hjson.2 hundisturbed.2 hanswered.2
      (hashedTexts_mono fun e he => List.mem_append_right _ he)
  | @outside log a _ clock now warehouse hsame ih =>
    obtain ⟨hafter, hbefore⟩ := ih hjson hundisturbed hanswered
    refine ⟨⟨hafter.consistent, hafter.attached, hafter.policy, fun p hp => ?_⟩, hbefore⟩
    have hworld : Harmless a.world { a.world with warehouse, now } :=
      .of_catalog rfl (Warehouse.contents_congr hsame)
    exact (hafter.entries p hp).sameFor fun id _ s _ => hworld.sameFor id s

/-- In a run of the service from its start, with JSON bodies and a policy of JSON values, in which
every load and every removal succeeds or leaves all rows alone and the warehouse answers as a
database does whose answers are a function of the rows: whoever asks for a metric is sent the rows
or the failure of a fresh run under the caller's filters, and what is gone is never answered from
the cache, provided that no two texts that are hashed have the same digest. -/
theorem cache_transparent (db : RowFunction) {start a : App} {log : List Exchange}
    (hrun : Run start log a) (hnew : start.IsNew) (hpolicy : start.policy.IsJson)
    (hjson : ∀ e ∈ log, e.IsJson) (hundisturbed : ∀ e ∈ log, e.ChangesRows → e.Undisturbed)
    (hanswered : ∀ e ∈ log, e.Answered db) (hinj : Set.InjOn sha256Hex (hashedTexts log)) :
    ∀ e ∈ log, ∀ id b, e.RunsMetric id b → e.Transparent id b := by
  intro e he id b hruns
  have hsound := (hrun.sound hnew hpolicy hjson hundisturbed hanswered).2 e he
  refine Exchange.transparent_of_sound hsound hinj (hjson e he) (hanswered e he) ?_ hruns
  exact hashedTexts_mono fun f hf => List.mem_singleton.1 hf ▸ he

/-! ## Running a metric twice -/

namespace CountedOrders

/-- A request that posts a JSON object. -/
def posted (path : String) (headers : List (String × String)) (fields : Fields) : Request :=
  ⟨"POST", path, [], headers, some (.object fields)⟩

/-- The id of the source, which is the first record. -/
def salesId : String := "00000001-0000-4000-8000-000000000001"

/-- The id of the metric, which is the third record. -/
def countId : String := "00000003-0000-4000-8000-000000000003"

/-- Creates the data source `sales`. -/
def createSales : Request := posted "/data-sources" [] [("name", .text "sales")]

/-- Creates the table `orders` of `sales`, without rows. -/
def createOrders : Request :=
  posted ("/data-sources/" ++ salesId ++ "/tables") []
    [("table_name", .text "orders"), ("schema", .object [("columns",
      .list [.object [("name", .text "region"), ("type", .text "string")]])])]

/-- Creates a metric that counts the orders. -/
def createCount : Request :=
  posted "/metrics" []
    [("name", .text "orders"), ("display_name", .text "Orders"),
      ("expression", .text "COUNT(region)"), ("data_source_id", .text salesId)]

/-- Runs the metric. -/
def runCount (headers : List (String × String)) (filters : Fields) : Request :=
  posted ("/metrics/" ++ countId ++ "/execute") headers [("filters", .object filters)]

/-! ### What the first requests create -/

/-- The source that is created. -/
def sales : DataSource := ⟨salesId, "sales", none, .csv, true, default⟩

/-- The columns of the table that is created. -/
def regions : Schema :=
  ⟨[⟨"region", .string, true, false, by decide⟩], [], by decide, by decide⟩

/-- The table that is created. -/
def orders : DataTable :=
  ⟨"00000002-0000-4000-8000-000000000002", salesId, "orders", "ds_00000001_orders", regions, 0,
    default, default⟩

/-- The metric that is created. -/
def orderCount : Metric :=
  ⟨countId, ⟨"orders", "Orders", none, defaultFormat, defaultPlaces, none, none⟩, .simple,
    "COUNT(region)", .aggregation .count "region", some salesId, true, default⟩

/-- What `createOrders` asks for. -/
def ordersBody : TableBody := ⟨"orders", [], some regions⟩

/-- What `createCount` asks for. -/
def countDefinition : MetricDefinition := ⟨orderCount.label, none, "COUNT(region)", some salesId⟩

/-- The world with the source. -/
def worldOfSales : World :=
  ⟨⟨[sales], [], [], 1⟩, .new .postgres Warehouse.defaultTimeoutMs, default⟩

/-- The world with the source and its table. -/
def worldOfOrders : World := (App.createFor salesId ordersBody worldOfSales).2

/-- The world with the source, its table and the metric. -/
def worldOfCount : World := ⟨⟨[sales], [orders], [orderCount], 3⟩, worldOfOrders.warehouse, default⟩

/-- The service in a world, with nothing cached. -/
def serviceIn (world : World) (policy : AccessPolicy) : App :=
  ⟨world, .empty (.whole 300) 256, .whole 0, policy⟩

/-- The service at its start. -/
def started : AccessPolicy → App :=
  serviceIn ⟨.empty, .new .postgres Warehouse.defaultTimeoutMs, default⟩

/-- The paths of the requests lead to what they ask for. -/
theorem routes : Route.find createSales.method createSales.path = .endpoint .createSource
    ∧ Route.find createOrders.method createOrders.path = .endpoint (.createTable salesId)
    ∧ Route.find createCount.method createCount.path = .endpoint .createMetric
    ∧ Route.find "POST" ("/data-sources/" ++ salesId ++ "/tables/orders/rows")
      = .endpoint (.appendRows salesId "orders")
    ∧ Route.find "POST" ("/metrics/" ++ countId ++ "/execute") = .endpoint (.runMetric countId) := by
  decide +kernel

theorem handle_createSales (policy : AccessPolicy) :
    (started policy).handle createSales
      = (.created sales.toValue, serviceIn worldOfSales policy) := by
  have hbody : readBody createSales SourceBody.read = .valid ⟨"sales", none, .csv⟩ := rfl
  have hid : salesId = recordId 1 := rfl
  unfold App.handle
  rw [routes.1]
  show (started policy).createSource createSales = _
  unfold App.createSource worldOfSales sales
  rw [hbody, hid]
  rfl

/-- What the creation of the table returns and leaves. -/
theorem orders_created : (App.createFor salesId ordersBody worldOfSales).1.toOption = some orders
    ∧ worldOfOrders.catalog.sources = [sales] ∧ worldOfOrders.catalog.tables = [orders]
    ∧ worldOfOrders.catalog.metrics = [] ∧ worldOfOrders.catalog.issued = 2
    ∧ worldOfOrders.now = default ∧ (worldOfOrders.contents orders.physicalName).isSome := by
  decide +kernel

theorem createFor_orders :
    App.createFor salesId ordersBody worldOfSales = (.ok orders, worldOfOrders) :=
  Prod.ext (eq_ok_of_toOption orders_created.1) rfl

theorem handle_createOrders (policy : AccessPolicy) :
    (serviceIn worldOfSales policy).handle createOrders
      = (.created orders.toValue, serviceIn worldOfOrders policy) := by
  have hbody : readBody createOrders TableBody.read = .valid ordersBody := rfl
  unfold App.handle
  rw [routes.2.1]
  show (serviceIn worldOfSales policy).createTable createOrders salesId = _
  unfold App.createTable
  rw [hbody]
  show (serviceIn worldOfSales policy).change salesId (App.createFor salesId ordersBody)
    (fun t => .created t.toValue) = _
  unfold App.change App.perform serviceIn
  dsimp only
  rw [createFor_orders]
  rfl

section Compilation

open Lexer MetricLayer.Parser Text

theorem parse_count :
    Expr.parse "COUNT(region)" = .ok (.aggregate .count (.field "region") false) := by
  have hregion : tokensFrom 6 "region)".toList
      = .ok [⟨.name, "region".toList, 6⟩, ⟨.rightParen, [')'], 12⟩] := by
    rw [show "region)".toList = 'r' :: ("egion".toList ++ [')']) from rfl,
      tokensFrom_name 6 (by decide) (List.all_eq_true.1 (by decide)) (by rintro d ⟨⟩; decide),
      tokensFrom_rightParen]
    rfl
  have htokens : tokens (stripBlanks "COUNT(region)".toList)
      = .ok [⟨.name, "COUNT".toList, 0⟩, ⟨.leftParen, ['('], 5⟩, ⟨.name, "region".toList, 6⟩,
        ⟨.rightParen, [')'], 12⟩] := by
    rw [show stripBlanks "COUNT(region)".toList = 'C' :: ("OUNT".toList ++ '(' :: "region)".toList)
      by decide, tokens,
      tokensFrom_name 0 (by decide) (List.all_eq_true.1 (by decide)) (by rintro d ⟨⟩; decide),
      tokensFrom_leftParen, show 0 + ('C' :: "OUNT".toList).length + 1 = 6 from rfl, hregion]
    rfl
  have hcount : Aggregate.ofName? (⟨.name, "COUNT".toList, 0⟩ : Token).upper = some .count := by cbv
  have hplain : plainPart? [⟨.name, "region".toList, 6⟩]
      = some (false, [⟨.name, "region".toList, 6⟩]) := by cbv
  have hcall : Derives (stripBlanks "COUNT(region)".toList) _
      [⟨.name, "COUNT".toList, 0⟩, ⟨.leftParen, ['('], 5⟩, ⟨.name, "region".toList, 6⟩,
        ⟨.rightParen, [')'], 12⟩] :=
    .plainAggregate rfl hcount rfl (by cbv) hplain rfl
  have hfield : fieldOf (stripBlanks "COUNT(region)".toList) 12 [⟨.name, "region".toList, 6⟩]
      = .field "region" := by cbv
  rw [hfield] at hcall
  exact Expr.parse_eq_ok.2 ⟨by decide, by decide,
    parseChars_complete htokens (by decide) (.sum (.product (.signed hcall)))⟩

theorem compiled_count :
    Compiled.ofText "COUNT(region)" = .ok (.aggregation .count "region") := by
  have hleading : Compiled.leadingTimeCall? (strip "COUNT(region)").toList = none := by cbv
  rw [Compiled.ofText_ordinary parse_count hleading]
  rfl

end Compilation

theorem worldOfOrders_eq :
    worldOfOrders = ⟨⟨[sales], [orders], [], 2⟩, worldOfOrders.warehouse, default⟩ := by
  obtain ⟨-, hsources, htables, hmetrics, hissued, hnow, -⟩ := orders_created
  rw [← hsources, ← htables, ← hmetrics, ← hissued, ← hnow]

theorem createMetric_count :
    Action.createMetric countDefinition worldOfOrders = (.ok orderCount, worldOfCount) := by
  have hid : countId = recordId 3 := rfl
  unfold Action.createMetric worldOfCount orderCount
  rw [show countDefinition.expression = "COUNT(region)" from rfl, compiled_count, worldOfOrders_eq,
    hid]
  rfl

theorem handle_createCount (policy : AccessPolicy) :
    (serviceIn worldOfOrders policy).handle createCount
      = (.created orderCount.toValue, serviceIn worldOfCount policy) := by
  have hbody : readBody createCount (MetricDefinition.read .request) = .valid countDefinition := rfl
  unfold App.handle
  rw [routes.2.2.1]
  show (serviceIn worldOfOrders policy).createMetric createCount = _
  unfold App.createMetric
  rw [hbody]
  unfold App.reading App.answer App.perform serviceIn
  dsimp only
  rw [createMetric_count]
  rfl

/-! ### Two runs -/

/-- The next query is answered with one number, and no statement fails. -/
def answering (a : App) (n : Int) : App :=
  let warehouse := { a.world.warehouse with results := [⟨["value"], [[.int n]]⟩], faultIn := 0 }
  { a with world := { a.world with warehouse } }

/-- The rows with one number. -/
def numberRows (n : Int) : Rows := [[("value", .int n)]]

theorem query_answering (a : App) (n : Int) (sql : String) :
    ((answering a n).world.warehouse.query sql []).1 = .ok (numberRows n) := rfl

theorem policy_answering (a : App) (n : Int) : (answering a n).policy = a.policy := rfl

theorem clock_answering (a : App) (n : Int) : (answering a n).clock = a.clock := rfl

theorem cache_answering (a : App) (n : Int) : (answering a n).cache = a.cache := rfl

theorem answering_harmless (a : App) (n : Int) : Harmless a.world (answering a n).world :=
  .of_catalog rfl (Warehouse.contents_congr rfl)

theorem run_answering {start a : App} {log : List Exchange} (h : Run start log a) (n : Int) :
    Run start log (answering a n) := h.outside a.clock a.world.now _ rfl

section Runs

variable (policy : AccessPolicy) (r s : Request) (n : Int)

/-- The requests that create the source, its table and the metric. -/
def creations : List Exchange :=
  [⟨started policy, createSales⟩, ⟨serviceIn worldOfSales policy, createOrders⟩,
    ⟨serviceIn worldOfOrders policy, createCount⟩]

/-- The metric is run for the first time, and its query has the answer zero. -/
def firstRun : Exchange := ⟨answering (serviceIn worldOfCount policy) 0, r⟩

/-- The metric is run again, and its query would have the answer `n`. -/
def secondRun : Exchange := ⟨answering (firstRun policy r).after n, s⟩

/-- All requests. -/
def twoRuns : List Exchange := creations policy ++ [firstRun policy r] ++ [secondRun policy r s n]

theorem run_creations :
    Run (started policy) (creations policy) (serviceIn worldOfCount policy) := by
  have hstart : Run (started policy) [] (started policy) := .start
  have hsales := hstart.request createSales
  rw [handle_createSales] at hsales
  have horders := hsales.request createOrders
  rw [handle_createOrders] at horders
  have hcount := horders.request createCount
  rwa [handle_createCount] at hcount

theorem before_firstRun :
    (firstRun policy r).before = answering (serviceIn worldOfCount policy) 0 := rfl

theorem before_secondRun :
    (secondRun policy r s n).before = answering (firstRun policy r).after n := rfl

theorem run_twoRuns :
    Run (started policy) (twoRuns policy r s n) (secondRun policy r s n).after := by
  have hfirst : Run (started policy) (creations policy) (firstRun policy r).before :=
    run_answering (run_creations policy) 0
  have hafter := Run.exchange (e := firstRun policy r) hfirst
  have hsecond : Run (started policy) (creations policy ++ [firstRun policy r])
      (secondRun policy r s n).before := by
    rw [before_secondRun]
    exact run_answering hafter n
  exact Run.exchange (e := secondRun policy r s n) hsecond

end Runs

variable {policy : AccessPolicy} {r s : Request} {n : Int} {b c : RunBody} {sql : String}

theorem secondRun_mem : secondRun policy r s n ∈ twoRuns policy r s n :=
  List.mem_append_right _ (List.mem_singleton_self _)

theorem forall_mem_twoRuns {p : Exchange → Prop} (hcreations : ∀ e ∈ creations policy, p e)
    (hfirst : p (firstRun policy r)) (hsecond : p (secondRun policy r s n)) :
    ∀ e ∈ twoRuns policy r s n, p e :=
  List.forall_mem_append.2 ⟨List.forall_mem_append.2
    ⟨hcreations, List.forall_mem_singleton.2 hfirst⟩, List.forall_mem_singleton.2 hsecond⟩

/-- A request that creates something runs no metric. -/
theorem creation_harmless {v : Value} {endpoint : Endpoint}
    (hroute : Route.find r.method r.path = .endpoint endpoint)
    (hendpoint : ∀ id, endpoint ≠ .runMetric id) (hbody : ∀ v ∈ r.body, v.IsJson)
    (hcreated : a.handle r = (.created v, a')) :
    (⟨a, r⟩ : Exchange).IsJson ∧ (⟨a, r⟩ : Exchange).Undisturbed
      ∧ ∀ id b, ¬(⟨a, r⟩ : Exchange).RunsMetric id b := by
  refine ⟨hbody, .inl ?_, fun id b h => hendpoint id ?_⟩
  · rw [hcreated]
    show 201 < 300
    decide
  · cases hroute.symm.trans h.1
    rfl

theorem creations_harmless : ∀ e ∈ creations policy,
    e.IsJson ∧ e.Undisturbed ∧ ∀ id b, ¬e.RunsMetric id b := by
  have hsales : ∀ v ∈ createSales.body, v.IsJson := by
    rintro v ⟨⟩
    exact .object (by simp [Value.IsJson.text])
  have horders : ∀ v ∈ createOrders.body, v.IsJson := by
    rintro v ⟨⟩
    refine .object (List.forall_mem_cons.2 ⟨.text _, List.forall_mem_singleton.2 (.object
      (List.forall_mem_singleton.2 (.list (List.forall_mem_singleton.2 (.object ?_)))))⟩)
    simp [Value.IsJson.text]
  have hcount : ∀ v ∈ createCount.body, v.IsJson := by
    rintro v ⟨⟩
    exact .object (by simp [Value.IsJson.text])
  intro e he
  simp only [creations, List.mem_cons, List.not_mem_nil, or_false] at he
  rcases he with rfl | rfl | rfl
  · exact creation_harmless routes.1 nofun hsales (handle_createSales policy)
  · exact creation_harmless routes.2.1 nofun horders (handle_createOrders policy)
  · exact creation_harmless routes.2.2.1 nofun hcount (handle_createCount policy)

theorem runCount_runsMetric (a : App) (headers : List (String × String)) (filters : Fields) :
    (⟨a, runCount headers filters⟩ : Exchange).RunsMetric countId ⟨filters, [], none⟩ :=
  ⟨routes.2.2.2.2, rfl⟩

/-- When both runs ask with one text, no other text is hashed. -/
theorem hashedTexts_twoRuns {text : String}
    (hfirst : (firstRun policy r).RunsMetric countId b)
    (hsecond : (secondRun policy r s n).RunsMetric countId c)
    (hb : ((firstRun policy r).asked countId b).value.canonical = text)
    (hc : ((secondRun policy r s n).asked countId c).value.canonical = text) :
    hashedTexts (twoRuns policy r s n) ⊆ {text} := by
  rintro _ ⟨e, he, id, d, hruns, rfl⟩
  revert id d
  revert e
  refine forall_mem_twoRuns (fun e he id d hruns => ?_) (fun id d hruns => ?_) fun id d hruns => ?_
  · exact absurd hruns ((creations_harmless e he).2.2 id d)
  · obtain ⟨rfl, rfl⟩ := hfirst.unique hruns
    exact hb
  · obtain ⟨rfl, rfl⟩ := hsecond.unique hruns
    exact hc

/-- The second run asks under the policy of the start. -/
theorem secondRun_asked (h : (firstRun policy r).RunsMetric countId b) :
    (secondRun policy r s n).asked countId c = ⟨countId,
      some (policy.mergedFilters s.userId? c.filters), some c.groupBy, c.dateField⟩ := by
  have hpolicy : (secondRun policy r s n).before.policy = policy := by
    rw [before_secondRun, policy_answering, h.settings.1, before_firstRun, policy_answering]
    rfl
  unfold Exchange.asked App.resultRequest
  rw [hpolicy]
  rfl

theorem asks_count {filters : Value}
    (h : (orderCount.compiled.query ⟨orders.physicalName, filters, [], none⟩).toOption = some sql) :
    worldOfCount.Asks countId salesId ⟨filters, [], none⟩ sql :=
  ⟨orderCount, orders, rfl, rfl, by decide, rfl, eq_ok_of_toOption h⟩

theorem firstRun_asks {t : RunRequest} (hasks : worldOfCount.Asks countId salesId t sql) :
    (firstRun policy r).before.world.Asks countId salesId t sql :=
  hasks.sameFor ((answering_harmless (serviceIn worldOfCount policy) 0).sameFor countId salesId)

theorem secondRun_asks (h : (firstRun policy r).RunsMetric countId b) {t : RunRequest}
    (hasks : worldOfCount.Asks countId salesId t sql) :
    (secondRun policy r s n).before.world.Asks countId salesId t sql := by
  have hafter := (firstRun_asks hasks).sameFor (h.harmless.sameFor countId salesId)
  exact hafter.sameFor ((answering_harmless _ n).sameFor countId salesId)

theorem firstRun_fresh
    (hasks : worldOfCount.Asks countId salesId ((firstRun policy r).asked countId b).run sql) :
    (firstRun policy r).fresh countId b = .ok (numberRows 0) := by
  rw [Exchange.fresh_eq, runMetric_of_asks (firstRun_asks hasks)]
  exact query_answering (serviceIn worldOfCount policy) 0 sql

theorem secondRun_fresh (h : (firstRun policy r).RunsMetric countId b)
    (hasks : worldOfCount.Asks countId salesId ((secondRun policy r s n).asked countId c).run sql) :
    (secondRun policy r s n).fresh countId c = .ok (numberRows n) := by
  rw [Exchange.fresh_eq, runMetric_of_asks (secondRun_asks h hasks)]
  exact query_answering (firstRun policy r).after n sql

section Answers

variable {answer : String → Outcome Rows} {id sql' : String} {d : RunBody}

theorem firstRun_answered (h : (firstRun policy r).RunsMetric countId b)
    (hasks : worldOfCount.Asks countId salesId ((firstRun policy r).asked countId b).run sql)
    (hanswer : answer sql = .ok (numberRows 0)) (hruns : (firstRun policy r).RunsMetric id d)
    (hsql : (metricQuery id ((firstRun policy r).asked id d).run
      (firstRun policy r).before.world).1 = .ok sql') :
    ((firstRun policy r).before.world.warehouse.query sql' []).1 = answer sql' := by
  obtain ⟨rfl, rfl⟩ := h.unique hruns
  rw [metricQuery_of_asks (firstRun_asks hasks)] at hsql
  cases hsql
  rw [hanswer]
  exact query_answering (serviceIn worldOfCount policy) 0 sql

theorem secondRun_answered (h : (firstRun policy r).RunsMetric countId b)
    (h' : (secondRun policy r s n).RunsMetric countId c)
    (hasks : worldOfCount.Asks countId salesId ((secondRun policy r s n).asked countId c).run sql)
    (hanswer : answer sql = .ok (numberRows n)) (hruns : (secondRun policy r s n).RunsMetric id d)
    (hsql : (metricQuery id ((secondRun policy r s n).asked id d).run
      (secondRun policy r s n).before.world).1 = .ok sql') :
    ((secondRun policy r s n).before.world.warehouse.query sql' []).1 = answer sql' := by
  obtain ⟨rfl, rfl⟩ := h'.unique hruns
  rw [metricQuery_of_asks (secondRun_asks h hasks)] at hsql
  cases hsql
  rw [hanswer]
  exact query_answering (firstRun policy r).after n sql

end Answers

/-- The second run finds the rows of the first one if it asks with the same text. -/
theorem secondRun_found (h : (firstRun policy r).RunsMetric countId b)
    (hasks : worldOfCount.Asks countId salesId ((firstRun policy r).asked countId b).run sql)
    (htext : ((secondRun policy r s n).asked countId c).value.canonical
      = ((firstRun policy r).asked countId b).value.canonical) :
    (secondRun policy r s n).found countId c = some (numberRows 0) := by
  refine h.found_again rfl (firstRun_fresh hasks) ?_ ?_ htext
  · rw [before_secondRun, cache_answering]
  · rw [before_secondRun, clock_answering, h.settings.2]
    show ¬Seconds.whole 0 + Seconds.whole 300 ≤ Seconds.whole 0
    decide

/-! ### One caller twice -/

/-- A request for all rows, for no group and no date. -/
def everything : RunBody := ⟨[], [], none⟩

/-- What is asked by everyone who requests that without restrictions. -/
def countAll : ResultRequest := ⟨countId, some [], some [], none⟩

/-- The query for the number of orders. -/
def countSql : String := "SELECT COUNT(\"region\") AS value FROM \"ds_00000001_orders\""

theorem query_countAll :
    orderCount.compiled.query ⟨orders.physicalName, countAll.run.filters, [], none⟩
      = .ok countSql :=
  eq_ok_of_toOption (by decide +kernel)

theorem asks_countAll : worldOfCount.Asks countId salesId countAll.run countSql :=
  ⟨orderCount, orders, rfl, rfl, by decide, rfl, query_countAll⟩

/-- A database that counts no rows. -/
def countsNothing : RowFunction where
  answer _ _ := .ok (numberRows 0)
  answer_congr _ _ := rfl
  answer_ordered _ _ _ _ := rfl

/-- The second of two equal requests for the metric. -/
def countedAgain : Exchange := secondRun .unrestricted (runCount [] []) (runCount [] []) 0

theorem countedAgain_transparent :
    countedAgain.RunsMetric countId everything
      ∧ countedAgain.found countId everything = some (numberRows 0)
      ∧ countedAgain.Transparent countId everything := by
  have hfirst : (firstRun .unrestricted (runCount [] [])).RunsMetric countId everything :=
    runCount_runsMetric _ [] []
  have hsecond : countedAgain.RunsMetric countId everything := runCount_runsMetric _ [] []
  have htext : (countedAgain.asked countId everything).value.canonical
      = ((firstRun .unrestricted (runCount [] [])).asked countId everything).value.canonical :=
    congrArg (fun q => q.value.canonical) (secondRun_asked hfirst)
  have hasks : worldOfCount.Asks countId salesId ⟨.object [], [], none⟩
      "SELECT COUNT(\"region\") AS value FROM \"ds_00000001_orders\"" :=
    asks_count (by decide +kernel)
  have hjson : ∀ v ∈ (runCount [] []).body, v.IsJson := by
    rintro v ⟨⟩
    exact .object (List.forall_mem_singleton.2 (.object (List.forall_mem_nil _)))
  refine ⟨hsecond, secondRun_found hfirst hasks htext, ?_⟩
  have hrun := run_twoRuns .unrestricted (runCount [] []) (runCount [] []) 0
  refine cache_transparent countsNothing hrun ⟨rfl, rfl, rfl⟩ AccessPolicy.isJson_unrestricted
    ?_ ?_ ?_ ?_ countedAgain secondRun_mem countId everything hsecond
  · exact forall_mem_twoRuns (fun e he => (creations_harmless e he).1) hjson hjson
  · exact forall_mem_twoRuns (fun e he _ => (creations_harmless e he).2.1)
      (fun h => absurd h hfirst.not_changesRows) fun h => absurd h hsecond.not_changesRows
  · refine forall_mem_twoRuns (fun e he id b _ h => absurd h ((creations_harmless e he).2.2 id b))
      (fun _ _ sql _ _ => ?_) fun _ _ sql _ _ => ?_
    · exact query_answering (serviceIn worldOfCount .unrestricted) 0 sql
    · exact query_answering (firstRun .unrestricted (runCount [] [])).after 0 sql
  · exact (Set.injOn_singleton _ _).mono (hashedTexts_twoRuns hfirst hsecond rfl htext)

/-! ### A caller who is restricted to a moment -/

/-- A moment in the form of a policy, where it is no text. -/
def tenOClock : Moment := ⟨⟨2024, 1, 1, by decide⟩, ⟨10, 0, 0, 0, by decide⟩, none⟩

/-- The policy that restricts `alice` to the moment. -/
def momentPolicy : AccessPolicy :=
  .ofValue (.object [("users", .object [("alice", .object [("region", .moment tenOClock)])])])

/-- A filter by the text of the moment, as anybody may send it. -/
def byText : Fields := [("region", .text "2024-01-01 10:00:00")]

/-- The query under the filter by the text. -/
def textQuery : String :=
  "SELECT COUNT(\"region\") AS value FROM \"ds_00000001_orders\""
    ++ " WHERE \"region\" = '2024-01-01 10:00:00'"

/-- The query under the restriction of `alice`. -/
def momentQuery : String :=
  "SELECT COUNT(\"region\") AS value FROM \"ds_00000001_orders\""
    ++ " WHERE \"region\" = '2024-01-01T10:00:00'"

/-- The number of orders at the moment is one, at its text zero. -/
def answerTo (sql : String) : Outcome Rows :=
  if sql = momentQuery then .ok (numberRows 1) else .ok (numberRows 0)

/-- The request of `alice` after the one by the text. -/
def runOfAlice : Exchange :=
  secondRun momentPolicy (runCount [] byText) (runCount [("X-User-Id", "alice")] []) 1

/-- All requests up to that of `alice`. -/
def runsByMoment : List Exchange :=
  twoRuns momentPolicy (runCount [] byText) (runCount [("X-User-Id", "alice")] []) 1

/-- What is asked by the text. -/
def textRequest : ResultRequest := ⟨countId, some byText, some [], none⟩

/-- What `alice` asks. -/
def momentRequest : ResultRequest :=
  ⟨countId, some [("region", .moment tenOClock)], some [], none⟩

/-- Both requests have their queries. -/
theorem queries_by_moment : (orderCount.compiled.query
      ⟨orders.physicalName, textRequest.run.filters, [], none⟩).toOption = some textQuery
    ∧ (orderCount.compiled.query
      ⟨orders.physicalName, momentRequest.run.filters, [], none⟩).toOption = some momentQuery := by
  decide +kernel

theorem asks_text : worldOfCount.Asks countId salesId textRequest.run textQuery :=
  asks_count queries_by_moment.1

theorem asks_moment : worldOfCount.Asks countId salesId momentRequest.run momentQuery :=
  asks_count queries_by_moment.2

theorem momentRequest_text : momentRequest.value.canonical = textRequest.value.canonical :=
  canonical_requestValue countId (.list []) .null (Value.canonical_object_congr rfl)

theorem runOfAlice_asked
    (h : (firstRun momentPolicy (runCount [] byText)).RunsMetric countId ⟨byText, [], none⟩) :
    runOfAlice.asked countId everything = momentRequest := by
  have huser : (runCount [("X-User-Id", "alice")] []).userId? = some "alice" := by cbv
  have hfilters : momentPolicy.mergedFilters (some "alice") []
      = [("region", .moment tenOClock)] := rfl
  unfold runOfAlice
  rw [secondRun_asked h, huser]
  show (⟨countId, some (momentPolicy.mergedFilters (some "alice") []), some [], none⟩
    : ResultRequest) = _
  rw [hfilters]
  rfl

/-- In this run every request but the last two creates something, the answers of the warehouse are a
function of the query, and no two texts with one digest are hashed. -/
theorem runOfAlice_foreign :
    (∃ a, Run (started momentPolicy) runsByMoment a)
      ∧ (started momentPolicy).IsNew
      ∧ (∀ e ∈ runsByMoment, e.IsJson ∧ (e.ChangesRows → e.Undisturbed) ∧ ∀ id b sql, e.RunsMetric id b →
        (metricQuery id (e.asked id b).run e.before.world).1 = .ok sql →
          (e.before.world.warehouse.query sql []).1 = answerTo sql)
      ∧ Set.InjOn sha256Hex (hashedTexts runsByMoment)
      ∧ runOfAlice.RunsMetric countId everything
      ∧ runOfAlice.fresh countId everything = .ok (numberRows 1)
      ∧ runOfAlice.response = App.sendResult countId true (numberRows 0)
      ∧ ¬runOfAlice.Transparent countId everything := by
  have hfirst : (firstRun momentPolicy (runCount [] byText)).RunsMetric countId
      ⟨byText, [], none⟩ := runCount_runsMetric _ [] byText
  have hsecond : runOfAlice.RunsMetric countId everything := runCount_runsMetric _ _ []
  have hasked := runOfAlice_asked hfirst
  have htext : (runOfAlice.asked countId everything).value.canonical
      = textRequest.value.canonical := by
    rw [hasked]
    exact momentRequest_text
  have hasks : worldOfCount.Asks countId salesId (runOfAlice.asked countId everything).run
      momentQuery := by
    rw [hasked]
    exact asks_moment
  have hfresh : runOfAlice.fresh countId everything = .ok (numberRows 1) :=
    secondRun_fresh hfirst hasks
  have hsent : runOfAlice.response = App.sendResult countId true (numberRows 0) :=
    hsecond.response_of_found (secondRun_found hfirst asks_text htext)
  refine ⟨⟨_, run_twoRuns _ _ _ _⟩, ⟨rfl, rfl, rfl⟩, ?_, ?_, hsecond, hfresh, hsent, fun h => ?_⟩
  · refine forall_mem_twoRuns (fun e he => ?_)
      ⟨?_, fun h => absurd h hfirst.not_changesRows, fun id b sql h hsql => ?_⟩
      ⟨?_, fun h => absurd h hsecond.not_changesRows, fun id b sql h hsql => ?_⟩
    · obtain ⟨hjson, hundisturbed, hruns⟩ := creations_harmless e he
      exact ⟨hjson, fun _ => hundisturbed, fun id b _ h => absurd h (hruns id b)⟩
    · rintro v ⟨⟩
      exact .object (List.forall_mem_singleton.2 (.object (List.forall_mem_singleton.2 (.text _))))
    · exact firstRun_answered hfirst asks_text (if_neg (by decide)) h hsql
    · rintro v ⟨⟩
      exact .object (List.forall_mem_singleton.2 (.object (List.forall_mem_nil _)))
    · exact secondRun_answered hfirst hsecond hasks (if_pos rfl) h hsql
  · exact (Set.injOn_singleton _ _).mono (hashedTexts_twoRuns hfirst hsecond rfl htext)
  · obtain ⟨cached, hrows⟩ := h.rows _ hfresh
    rw [hsent] at hrows
    have hbody := congrArg Response.body hrows
    cases hbody

end CountedOrders

end MetricLayer.Http
