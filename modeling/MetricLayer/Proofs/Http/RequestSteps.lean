import MetricLayer.Proofs.Http.Effect
import MetricLayer.Proofs.Service.LoadSteps

/-!
# Requests step by step

A request that runs a metric looks into the cache, queries the warehouse, reads the metric and puts
the rows into the cache.  A request that adds rows checks them, writes them batch by batch, counts
them and drops cached rows.  Each of these is an atomic step (`Job.step`), and between two of them
other requests can take theirs.

Cached rows are kept together with the moments at which they were queried and stored
(`Fetched`).  Nothing depends on these: a request whose steps are taken one after another does what
the service does (`Job.run_alone`, `Job.append_alone`).
-/

namespace MetricLayer.Http

open MetricLayer.Action

/-- Rows of a metric and their history. -/
structure Fetched where
  /-- The rows. -/
  rows : Rows
  /-- The moment at which the warehouse was queried for them. -/
  queried : Nat
  /-- The moment at which they were put into the cache. -/
  stored : Nat

/-- What all requests share. -/
structure Shared where
  /-- The records and the rows. -/
  world : World
  /-- The cached rows of metrics. -/
  cache : ResultCache Seconds Fetched
  /-- The time on the clock of the cache. -/
  clock : Seconds
  /-- The number of steps so far. -/
  moment : Nat

namespace Shared

/-- The shared state after a step. -/
def tick (a : Shared) : Shared := { a with moment := a.moment + 1 }

/-- The state of the service, under a policy. -/
def app (a : Shared) (policy : AccessPolicy) : App :=
  ⟨a.world, a.cache.mapValues Fetched.rows, a.clock, policy⟩

end Shared

/-! ## Running a metric -/

/-- How far a request is that runs a metric. -/
inductive RunPhase where
  /-- It has done nothing. -/
  | called
  /-- It found nothing in the cache. -/
  | missed (lookedUp : Nat)
  /-- It has rows from the warehouse. -/
  | queried (lookedUp : Nat) (rows : Rows) (queried : Nat)
  /-- It knows the metric that the rows belong to. -/
  | described (lookedUp : Nat) (rows : Rows) (queried : Nat) (m : Metric)
  /-- It answers with rows, from the cache or from the warehouse. -/
  | returned (lookedUp : Nat) (cached : Bool) (result : Fetched)
  /-- It answers with a failure. -/
  | failed (failure : Failure)

namespace RunPhase

/-- The next step of a request that runs a metric. -/
def step (q : ResultRequest) : RunPhase → Shared → RunPhase × Shared
  | called, a =>
    match a.cache.get a.clock q.value.digest with
    | (some result, cache) => (returned a.moment true result, { a with cache })
    | (none, cache) => (missed a.moment, { a with cache })
  | missed lookedUp, a =>
    match Action.runMetric q.metricId q.run a.world with
    | (.ok rows, world) => (queried lookedUp rows a.moment, { a with world })
    | (.error failure, world) => (failed failure, { a with world })
  | queried lookedUp rows moment, a =>
    match findMetric q.metricId a.world with
    | (.ok m, world) => (described lookedUp rows moment m, { a with world })
    | (.error failure, world) => (failed failure, { a with world })
  | described lookedUp rows moment m, a =>
    let result : Fetched := ⟨rows, moment, a.moment⟩
    (returned lookedUp false result,
      { a with cache := a.cache.put a.clock q.value.digest result [some m.id, m.sourceId] })
  | p, a => (p, a)

/-- The response, once there is one. -/
def response? (q : ResultRequest) : RunPhase → Option Response
  | returned _ cached result => some (App.sendResult q.metricId cached result.rows)
  | failed failure => some (.ofFailure failure)
  | _ => none

end RunPhase

/-! ## Adding rows -/

/-- How far a request is that adds rows to a table. -/
inductive AppendPhase where
  /-- It loads them; `written` is the moment of the last batch so far. -/
  | loading (phase : LoadPhase) (written : Option Nat)
  /-- It has answered; `dropped` is the moment at which it dropped cached rows. -/
  | returned (outcome : Outcome DataTable) (written dropped : Option Nat)

namespace AppendPhase

/-- The next step of a request that adds rows to a table of a source. -/
def step (sourceId : String) (l : Load) : AppendPhase → Shared → AppendPhase × Shared
  | loading (.returned (.ok t)) written, a =>
    (returned (.ok t) written (some a.moment),
      { a with cache := (a.cache.invalidateTag sourceId).2 })
  | loading (.returned (.error failure)) written, a => (returned (.error failure) written none, a)
  | loading p written, a =>
    (loading (p.step App.loading l a.world).1 (if p.writes then some a.moment else written),
      { a with world := (p.step App.loading l a.world).2 })
  | p, a => (p, a)

end AppendPhase

/-! ## Requests -/

/-- A request and how far it is. -/
inductive Job where
  /-- Runs a metric, under the filters of the caller. -/
  | run (q : ResultRequest) (phase : RunPhase)
  /-- Adds rows to a table of a source. -/
  | append (sourceId table : String) (rows : List Row) (phase : AppendPhase)

/-- The next step of a request. -/
def Job.step : Job → Shared → Job × Shared
  | run q p, a => (run q (p.step q a).1, (p.step q a).2.tick)
  | append sourceId table rows p, a =>
    (append sourceId table rows (p.step sourceId (.append sourceId table rows) a).1,
      (p.step sourceId (.append sourceId table rows) a).2.tick)

/-! ## Steps one after another -/

/-- The steps of one request without those of others in between. -/
def Job.steps (n : Nat) (j : Job) (a : Shared) : Job × Shared :=
  (fun s : Job × Shared => s.1.step s.2)^[n] (j, a)

theorem Job.steps_succ (n : Nat) (j : Job) (a : Shared) :
    j.steps (n + 1) a = (j.step a).1.steps n (j.step a).2 := rfl

theorem Job.steps_then {n : Nat} {j j' : Job} {a a' : Shared} (h : j.steps n a = (j', a')) :
    j.steps (n + 1) a = j'.step a' := by
  rw [steps, Function.iterate_succ_apply']
  exact congrArg (fun s : Job × Shared => s.1.step s.2) h

theorem runMetric_catalog (id : String) (r : RunRequest) (w : World) :
    (Action.runMetric id r w).2.catalog = w.catalog := by
  rcases runMetric_cases id r w with ⟨failure, h⟩ | ⟨s, sql, -, h⟩ <;> rw [h]
  rfl

namespace RunPhase

variable {q : ResultRequest} {a : Shared}

theorem step_hit {result : Fetched} {cache : ResultCache Seconds Fetched}
    (h : a.cache.get a.clock q.value.digest = (some result, cache)) :
    called.step q a = (returned a.moment true result, { a with cache }) := by
  rw [step, h]

theorem step_miss {cache : ResultCache Seconds Fetched}
    (h : a.cache.get a.clock q.value.digest = (none, cache)) :
    called.step q a = (missed a.moment, { a with cache }) := by
  rw [step, h]

theorem step_query {lookedUp : Nat} {rows : Rows} {world : World}
    (h : Action.runMetric q.metricId q.run a.world = (.ok rows, world)) :
    (missed lookedUp).step q a = (queried lookedUp rows a.moment, { a with world }) := by
  rw [step, h]

theorem step_queryFailed {lookedUp : Nat} {failure : Failure} {world : World}
    (h : Action.runMetric q.metricId q.run a.world = (.error failure, world)) :
    (missed lookedUp).step q a = (failed failure, { a with world }) := by
  rw [step, h]

theorem step_describe {lookedUp moment : Nat} {rows : Rows} {m : Metric}
    (h : a.world.catalog.metric? q.metricId = some m) :
    (queried lookedUp rows moment).step q a = (described lookedUp rows moment m, a) := by
  rw [step, findMetric_some h]

end RunPhase

theorem Job.step_run {q : ResultRequest} {p p' : RunPhase} {a a' : Shared}
    (h : p.step q a = (p', a')) : (run q p).step a = (run q p', a'.tick) := by
  rw [step, h]

theorem Job.steps_run {q : ResultRequest} {p p' : RunPhase} {a a' : Shared}
    (h : p.step q a = (p', a')) (n : Nat) :
    (run q p).steps (n + 1) a = (run q p').steps n a'.tick := by
  rw [steps_succ, step_run h]

/-- A request that runs a metric does step by step what the service does. -/
theorem Job.run_alone (a : Shared) (policy : AccessPolicy) {r : Request} {b : RunBody} (id : String)
    (hb : readBody r RunBody.read = .valid b) :
    ∃ n p a', (Job.run ((a.app policy).resultRequest r id b) .called).steps n a
        = (Job.run ((a.app policy).resultRequest r id b) p, a')
      ∧ p.response? ((a.app policy).resultRequest r id b) = some ((a.app policy).runMetric r id).1
      ∧ a'.app policy = ((a.app policy).runMetric r id).2 := by
  have hresult := (a.app policy).runMetric_result id hb
  generalize (a.app policy).resultRequest r id b = q at hresult ⊢
  generalize (a.app policy).runMetric r id = result at hresult ⊢
  have hget := a.cache.get_mapValues Fetched.rows a.clock q.value.digest
  rcases hlook : a.cache.get a.clock q.value.digest with ⟨_ | found, cache⟩ <;> rw [hlook] at hget
  · have hmiss := RunPhase.step_miss hlook
    let a₁ : Shared := ⟨a.world, cache, a.clock, a.moment + 1⟩
    cases hresult with
    | hit hfound => cases hget.symm.trans hfound
    | @failed _ failure world hfound hrun =>
      cases hget.symm.trans hfound
      refine ⟨2, .failed failure, ⟨world, cache, a.clock, a.moment + 2⟩, ?_, rfl, rfl⟩
      have hquery : (RunPhase.missed a.moment).step q a₁ = (.failed failure, { a₁ with world }) :=
        RunPhase.step_queryFailed hrun
      rw [steps_run hmiss]
      exact steps_run hquery 0
    | @fresh _ rows world m hfound hrun hm =>
      cases hget.symm.trans hfound
      have hafter : world.catalog.metric? q.metricId = some m := by
        have hcatalog := runMetric_catalog q.metricId q.run a.world
        rw [show Action.runMetric q.metricId q.run a.world = _ from hrun] at hcatalog
        rw [hcatalog]
        exact hm
      let fetched : Fetched := ⟨rows, a.moment + 1, a.moment + 3⟩
      refine ⟨4, .returned a.moment false fetched, ⟨world, cache.put a.clock q.value.digest fetched
        [some m.id, m.sourceId], a.clock, a.moment + 4⟩, ?_, rfl, ?_⟩
      · have hquery : (RunPhase.missed a.moment).step q a₁
            = (.queried a.moment rows (a.moment + 1), { a₁ with world }) :=
          RunPhase.step_query hrun
        rw [steps_run hmiss]
        refine (steps_run hquery 2).trans ?_
        exact steps_run (RunPhase.step_describe hafter) 1
      · exact congrArg (App.mk world · a.clock policy) (cache.put_mapValues _ _ _ _ _).symm
  · cases hresult with
    | hit hfound =>
      cases hget.symm.trans hfound
      refine ⟨1, .returned a.moment true found, ⟨a.world, cache, a.clock, a.moment + 1⟩, ?_, rfl,
        rfl⟩
      rw [steps_run (RunPhase.step_hit hlook)]
      rfl
    | failed hfound => cases hget.symm.trans hfound
    | fresh hfound => cases hget.symm.trans hfound

namespace AppendPhase

variable {sourceId : String} {l : Load} {a : Shared}

theorem step_loading {p : LoadPhase} (written : Option Nat) (h : ∀ o, p ≠ .returned o) :
    (loading p written).step sourceId l a
      = (loading (p.step App.loading l a.world).1 (if p.writes then some a.moment else written),
        { a with world := (p.step App.loading l a.world).2 }) := by
  cases p with
  | returned o => exact absurd rfl (h o)
  | _ => rfl

theorem step_load {p p' : LoadPhase} {world : World} (written : Option Nat)
    (h : p.step App.loading l a.world = (p', world)) (hover : ∀ o, p ≠ .returned o) :
    (loading p written).step sourceId l a
      = (loading p' (if p.writes then some a.moment else written), { a with world }) := by
  rw [step_loading written hover, h]

end AppendPhase

theorem Job.step_append {sourceId table : String} {rows : List Row} {p p' : AppendPhase}
    {a a' : Shared} (h : p.step sourceId (.append sourceId table rows) a = (p', a')) :
    (append sourceId table rows p).step a = (append sourceId table rows p', a'.tick) := by
  rw [step, h]

theorem Job.steps_append {sourceId table : String} {rows : List Row} {p p' : AppendPhase}
    {a a' : Shared} (h : p.step sourceId (.append sourceId table rows) a = (p', a')) (n : Nat) :
    (append sourceId table rows p).steps (n + 1) a
      = (append sourceId table rows p').steps n a'.tick := by
  rw [steps_succ, step_append h]

/-- A load takes its steps as part of the request. -/
theorem Job.steps_loading (sourceId table : String) (rows : List Row) (p : LoadPhase)
    (written : Option Nat) (a : Shared) :
    ∃ n written' moment, (append sourceId table rows (.loading p written)).steps n a
      = (append sourceId table rows (.loading (.returned
          (p.rest App.loading (.append sourceId table rows) a.world).1) written'),
        ⟨(p.rest App.loading (.append sourceId table rows) a.world).2, a.cache, a.clock, moment⟩) := by
  generalize hleft : p.left App.loading (.append sourceId table rows) = k
  induction k using Nat.strong_induction_on generalizing p written a with
  | _ k ih =>
    by_cases hover : k = 0
    · cases p with
      | returned outcome => exact ⟨0, written, a.moment, rfl⟩
      | _ => simp [LoadPhase.left, hover] at hleft
    · have hnear := p.left_step App.loading (.append sourceId table rows) a.world
      have hrest := p.rest_step App.loading (.append sourceId table rows) a.world
      have hstep : ∀ o, p ≠ .returned o := by
        rintro o rfl
        exact hover hleft.symm
      obtain ⟨n, written', moment, hn⟩ := ih _ (by omega)
        (p.step App.loading (.append sourceId table rows) a.world).1
        (if p.writes then some a.moment else written)
        ⟨(p.step App.loading (.append sourceId table rows) a.world).2, a.cache, a.clock,
          a.moment + 1⟩ rfl
      refine ⟨n + 1, written', moment, ?_⟩
      rw [steps_append (AppendPhase.step_loading written hstep), ← hrest]
      exact hn

/-- A request that adds rows does step by step what the service does. -/
theorem Job.append_alone (a : Shared) (policy : AccessPolicy) {r : Request} {rows : List Row}
    (sourceId table : String) (hrows : readBody r readUpload = .valid rows) :
    ∃ n outcome written dropped a',
      (Job.append sourceId table rows (.loading .called none)).steps n a
        = (Job.append sourceId table rows (.returned outcome written dropped), a')
      ∧ App.respond outcome (fun t => .ok t.toValue)
        = ((a.app policy).appendRows r sourceId table).1
      ∧ a'.app policy = ((a.app policy).appendRows r sourceId table).2 := by
  obtain ⟨n, written, moment, hn⟩ := steps_loading sourceId table rows .called none a
  have happend : (a.app policy).appendRows r sourceId table
      = (a.app policy).change sourceId (Action.append App.loading sourceId table rows)
        fun t => .ok t.toValue := by
    unfold App.appendRows
    rw [hrows]
    rfl
  have hperform : (a.app policy).perform (Action.append App.loading sourceId table rows)
      = ((Action.append App.loading sourceId table rows a.world).1,
        ⟨(Action.append App.loading sourceId table rows a.world).2, a.cache.mapValues Fetched.rows,
          a.clock, policy⟩) := rfl
  have hrest : LoadPhase.called.rest App.loading (.append sourceId table rows) a.world
      = Action.append App.loading sourceId table rows a.world := rfl
  rw [hrest] at hn
  rw [happend, App.change, hperform]
  rcases hrun : Action.append App.loading sourceId table rows a.world with ⟨failure | t, world⟩ <;>
    rw [hrun] at hn
  · exact ⟨n + 1, .error failure, written, none, ⟨world, a.cache, a.clock, moment + 1⟩,
      steps_then hn, rfl, rfl⟩
  · exact ⟨n + 1, .ok t, written, some moment,
      ⟨world, (a.cache.invalidateTag sourceId).2, a.clock, moment + 1⟩, steps_then hn, rfl,
      congrArg (App.mk world · a.clock policy) (a.cache.invalidateTag_mapValues _ sourceId).symm⟩

end MetricLayer.Http
