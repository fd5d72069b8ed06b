import MetricLayer.Proofs.Http.RequestSteps
import MetricLayer.Proofs.Http.Transparency
import MetricLayer.Proofs.Service.StoredMetrics

/-!
# Cached rows and loads at the same time

Requests that run metrics of one data source and requests that add rows to its tables take their
steps in any order (`Concurrent`).  A load drops the cached rows of the source once it is done.  So a
request that looks into the cache after that finds no rows that were put there before
(`InOrder.dropped`).

But it may find rows that were queried before the last batch was written: those of a request that
missed the cache, queried the warehouse and put the rows into the cache after the load had dropped
what was there (`overtakenRun_stale`).  There is no other way (`stale_rows_stored_late`).
-/

namespace MetricLayer

open MetricLayer.Action

namespace Http

/-! ## Requests at the same time -/

/-- How far requests are after any number of steps in any order, and what they share then.  Between
two steps clocks are set and answers of the warehouse are arranged. -/
inductive Concurrent (start : Shared) (calls : List Job) : List Job → Shared → Prop
  | start : Concurrent start calls calls start
  | step {before after : List Job} {j : Job} {a : Shared}
      (h : Concurrent start calls (before ++ j :: after) a) :
      Concurrent start calls (before ++ (j.step a).1 :: after) (j.step a).2
  | outside {jobs : List Job} {a : Shared} (h : Concurrent start calls jobs a) (clock : Seconds)
      (now : Moment) (warehouse : Warehouse)
      (hsame : warehouse.transactions = a.world.warehouse.transactions) :
      Concurrent start calls jobs { a with clock, world := { a.world with warehouse, now } }

theorem Concurrent.go {start a a' : Shared} {calls : List Job} (before : List Job)
    {after : List Job} {j j' : Job} (h : Concurrent start calls (before ++ j :: after) a)
    (hstep : j.step a = (j', a')) : Concurrent start calls (before ++ j' :: after) a' := by
  have hnext := h.step
  rwa [hstep] at hnext

namespace Job

/-- A request that has done nothing: it runs a metric of the source or adds rows to a table of it. -/
def IsCall (sourceId : String) (w : World) : Job → Prop
  | run q .called => ∀ m, w.catalog.metric? q.metricId = some m → m.sourceId = some sourceId
  | append source _ _ (.loading .called none) => source = sourceId
  | _ => False

/-- The key under which the request looks for rows. -/
def key? : Job → Option String
  | run q _ => some q.value.digest
  | append _ _ _ _ => none

/-- The rows that the request put into the cache. -/
def stored? : Job → Option Fetched
  | run _ (.returned _ false result) => some result
  | _ => none

/-- The moment at which the request found rows in the cache, and these rows. -/
def found? : Job → Option (Nat × Fetched)
  | run _ (.returned lookedUp true result) => some (lookedUp, result)
  | _ => none

/-- The moment at which the request dropped cached rows. -/
def dropped? : Job → Option Nat
  | append _ _ _ (.returned _ _ dropped) => dropped
  | _ => none

theorem eq_of_stored {j : Job} {result : Fetched} (h : result ∈ j.stored?) :
    ∃ q lookedUp, j = run q (.returned lookedUp false result) := by
  unfold stored? at h
  split at h
  · cases h
    exact ⟨_, _, rfl⟩
  · cases h

theorem eq_of_found {j : Job} {f : Nat × Fetched} (h : f ∈ j.found?) :
    ∃ q, j = run q (.returned f.1 true f.2) := by
  unfold found? at h
  split at h
  · cases h
    exact ⟨_, rfl⟩
  · cases h

theorem eq_of_dropped {j : Job} {v : Nat} (h : v ∈ j.dropped?) :
    ∃ source table rows outcome written,
      j = append source table rows (.returned outcome written (some v)) := by
  unfold dropped? at h
  split at h
  · cases h
    exact ⟨_, _, _, _, _, rfl⟩
  · cases h

end Job

/-! ## What holds between steps -/

/-- The moments that a request has seen come one after another. -/
def RunPhase.Fits (sourceId : String) (now : Nat) : RunPhase → Prop
  | called => True
  | missed lookedUp => lookedUp < now
  | queried lookedUp _ moment => lookedUp < moment ∧ moment < now
  | described lookedUp _ moment m =>
    lookedUp < moment ∧ moment < now ∧ m.sourceId = some sourceId
  | returned lookedUp false result =>
    lookedUp < result.queried ∧ result.queried < result.stored ∧ result.stored < now
  | returned lookedUp true result => result.stored < lookedUp ∧ lookedUp < now
  | failed _ => True

/-- Rows are dropped after the last batch was written. -/
def AppendPhase.Fits (start now : Nat) : AppendPhase → Prop
  | loading _ written => ∀ l ∈ written, l < now
  | returned _ written dropped =>
    ∀ v ∈ dropped, start ≤ v ∧ v < now ∧ ∀ l ∈ written, l < v

/-- The request is about the source, and its moments come one after another. -/
def Job.Fits (sourceId : String) (start : Nat) (a : Shared) : Job → Prop
  | run q p => (∀ m, a.world.catalog.metric? q.metricId = some m → m.sourceId = some sourceId)
    ∧ p.Fits sourceId a.moment
  | append source _ _ p => source = sourceId ∧ p.Fits start a.moment

/-- One of the requests looks for rows under the key. -/
def Sought (jobs : List Job) (key : String) : Prop := ∃ j ∈ jobs, j.key? = some key

/-- What requests about one source have done to the cache since the moment `start`. -/
structure InOrder (sourceId : String) (start : Nat) (jobs : List Job) (a : Shared) : Prop where
  /-- The requests are about the source. -/
  fits : ∀ j ∈ jobs, j.Fits sourceId start a
  /-- So are the cached rows that they look for. -/
  tagged : ∀ p ∈ a.cache.entries, Sought jobs p.1 → sourceId ∈ p.2.tags
  /-- Those were stored in the past. -/
  past : ∀ p ∈ a.cache.entries, Sought jobs p.1 → p.2.value.stored < a.moment
  /-- They are older than the start, or a request has stored them. -/
  source : ∀ p ∈ a.cache.entries, Sought jobs p.1 → start ≤ p.2.value.stored →
    ∃ k ∈ jobs, k.stored? = some p.2.value
  /-- They were stored after rows were dropped the last time. -/
  dropped : ∀ k ∈ jobs, ∀ v ∈ k.dropped?, ∀ p ∈ a.cache.entries, Sought jobs p.1 →
    v < p.2.value.stored
  /-- So were those that a request found after that, and they had one of these origins. -/
  found : ∀ j ∈ jobs, ∀ f ∈ j.found?, (start ≤ f.2.stored → ∃ k ∈ jobs, k.stored? = some f.2)
    ∧ ∀ k ∈ jobs, ∀ v ∈ k.dropped?, v < f.1 → v < f.2.stored

/-! ## One step at a time -/

theorem Job.Fits.mono {sourceId : String} {start : Nat} {a a' : Shared} {j : Job}
    (h : j.Fits sourceId start a) (hmetrics : a.world.SameMetrics a'.world)
    (hmoment : a.moment ≤ a'.moment) : j.Fits sourceId start a' := by
  cases j with
  | run q p =>
    refine ⟨fun m hm => h.1 m ?_, ?_⟩
    · unfold Catalog.metric? at hm ⊢
      rwa [hmetrics] at hm
    · obtain ⟨-, hp⟩ := h
      match p, hp with
      | .called, _ => trivial
      | .missed _, hp => exact Nat.lt_of_lt_of_le hp hmoment
      | .queried _ _ _, ⟨hlt, hp⟩ => exact ⟨hlt, Nat.lt_of_lt_of_le hp hmoment⟩
      | .described _ _ _ _, ⟨hlt, hp, hm⟩ => exact ⟨hlt, Nat.lt_of_lt_of_le hp hmoment, hm⟩
      | .returned _ false _, ⟨hlt, hlt', hp⟩ => exact ⟨hlt, hlt', Nat.lt_of_lt_of_le hp hmoment⟩
      | .returned _ true _, ⟨hlt, hp⟩ => exact ⟨hlt, Nat.lt_of_lt_of_le hp hmoment⟩
      | .failed _, _ => trivial
  | append source table rows p =>
    obtain ⟨hsource, hp⟩ := h
    refine ⟨hsource, ?_⟩
    cases p with
    | loading phase written => exact fun l hl => Nat.lt_of_lt_of_le (hp l hl) hmoment
    | returned outcome written dropped =>
      intro v hv
      obtain ⟨hstart, hlt, hwritten⟩ := hp v hv
      exact ⟨hstart, Nat.lt_of_lt_of_le hlt hmoment, hwritten⟩

/-- Rows are dropped between the start and now. -/
theorem Job.Fits.of_dropped {sourceId : String} {start v : Nat} {a : Shared} {j : Job}
    (h : j.Fits sourceId start a) (hv : v ∈ j.dropped?) : start ≤ v ∧ v < a.moment := by
  obtain ⟨source, table, rows, outcome, written, rfl⟩ := eq_of_dropped hv
  obtain ⟨hstart, hnow, -⟩ := h.2 v rfl
  exact ⟨hstart, hnow⟩

/-- Rows are found before now. -/
theorem Job.Fits.of_found {sourceId : String} {start : Nat} {a : Shared} {j : Job}
    {f : Nat × Fetched} (h : j.Fits sourceId start a) (hf : f ∈ j.found?) : f.1 < a.moment := by
  obtain ⟨q, rfl⟩ := eq_of_found hf
  exact h.2.2

/-- What one step does: the request goes on, keeps what it has stored, and stores, drops or finds rows
at this moment only. -/
structure Advance (sourceId : String) (start : Nat) (j : Job) (a : Shared) (result : Job × Shared) :
    Prop where
  /-- Time goes on. -/
  moment : result.2.moment = a.moment + 1
  /-- All metrics stay. -/
  metrics : a.world.SameMetrics result.2.world
  /-- The request is still about the source. -/
  fits : result.1.Fits sourceId start result.2
  /-- It looks for the same rows. -/
  key : result.1.key? = j.key?
  /-- What it has stored it has stored. -/
  stored : ∀ f ∈ j.stored?, f ∈ result.1.stored?
  /-- What is cached was cached, or the request stores it now. -/
  entries : ∀ p ∈ result.2.cache.entries, p ∈ a.cache.entries
    ∨ sourceId ∈ p.2.tags ∧ p.2.value.stored = a.moment ∧ result.1.stored? = some p.2.value
  /-- It has dropped rows before, or drops all rows now. -/
  dropped : ∀ v ∈ result.1.dropped?,
    v ∈ j.dropped? ∨ v = a.moment ∧ ∀ p ∈ result.2.cache.entries, sourceId ∉ p.2.tags
  /-- It has found rows before, or finds them now. -/
  found : ∀ f ∈ result.1.found?,
    f ∈ j.found? ∨ f.1 = a.moment ∧ ∃ p ∈ a.cache.entries, j.key? = some p.1 ∧ p.2.value = f.2

theorem forall_mem_none {α : Type} {p : α → Prop} : ∀ a ∈ (none : Option α), p a := by
  rintro a ⟨⟩

section OneStep

variable {sourceId : String} {start : Nat} {a : Shared}

/-- A step in which a request that has neither stored nor found rows only learns something. -/
theorem Advance.learns {q : ResultRequest} {p p' : RunPhase} {a' : Shared}
    (hmoment : a'.moment = a.moment + 1) (hcatalog : a'.world.catalog = a.world.catalog)
    (hentries : ∀ e ∈ a'.cache.entries, e ∈ a.cache.entries)
    (hfits : (Job.run q p).Fits sourceId start a) (hp : p'.Fits sourceId a'.moment)
    (hstored : (Job.run q p).stored? = none) (hfound : (Job.run q p').found? = none) :
    Advance sourceId start (.run q p) a (.run q p', a') where
  moment := hmoment
  metrics := congrArg Catalog.metrics hcatalog
  fits := ⟨fun m hm => hfits.1 m (hcatalog ▸ hm), hp⟩
  key := rfl
  stored f hf := by
    rw [hstored] at hf
    cases hf
  entries e he := .inl (hentries e he)
  dropped v hv := by cases hv
  found f hf := by
    rw [hfound] at hf
    cases hf

theorem Advance.idle {j : Job} (hfits : j.Fits sourceId start a) :
    Advance sourceId start j a (j, a.tick) where
  moment := rfl
  metrics := rfl
  fits := hfits.mono rfl (Nat.le_succ _)
  key := rfl
  stored _ hf := hf
  entries _ hp := .inl hp
  dropped _ hv := .inl hv
  found _ hf := .inl hf

/-- A step of a request that runs a metric. -/
theorem Advance.run (hsource : sourceId ≠ "") {q : ResultRequest} {p : RunPhase}
    (hfits : (Job.run q p).Fits sourceId start a)
    (hpast : ∀ e ∈ a.cache.entries, e.1 = q.value.digest → e.2.value.stored < a.moment) :
    Advance sourceId start (.run q p) a ((Job.run q p).step a) := by
  rw [Job.step]
  cases p with
  | called =>
    rcases hlook : a.cache.get a.clock q.value.digest with ⟨_ | result, cache⟩
    · rw [RunPhase.step_miss hlook]
      refine .learns rfl rfl (fun e he => ?_) hfits (Nat.lt_succ_self _) rfl rfl
      exact ResultCache.mem_get (by rw [hlook]; exact he)
    · rw [RunPhase.step_hit hlook]
      obtain ⟨entry, hentry, rfl⟩ := ResultCache.exists_of_get hlook
      refine ⟨rfl, rfl, ⟨hfits.1, hpast _ hentry rfl, Nat.lt_succ_self _⟩, rfl, forall_mem_none,
        fun e he => .inl ?_, forall_mem_none, ?_⟩
      · exact ResultCache.mem_get (by rw [hlook]; exact he)
      · rintro f ⟨⟩
        exact .inr ⟨rfl, _, hentry, rfl, rfl⟩
  | missed lookedUp =>
    have hcatalog := runMetric_catalog q.metricId q.run a.world
    rcases hrun : Action.runMetric q.metricId q.run a.world with ⟨failure | rows, world⟩ <;>
      rw [hrun] at hcatalog
    · rw [RunPhase.step_queryFailed hrun]
      exact .learns rfl hcatalog (fun _ he => he) hfits trivial rfl rfl
    · rw [RunPhase.step_query hrun]
      exact .learns rfl hcatalog (fun _ he => he) hfits ⟨hfits.2, Nat.lt_succ_self _⟩ rfl rfl
  | queried lookedUp rows moment =>
    obtain ⟨hmetric, hlt, hnow⟩ := hfits
    cases hm : a.world.catalog.metric? q.metricId with
    | none =>
      rw [RunPhase.step, findMetric_none hm]
      exact .learns rfl rfl (fun _ he => he) ⟨hmetric, hlt, hnow⟩ trivial rfl rfl
    | some m =>
      rw [RunPhase.step_describe hm]
      exact .learns rfl rfl (fun _ he => he) ⟨hmetric, hlt, hnow⟩
        ⟨hlt, Nat.lt_succ_of_lt hnow, hmetric m hm⟩ rfl rfl
  | described lookedUp rows moment m =>
    obtain ⟨hmetric, hlt, hnow, hm⟩ := hfits
    rw [RunPhase.step]
    refine ⟨rfl, rfl, ⟨hmetric, hlt, hnow, Nat.lt_succ_self _⟩, rfl, forall_mem_none,
      fun e he => ?_, forall_mem_none, forall_mem_none⟩
    rcases ResultCache.mem_put he with he | rfl
    · exact .inl he
    · exact .inr ⟨by simp [hm, hsource], rfl, rfl⟩
  | returned lookedUp cached result =>
    rw [RunPhase.step]
    exact .idle hfits
    all_goals simp
  | failed failure =>
    rw [RunPhase.step]
    exact .idle hfits
    all_goals simp

/-- A step of a request that adds rows. -/
theorem Advance.append {source table : String} {rows : List Row} {p : AppendPhase}
    (hstart : start ≤ a.moment) (hfits : (Job.append source table rows p).Fits sourceId start a) :
    Advance sourceId start (.append source table rows p) a
      ((Job.append source table rows p).step a) := by
  obtain ⟨rfl, hp⟩ := hfits
  cases p with
  | returned outcome written dropped => exact .idle ⟨rfl, hp⟩
  | loading phase written =>
    by_cases hover : ∃ o, phase = .returned o
    · obtain ⟨failure | t, rfl⟩ := hover
      · exact ⟨rfl, rfl, ⟨rfl, forall_mem_none⟩, rfl, forall_mem_none, fun _ he => .inl he,
          forall_mem_none, forall_mem_none⟩
      · refine ⟨rfl, rfl, ⟨rfl, ?_⟩, rfl, forall_mem_none, fun e he => ?_, ?_, forall_mem_none⟩
        · rintro v ⟨⟩
          exact ⟨hstart, Nat.lt_succ_self _, hp⟩
        · exact .inl (ResultCache.mem_invalidateTag.1 he).1
        · rintro v ⟨⟩
          exact .inr ⟨rfl, fun e he => (ResultCache.mem_invalidateTag.1 he).2⟩
    · rw [Job.step, AppendPhase.step_loading written fun o ho => hover ⟨o, ho⟩]
      refine ⟨rfl, LoadPhase.step_sameMetrics _ _ _ _, ⟨rfl, fun l hl => ?_⟩, rfl, forall_mem_none,
        fun _ he => .inl he, forall_mem_none, forall_mem_none⟩
      split at hl
      · cases hl
        exact Nat.lt_succ_self _
      · exact Nat.lt_succ_of_lt (hp l hl)

end OneStep

namespace InOrder

variable {sourceId : String} {start : Nat} {before after : List Job} {j : Job} {a : Shared}

/-- Every step keeps what holds. -/
theorem advance {result : Job × Shared} (h : InOrder sourceId start (before ++ j :: after) a)
    (hstep : Advance sourceId start j a result) :
    InOrder sourceId start (before ++ result.1 :: after) result.2 := by
  have hmem : ∀ k ∈ before ++ result.1 :: after, k = result.1 ∨ k ∈ before ++ j :: after := by
    intro k hk
    simp only [List.mem_append, List.mem_cons] at hk ⊢
    tauto
  have hkept : ∀ f, (∃ k ∈ before ++ j :: after, k.stored? = some f) →
      ∃ k ∈ before ++ result.1 :: after, k.stored? = some f := by
    rintro f ⟨k, hk, hf⟩
    simp only [List.mem_append, List.mem_cons] at hk
    rcases hk with hk | rfl | hk
    · exact ⟨k, List.mem_append_left _ hk, hf⟩
    · exact ⟨result.1, by simp, hstep.stored f hf⟩
    · exact ⟨k, by simp [hk], hf⟩
  have hj : j ∈ before ++ j :: after := by simp
  have hdropped : ∀ k ∈ before ++ result.1 :: after, ∀ v ∈ k.dropped?,
      (∃ k ∈ before ++ j :: after, v ∈ k.dropped?)
        ∨ v = a.moment ∧ ∀ p ∈ result.2.cache.entries, sourceId ∉ p.2.tags := by
    intro k hk v hv
    rcases hmem k hk with rfl | hk
    · exact (hstep.dropped v hv).imp_left fun hv => ⟨j, hj, hv⟩
    · exact .inl ⟨k, hk, hv⟩
  have hsought : ∀ key, Sought (before ++ result.1 :: after) key →
      Sought (before ++ j :: after) key := by
    rintro key ⟨k, hk, hkey⟩
    rcases hmem k hk with rfl | hk
    · exact ⟨j, hj, hstep.key ▸ hkey⟩
    · exact ⟨k, hk, hkey⟩
  have htagged : ∀ p ∈ result.2.cache.entries, Sought (before ++ result.1 :: after) p.1 →
      sourceId ∈ p.2.tags := by
    intro p hp hkey
    rcases hstep.entries p hp with hp | ⟨htag, -⟩
    · exact h.tagged p hp (hsought _ hkey)
    · exact htag
  refine ⟨fun k hk => ?_, htagged, fun p hp hkey => ?_, fun p hp hkey hold => ?_,
    fun k hk v hv p hp hkey => ?_, fun k hk f hf => ?_⟩
  · rcases hmem k hk with rfl | hk
    · exact hstep.fits
    · exact (h.fits k hk).mono hstep.metrics (by rw [hstep.moment]; exact Nat.le_succ _)
  · rw [hstep.moment]
    rcases hstep.entries p hp with hp | ⟨-, hstored, -⟩
    · exact Nat.lt_succ_of_lt (h.past p hp (hsought _ hkey))
    · rw [hstored]
      exact Nat.lt_succ_self _
  · rcases hstep.entries p hp with hp | ⟨-, -, hnew⟩
    · exact hkept _ (h.source p hp (hsought _ hkey) hold)
    · exact ⟨result.1, by simp, hnew⟩
  · rcases hdropped k hk v hv with ⟨k, hk, hv⟩ | ⟨-, hempty⟩
    · rcases hstep.entries p hp with hp | ⟨-, hstored, -⟩
      · exact h.dropped k hk v hv p hp (hsought _ hkey)
      · rw [hstored]
        exact ((h.fits k hk).of_dropped hv).2
    · exact absurd (htagged p hp hkey) (hempty p hp)
  · have horigin : (∃ k ∈ before ++ j :: after, f ∈ k.found?)
        ∨ f.1 = a.moment ∧ ∃ p ∈ a.cache.entries, j.key? = some p.1 ∧ p.2.value = f.2 := by
      rcases hmem k hk with rfl | hk
      · exact (hstep.found f hf).imp_left fun hf => ⟨j, hj, hf⟩
      · exact .inl ⟨k, hk, hf⟩
    rcases horigin with ⟨k, hk, hf⟩ | ⟨hnow, p, hp, hkey, hvalue⟩
    · obtain ⟨hsource, hlate⟩ := h.found k hk f hf
      refine ⟨fun hold => hkept _ (hsource hold), fun i hi v hv hlt => ?_⟩
      rcases hdropped i hi v hv with ⟨i, hi, hv⟩ | ⟨rfl, -⟩
      · exact hlate i hi v hv hlt
      · exact absurd ((h.fits k hk).of_found hf) (Nat.lt_asymm hlt)
    · have hkey : Sought (before ++ j :: after) p.1 := ⟨j, hj, hkey⟩
      refine ⟨fun hold => ?_, fun i hi v hv hlt => ?_⟩
      · rw [← hvalue] at hold ⊢
        exact hkept _ (h.source p hp hkey hold)
      · rcases hdropped i hi v hv with ⟨i, hi, hv⟩ | ⟨rfl, -⟩
        · exact hvalue ▸ h.dropped i hi v hv p hp hkey
        · exact absurd hnow (Nat.ne_of_gt hlt)

theorem step (h : InOrder sourceId start (before ++ j :: after) a) (hsource : sourceId ≠ "")
    (hstart : start ≤ a.moment) :
    InOrder sourceId start (before ++ (j.step a).1 :: after) (j.step a).2 := by
  have hj : j ∈ before ++ j :: after := by simp
  have hfits := h.fits j hj
  refine h.advance ?_
  cases j with
  | run q p =>
    exact .run hsource hfits fun e he hkey => h.past e he ⟨_, hj, congrArg some hkey.symm⟩
  | append source table rows p => exact .append hstart hfits

/-- Clocks and answers have nothing to do with it. -/
theorem outside {jobs : List Job} (h : InOrder sourceId start jobs a) {clock : Seconds}
    {now : Moment} {warehouse : Warehouse} :
    InOrder sourceId start jobs { a with clock, world := { a.world with warehouse, now } } :=
  ⟨fun j hj => (h.fits j hj).mono rfl (Nat.le_refl _), h.tagged, h.past, h.source, h.dropped, h.found⟩

end InOrder

section Runs

variable {sourceId : String} {start a : Shared} {calls jobs : List Job}

/-- Every step takes a moment. -/
theorem Job.moment_step (j : Job) (a : Shared) : (j.step a).2.moment = a.moment + 1 := by
  cases j with
  | run q p =>
    refine congrArg (· + 1) (?_ : (p.step q a).2.moment = a.moment)
    unfold RunPhase.step
    split <;> try split
    all_goals rfl
  | append source table rows p =>
    refine congrArg (· + 1) (?_ : (p.step source _ a).2.moment = a.moment)
    unfold AppendPhase.step
    split <;> rfl

theorem Concurrent.moment_le (h : Concurrent start calls jobs a) : start.moment ≤ a.moment := by
  induction h with
  | start => exact Nat.le_refl _
  | @step before after j a h ih =>
    rw [j.moment_step]
    exact Nat.le_succ_of_le ih
  | outside h clock now warehouse hsame ih => exact ih

theorem InOrder.of_calls (hcalls : ∀ j ∈ calls, j.IsCall sourceId start.world)
    (hcache : ∀ p ∈ start.cache.entries, Sought calls p.1 →
      sourceId ∈ p.2.tags ∧ p.2.value.stored < start.moment) :
    InOrder sourceId start.moment calls start := by
  have hcall : ∀ j ∈ calls, j.Fits sourceId start.moment start ∧ j.stored? = none
      ∧ j.found? = none ∧ j.dropped? = none := by
    intro j hj
    have hj := hcalls j hj
    unfold Job.IsCall at hj
    split at hj
    · exact ⟨⟨hj, trivial⟩, rfl, rfl, rfl⟩
    · exact ⟨⟨hj, forall_mem_none⟩, rfl, rfl, rfl⟩
    · exact absurd hj id
  refine ⟨fun j hj => (hcall j hj).1, fun p hp hkey => (hcache p hp hkey).1,
    fun p hp hkey => (hcache p hp hkey).2, fun p hp hkey hold => ?_, fun k hk v hv => ?_,
    fun j hj f hf => ?_⟩
  · exact absurd (hcache p hp hkey).2 (Nat.not_lt.2 hold)
  · rw [(hcall k hk).2.2.2] at hv
    cases hv
  · rw [(hcall j hj).2.2.1] at hf
    cases hf

theorem Concurrent.sound (hsource : sourceId ≠ "")
    (hcalls : ∀ j ∈ calls, j.IsCall sourceId start.world)
    (hcache : ∀ p ∈ start.cache.entries, Sought calls p.1 →
      sourceId ∈ p.2.tags ∧ p.2.value.stored < start.moment)
    (h : Concurrent start calls jobs a) : InOrder sourceId start.moment jobs a := by
  induction h with
  | start => exact .of_calls hcalls hcache
  | step h ih => exact ih.step hsource h.moment_le
  | outside h clock now warehouse hsame ih => exact ih.outside

/-- A request that looked into the cache after a load had dropped rows never answers with rows that
were queried before the last batch of the load, unless another request was on its way with them: it
stored them between the two. -/
theorem stale_rows_stored_late (hsource : sourceId ≠ "")
    (hcalls : ∀ j ∈ calls, j.IsCall sourceId start.world)
    (hcache : ∀ p ∈ start.cache.entries, Sought calls p.1 →
      sourceId ∈ p.2.tags ∧ p.2.value.stored < start.moment)
    (hrun : Concurrent start calls jobs a) {q : ResultRequest} {lookedUp : Nat} {cached : Bool}
    {result : Fetched} (hanswer : .run q (.returned lookedUp cached result) ∈ jobs)
    {table : String} {rows : List Row} {t : DataTable} {written dropped : Nat}
    (hload : .append sourceId table rows (.returned (.ok t) (some written) (some dropped)) ∈ jobs)
    (hafter : dropped < lookedUp) (hstale : result.queried < written) :
    dropped < result.stored ∧ result.stored < lookedUp
      ∧ ∃ other earlier, .run other (.returned earlier false result) ∈ jobs
        ∧ earlier < result.queried := by
  have horder := hrun.sound hsource hcalls hcache
  obtain ⟨hstart, -, hwritten⟩ := (horder.fits _ hload).2 dropped rfl
  have hlast := hwritten written rfl
  have hfits := (horder.fits _ hanswer).2
  cases cached with
  | false =>
    -- fresh rows are queried after the lookup
    have hfresh : lookedUp < result.queried := hfits.1
    omega
  | true =>
    obtain ⟨horigin, hlate⟩ := horder.found _ hanswer (lookedUp, result) rfl
    have hstored : dropped < result.stored := hlate _ hload dropped rfl hafter
    obtain ⟨k, hk, hkstored⟩ := horigin (hstart.trans hstored.le)
    obtain ⟨other, earlier, rfl⟩ := Job.eq_of_stored hkstored
    exact ⟨hstored, hfits.1, other, earlier, hk, (horder.fits _ hk).2.1⟩

end Runs

/-! ## A load between a query and its rows -/

namespace CountedOrders

/-- An order. -/
def northRow : Row := [("region", .text "north")]

/-- The load of an order. -/
def northLoad : Load := .append salesId "orders" [northRow]

/-- The service with the metric, where the next query counts no orders. -/
def uncounted : Shared :=
  ⟨(answering (serviceIn worldOfCount .unrestricted) 0).world, .empty (.whole 300) 256, .whole 0, 0⟩

/-- Two requests for the number of orders, and one that adds an order. -/
def overtakenCalls : List Job :=
  [.run countAll .called, .append salesId "orders" [northRow] (.loading .called none),
    .run countAll .called]

/-- The record of the table with one order. -/
def grownOrders : DataTable := { orders with rowCount := 1 }

/-- The number that was queried before the order was added, and cached after that. -/
def staleCount : Fetched := ⟨numberRows 0, 1, 7⟩

/-- The requests after the second one overtook the first one. -/
def overtakenRun : List Job :=
  [.run countAll (.returned 0 false staleCount),
    .append salesId "orders" [northRow] (.returned (.ok grownOrders) (some 3) (some 5)),
    .run countAll (.returned 8 true staleCount)]

/-- The world after the orders were counted. -/
def queriedWorld : World := (query countSql uncounted.world).2

/-- The world after the order was written. -/
def writtenWorld : World :=
  (onWarehouse (fun w => w.insert "ds_00000001_orders" ["region"] [northRow]) queriedWorld).2

/-- The world after the order was counted. -/
def countedWorld : World := (onCatalog (fun c now => c.addRows now orders.id 1) writtenWorld).2

theorem northLoad_begin : LoadPhase.called.step App.loading northLoad queriedWorld
    = (.loading (.raise orders) [[northRow]], queriedWorld) := by
  have hbegin : LoadPhase.called.step App.loading northLoad queriedWorld
      = (northLoad.extending App.loading orders, queriedWorld) := by
    rfl
  have hstored : northLoad.stored App.loading orders.schema = [[northRow]] := by
    rw [Load.stored, batches, chunks_one (by decide) (by decide) (by decide)]
    rfl
  rw [hbegin, Load.extending, hstored]
  rfl

theorem northLoad_written :
    (LoadPhase.loading (.raise orders) [[northRow]]).step App.loading northLoad queriedWorld
      = (.loading (.raise orders) [], writtenWorld) := by
  have hinsert : onWarehouse (fun w => w.insert "ds_00000001_orders" ["region"] [northRow])
      queriedWorld = (.ok (), writtenWorld) :=
    Prod.ext (eq_ok_of_toOption (by decide +kernel)) rfl
  exact LoadPhase.step_of_ok (bind_of_ok hinsert)

theorem northLoad_counted :
    (LoadPhase.loading (.raise orders) []).step App.loading northLoad writtenWorld
      = (.returned (.ok grownOrders), countedWorld) := by
  rfl

/-- The cache after a lookup in vain. -/
def missedCache : ResultCache Seconds Fetched := (uncounted.cache.get (.whole 0) "").2

/-- The second request comes between the query of the first one and its rows; the third one looks
into the cache after that. -/
theorem overtakenRun_runs : ∃ a, Concurrent uncounted overtakenCalls overtakenRun a := by
  have hasks : uncounted.world.Asks countId salesId countAll.run countSql :=
    asks_countAll.sameFor
      ((answering_harmless (serviceIn worldOfCount .unrestricted) 0).sameFor countId salesId)
  have hquery : Action.runMetric countId countAll.run uncounted.world
      = (.ok (numberRows 0), queriedWorld) := by
    rw [runMetric_of_asks hasks]
    exact Prod.ext (query_answering (serviceIn worldOfCount .unrestricted) 0 countSql) rfl
  -- the first request looks up and queries
  have hcalled : Concurrent uncounted overtakenCalls ([] ++ .run countAll .called :: _) uncounted :=
    .start
  have hmissed := hcalled.go [] (Job.step_run (RunPhase.step_miss (rfl : _ = (none, missedCache))))
  have hqueried := hmissed.go [] (Job.step_run (RunPhase.step_query hquery))
  -- the second one does all it does
  have hbegun := hqueried.go [_] (Job.step_append (AppendPhase.step_load none northLoad_begin nofun))
  have hwritten := hbegun.go [_] (Job.step_append (AppendPhase.step_load _ northLoad_written nofun))
  have hcounted := hwritten.go [_] (Job.step_append (AppendPhase.step_load _ northLoad_counted nofun))
  have hdropped := hcounted.go [_] (Job.step_append rfl)
  -- the first one puts its rows into the cache, and the third one finds them
  have hdescribed := hdropped.go [] (Job.step_run (RunPhase.step_describe (m := orderCount) rfl))
  have hstored := hdescribed.go [] (Job.step_run rfl)
  have hlive : ¬uncounted.clock + (missedCache.invalidateTag salesId).2.ttl ≤ uncounted.clock := by
    show ¬Seconds.whole 0 + Seconds.whole 300 ≤ Seconds.whole 0
    decide
  have hfound := ResultCache.get_put (missedCache.invalidateTag salesId).2 countAll.value.digest
    staleCount [some orderCount.id, orderCount.sourceId] hlive
  exact ⟨_, hstored.go [_, _] (Job.step_run (RunPhase.step_hit (Prod.ext hfound rfl)))⟩

theorem overtakenCalls_areCalls : ∀ j ∈ overtakenCalls, j.IsCall salesId uncounted.world := by
  have hmetric : ∀ m, uncounted.world.catalog.metric? countAll.metricId = some m →
      m.sourceId = some salesId := by
    rintro m ⟨⟩
    rfl
  intro j hj
  simp only [overtakenCalls, List.mem_cons, List.not_mem_nil, or_false] at hj
  rcases hj with rfl | rfl | rfl
  · exact hmetric
  · exact rfl
  · exact hmetric

theorem overtakenRun_stored_late : salesId ≠ ""
    ∧ (∀ j ∈ overtakenCalls, j.IsCall salesId uncounted.world)
    ∧ (∀ p ∈ uncounted.cache.entries, Sought overtakenCalls p.1 →
      salesId ∈ p.2.tags ∧ p.2.value.stored < uncounted.moment)
    ∧ (∃ a, Concurrent uncounted overtakenCalls overtakenRun a)
    ∧ .run countAll (.returned 8 true staleCount) ∈ overtakenRun
    ∧ .append salesId "orders" [northRow] (.returned (.ok grownOrders) (some 3) (some 5))
      ∈ overtakenRun
    ∧ 5 < 8 ∧ staleCount.queried < 3
    ∧ 5 < staleCount.stored ∧ staleCount.stored < 8
    ∧ ∃ other earlier, .run other (.returned earlier false staleCount) ∈ overtakenRun
      ∧ earlier < staleCount.queried := by
  have hanswer : Job.run countAll (.returned 8 true staleCount) ∈ overtakenRun := by
    simp [overtakenRun]
  have hload : Job.append salesId "orders" [northRow]
      (.returned (.ok grownOrders) (some 3) (some 5)) ∈ overtakenRun := by
    simp [overtakenRun]
  obtain ⟨a, hrun⟩ := overtakenRun_runs
  exact ⟨by decide, overtakenCalls_areCalls, List.forall_mem_nil _, ⟨a, hrun⟩, hanswer, hload,
    by decide, by decide, stale_rows_stored_late (by decide) overtakenCalls_areCalls
      (List.forall_mem_nil _) hrun hanswer hload (by decide) (by decide)⟩

/-- The third request looks into the cache three moments after the load has dropped what was there,
and answers with the number that was queried two moments before the order was written. -/
theorem overtakenRun_stale : (∀ j ∈ overtakenCalls, j.IsCall salesId uncounted.world)
    ∧ uncounted.cache.entries = []
    ∧ ∃ jobs a, Concurrent uncounted overtakenCalls jobs a
      ∧ ∃ q lookedUp result table rows t written dropped,
        .run q (.returned lookedUp true result) ∈ jobs
        ∧ .append salesId table rows (.returned (.ok t) (some written) (some dropped)) ∈ jobs
        ∧ dropped < lookedUp ∧ result.queried < written := by
  obtain ⟨a, hrun⟩ := overtakenRun_runs
  refine ⟨overtakenCalls_areCalls, rfl, overtakenRun, a, hrun, countAll, 8, staleCount, "orders",
    [northRow], grownOrders, 3, 5, ?_, ?_, by decide, by decide⟩
  · simp [overtakenRun]
  · simp [overtakenRun]

end CountedOrders

end Http

end MetricLayer
