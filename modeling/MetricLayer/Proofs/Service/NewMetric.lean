import MetricLayer.Proofs.Service.Load
import MetricLayer.Service.Metrics

/-!
# What the definition of a metric does

`CreateResult` lists all that the definition of a metric can do to the records, and
`createMetric_result` says that it does nothing else.
-/

namespace MetricLayer

/-- The metric that a definition with this compiled expression makes. -/
def MetricDefinition.newMetric (d : MetricDefinition) (compiled : Compiled) (c : Catalog)
    (now : Moment) : Metric :=
  ⟨c.nextId, d.label, compiled.metricType, d.expression, compiled, d.sourceId, true, now⟩

/-- The catalog with a new metric. -/
def Catalog.withMetric (c : Catalog) (m : Metric) : Catalog :=
  { c.issue with metrics := c.metrics ++ [m] }

/-- All that the definition of a metric can do. -/
inductive CreateResult (d : MetricDefinition) (w : World) : Outcome Metric × World → Prop
  /-- It fails before anything is done. -/
  | refused (failure : Failure) : CreateResult d w (.error failure, w)
  /-- The metric is added under a new name, on a source that exists or on none. -/
  | added {compiled : Compiled} {w' : World}
      (hcompiled : Compiled.ofText d.expression = .ok compiled)
      (hname : w.catalog.metricNamed? d.label.name = none)
      (hsource : ∀ id, d.sourceId = some id → id ≠ "" → (w.catalog.source? id).isSome)
      (hworld : w' = { w with
        catalog := w.catalog.withMetric (d.newMetric compiled w.catalog w.now) }) :
      CreateResult d w (.ok (d.newMetric compiled w.catalog w.now), w')

namespace Action

/-- Adds a metric whose expression was compiled. -/
def addCompiled (d : MetricDefinition) (compiled : Compiled) : Action Metric := do
  let c ← catalog
  if (c.metricNamed? d.label.name).isSome then throw (.metricExists d.label.name)
  if let some id := d.sourceId then
    if id ≠ "" ∧ (c.source? id).isNone then throw (.sourceNotFound id)
  onCatalog fun c now => c.insertMetric
    ⟨c.nextId, d.label, compiled.metricType, d.expression, compiled, d.sourceId, true, now⟩

variable {d : MetricDefinition} {compiled : Compiled} {w : World}

/-- Under a new name the insertion succeeds. -/
theorem insertMetric_result (hcompiled : Compiled.ofText d.expression = .ok compiled)
    (hname : w.catalog.metricNamed? d.label.name = none)
    (hsource : ∀ id, d.sourceId = some id → id ≠ "" → (w.catalog.source? id).isSome) :
    CreateResult d w
      (onCatalog (fun c now => c.insertMetric (d.newMetric compiled c now)) w) := by
  have hinsert : w.catalog.insertMetric (d.newMetric compiled w.catalog w.now)
      = (.ok (d.newMetric compiled w.catalog w.now),
        w.catalog.withMetric (d.newMetric compiled w.catalog w.now)) :=
    if_neg (Option.not_isSome_iff_eq_none.2 hname)
  rw [onCatalog_eq, hinsert]
  exact .added hcompiled hname hsource rfl

theorem addCompiled_result (hcompiled : Compiled.ofText d.expression = .ok compiled) :
    CreateResult d w (addCompiled d compiled w) := by
  obtain ⟨label, type, expression, sourceId⟩ := d
  unfold addCompiled
  rw [bind_of_ok (rfl : catalog w = (.ok w.catalog, w))]
  dsimp only
  split_ifs with hname
  · exact .refused _
  · have hnone : w.catalog.metricNamed? label.name = none := Option.not_isSome_iff_eq_none.1 hname
    cases sourceId with
    | none => exact insertMetric_result hcompiled hnone fun id h => by cases h
    | some id =>
      dsimp only
      split_ifs with hmissing
      · exact .refused _
      · refine insertMetric_result hcompiled hnone fun id' h hne => ?_
        cases h
        rw [not_and, Option.isNone_iff_eq_none] at hmissing
        exact Option.isSome_iff_ne_none.2 (hmissing hne)

/-- The definition of a metric does nothing but what is listed. -/
theorem createMetric_result (d : MetricDefinition) (w : World) :
    CreateResult d w (createMetric d w) := by
  unfold createMetric
  cases hcompiled : Compiled.ofText d.expression with
  | error fault => exact .refused _
  | ok compiled =>
    rw [bind_of_ok (rfl : ofOutcome (Failure.ofExpr (.ok compiled)) w = (.ok compiled, w))]
    dsimp only
    cases d.type with
    | none => exact addCompiled_result hcompiled
    | some declared =>
      dsimp only
      by_cases hdeclared : declared ≠ compiled.metricType
      · rw [if_pos hdeclared]
        exact .refused _
      · rw [if_neg hdeclared]
        exact addCompiled_result hcompiled

end Action

end MetricLayer
