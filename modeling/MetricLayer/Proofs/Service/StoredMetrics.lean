import MetricLayer.Proofs.Metric.StoredForm
import MetricLayer.Proofs.Service.Counts
import MetricLayer.Proofs.Service.LoadSteps
import MetricLayer.Proofs.Service.NewMetric

/-!
# Stored metrics

The service defines and removes metrics and manages tables, in any order and with any mixture of
successes and failures (`ServiceRun`).  Throughout, no two metrics have the same name, and every metric
is what its expression compiles to, in the catalog and in the columns it is stored in
(`run_metrics_sound`).  The invariant is `Catalog.Sound`.

Loads leave all metrics alone
(`Load.run_sameMetrics`), and the removal of a data source takes nothing from a metric but its source.
-/

namespace MetricLayer

open MetricLayer.Action

/-! ## Loads leave metrics alone -/

/-- The metrics are the same. -/
def World.SameMetrics (w w' : World) : Prop := w'.catalog.metrics = w.catalog.metrics

instance : Std.Refl World.SameMetrics := ⟨fun _ => rfl⟩

instance : IsTrans World World.SameMetrics := ⟨fun _ _ _ h h' => Eq.trans h' h⟩

theorem Load.begin_same (s : LoadSettings) (l : Load) (w : World) : (l.begin s w).2 = w := by
  rcases l.begin_cases s w with ⟨failure, h⟩ | ⟨t, -, h⟩ | ⟨schema, -, -, h⟩ <;> rw [h]

theorem Tally.run_sameMetrics (l : Load) (tally : Tally) : Keeps World.SameMetrics (tally.run l) := by
  intro w
  cases tally with
  | raise t =>
    show (w.catalog.addRows w.now t.id l.rows.length).2.metrics = w.catalog.metrics
    unfold Catalog.addRows
    split <;> rfl
  | record schema =>
    show (w.catalog.putTable w.now l.sourceId l.name _ schema l.rows.length).2.metrics
      = w.catalog.metrics
    unfold Catalog.putTable Catalog.insertTable
    split
    · split <;> rfl
    · split <;> rfl

/-- No step of a load touches a metric. -/
theorem LoadPhase.step_sameMetrics (s : LoadSettings) (l : Load) (p : LoadPhase) (w : World) :
    w.SameMetrics (p.step s l w).2 := by
  have hnext : Keeps World.SameMetrics (p.next s l) := by
    cases p with
    | called => exact .of_same (l.begin_same s)
    | creating schema =>
      exact .bind (fun _ => rfl) fun _ => .bind (.of_same (requireBatches_same s l.rows)) fun _ =>
        .pure _
    | loading tally batches =>
      cases batches with
      | nil => exact .bind (tally.run_sameMetrics l) fun _ => .pure _
      | cons batch rest => exact .bind (fun _ => rfl) fun _ => .pure _
    | returned outcome => exact .pure _
  have hworld := hnext w
  unfold LoadPhase.step
  rcases hrun : p.next s l w with ⟨failure | p', w'⟩ <;> rw [hrun] at hworld <;> exact hworld

/-- A load leaves all metrics alone. -/
theorem Load.run_sameMetrics (s : LoadSettings) (l : Load) : Keeps World.SameMetrics (l.run s) := by
  have hsteps : ∀ (n : Nat) (q : LoadPhase × World),
      q.2.SameMetrics ((fun q : LoadPhase × World => q.1.step s l q.2)^[n] q).2 := by
    intro n
    induction n with
    | zero => exact fun q => refl q.2
    | succ n ih => exact fun q => IsTrans.trans _ _ _ (q.1.step_sameMetrics s l q.2) (ih _)
  intro w
  obtain ⟨n, hn⟩ := l.run_by_steps s w
  have hworld := hsteps n (.called, w)
  rwa [hn] at hworld

/-! ## The stored columns of a metric -/

theorem MetricType.ofName?_name (type : MetricType) : MetricType.ofName? type.name = some type := by
  cases type <;> decide

theorem Reader.optional_ofText? {fs : Fields} {name : String} {s : Option String}
    (h : fs.get? name = some (.ofText? s)) :
    optional fs name none (nullable text) = .valid s := by
  rw [optional, h]
  cases s <;> rfl

/-- The columns in which a metric is stored. -/
def Metric.columns (m : Metric) : Fields :=
  match m.toValue with
  | .object fields => fields
  | _ => []

theorem Metric.toValue_eq (m : Metric) : m.toValue = .object m.columns := rfl

/-- The stored columns of a metric are read as the metric. -/
theorem Catalog.readColumns_columns (m : Metric) :
    readColumns m.id m.createdAt m.columns = .ok m := by
  have htype : m.columns.get? "type" = some (.text m.type.name) := rfl
  have hcompiled : m.columns.get? "parsed_formula" = some m.compiled.toValue := rfl
  have hdescription : Reader.optional m.columns "description" none (Reader.nullable Reader.text)
      = .valid m.label.description := Reader.optional_ofText? rfl
  have hsource : Reader.optional m.columns "data_source_id" none (Reader.nullable Reader.text)
      = .valid m.sourceId := Reader.optional_ofText? rfl
  have hbefore : Reader.optional m.columns "prefix" none (Reader.nullable Reader.text)
      = .valid m.label.before := Reader.optional_ofText? rfl
  have hafter : Reader.optional m.columns "suffix" none (Reader.nullable Reader.text)
      = .valid m.label.after := Reader.optional_ofText? rfl
  have hrecord : Metric.ofColumns m.id m.type m.compiled m.createdAt m.columns = .valid m := by
    rw [Metric.ofColumns, hdescription, hsource, hbefore, hafter]
    rfl
  rw [readColumns, htype, hcompiled]
  dsimp only
  rw [MetricType.ofName?_name]
  dsimp only
  rw [Option.getD_some, Compiled.read_toValue, Checked.andThen, hrecord]

/-! ## The invariant -/

/-- The compiled form and the type of a metric are those of its expression. -/
structure Metric.IsCompiled (m : Metric) : Prop where
  /-- The compiled form is that of the expression. -/
  compiled : Compiled.ofText m.expression = .ok m.compiled
  /-- The type is that of the compiled form. -/
  type : m.type = m.compiled.metricType

namespace Catalog

/-- Metrics differ in their names, and each is what its expression compiles to. -/
structure Sound (c : Catalog) : Prop where
  /-- No two metrics have the same name. -/
  names : (c.metrics.map Metric.name).Nodup
  /-- Each metric is compiled from its expression. -/
  compiled : ∀ m ∈ c.metrics, m.IsCompiled

namespace Sound

variable {c d : Catalog}

theorem of_sublist (h : c.Sound) (hsub : d.metrics.Sublist c.metrics) : d.Sound where
  names := h.names.sublist (hsub.map Metric.name)
  compiled m hm := h.compiled m (hsub.subset hm)

theorem of_metrics (h : c.Sound) (hmetrics : d.metrics = c.metrics) : d.Sound :=
  h.of_sublist (hmetrics ▸ List.Sublist.refl _)

/-- A compiled metric may be added under a new name. -/
theorem withMetric (h : c.Sound) {m : Metric} (hname : c.metricNamed? m.name = none)
    (hm : m.IsCompiled) : (c.withMetric m).Sound where
  names := by
    have hnew : m.name ∉ c.metrics.map Metric.name := by
      rintro hin
      obtain ⟨u, hu, hsame⟩ := List.mem_map.1 hin
      exact absurd (decide_eq_true hsame) (List.find?_eq_none.1 hname u hu)
    show ((c.metrics ++ [m]).map Metric.name).Nodup
    rw [List.map_append, List.map_singleton, List.nodup_append_comm, List.singleton_append]
    exact List.nodup_cons.2 ⟨hnew, h.names⟩
  compiled u hu := by
    rcases List.mem_append.1 hu with hu | hu
    · exact h.compiled u hu
    · exact List.mem_singleton.1 hu ▸ hm

theorem deleteMetric (h : c.Sound) (id : String) : (c.deleteMetric id).2.Sound := by
  unfold Catalog.deleteMetric
  split
  · exact h
  · exact h.of_sublist List.filter_sublist

/-- A metric that loses its source keeps its name, its expression, its compiled form and its type. -/
theorem deleteSource (h : c.Sound) (id : String) : (c.deleteSource id).2.Sound := by
  unfold Catalog.deleteSource
  split
  · exact h
  · have hname : ∀ m : Metric, (if m.sourceId = some id then orphaned m else m).name = m.name := by
      intro m
      split <;> rfl
    constructor
    · show ((c.metrics.map _).map Metric.name).Nodup
      rw [List.map_map, show Metric.name ∘ _ = Metric.name from funext hname]
      exact h.names
    · intro m hm
      obtain ⟨u, hu, rfl⟩ := List.mem_map.1 hm
      split
      · exact ⟨(h.compiled u hu).compiled, (h.compiled u hu).type⟩
      · exact h.compiled u hu

end Sound

end Catalog

/-! ## Runs of the service -/

/-- A call that defines or removes metrics, or a call of the table manager. -/
inductive ServiceCall where
  /-- Defines a metric. -/
  | createMetric (d : MetricDefinition)
  /-- Removes a metric. -/
  | deleteMetric (id : String)
  /-- Calls the table manager. -/
  | manage (call : ManagerCall)

namespace ServiceCall

/-- Makes the call; of the outcome only the failure is kept. -/
def run (s : LoadSettings) : ServiceCall → World → Outcome Unit × World
  | createMetric d, w => ((Action.createMetric d w).1.map fun _ => (), (Action.createMetric d w).2)
  | deleteMetric id, w => onCatalog (fun c _ => c.deleteMetric id) w
  | manage call, w => ((call.run s w).1.map fun _ => (), (call.run s w).2)

/-- The call is about metrics, not about tables. -/
def IsOnMetrics : ServiceCall → Prop
  | createMetric _ => True
  | deleteMetric _ => True
  | manage _ => False

variable {s : LoadSettings} {w : World}

theorem createMetric_sound (h : w.catalog.Sound) (d : MetricDefinition) :
    (Action.createMetric d w).2.catalog.Sound := by
  have hresult := createMetric_result d w
  generalize Action.createMetric d w = result at hresult ⊢
  cases hresult with
  | refused failure => exact h
  | added hcompiled hname _ hworld =>
    subst hworld
    exact h.withMetric hname ⟨hcompiled, rfl⟩

theorem manage_sound (h : w.catalog.Sound) (call : ManagerCall) :
    (call.run s w).2.catalog.Sound := by
  cases call with
  | load l => exact h.of_metrics (l.run_sameMetrics s w)
  | drop id =>
    show (Action.dropSource id w).2.catalog.Sound
    have hresult := dropSource_result id w
    generalize Action.dropSource id w = result at hresult ⊢
    cases hresult with
    | refused failure => exact h
    | brokenOff hcatalog => exact hcatalog ▸ h
    | dropped _ hcatalog => exact hcatalog ▸ h.deleteSource id

/-- Every call keeps the invariant. -/
theorem run_sound (h : w.catalog.Sound) (c : ServiceCall) : (c.run s w).2.catalog.Sound := by
  cases c with
  | createMetric d => exact createMetric_sound h d
  | deleteMetric id => exact h.deleteMetric id
  | manage call => exact manage_sound h call

/-- A call about metrics that fails has done nothing. -/
theorem run_failed {c : ServiceCall} (hc : c.IsOnMetrics) {failure : Failure}
    (h : (c.run s w).1 = .error failure) : (c.run s w).2 = w := by
  cases c with
  | createMetric d =>
    have hfailed := map_eq_error.1 h
    show (Action.createMetric d w).2 = w
    have hresult := createMetric_result d w
    generalize Action.createMetric d w = result at hfailed hresult ⊢
    cases hresult with
    | refused failure => rfl
    | added => cases hfailed
  | deleteMetric id =>
    simp only [run, onCatalog_eq] at h ⊢
    unfold Catalog.deleteMetric at h ⊢
    split at h
    · rfl
    · cases h
  | manage call => exact hc.elim

end ServiceCall

/-- The worlds that calls of the service lead to.  Between two calls anything may happen that leaves
the metrics alone. -/
inductive ServiceRun (s : LoadSettings) (start : World) : World → Prop
  | start : ServiceRun s start start
  | call {w : World} (h : ServiceRun s start w) (c : ServiceCall) : ServiceRun s start (c.run s w).2
  | aside {w w' : World} (h : ServiceRun s start w) (hmetrics : w.SameMetrics w') :
      ServiceRun s start w'

/-- The invariant holds throughout a run. -/
theorem ServiceRun.sound {s : LoadSettings} {start w : World}
    (hstart : start.catalog.metrics = []) (h : ServiceRun s start w) : w.catalog.Sound := by
  induction h with
  | start => exact ⟨by rw [hstart]; exact List.nodup_nil, fun m hm => by rw [hstart] at hm; cases hm⟩
  | call _ c ih => exact ServiceCall.run_sound ih c
  | aside _ hmetrics ih => exact ih.of_metrics hmetrics

/-- After any run the names of the metrics differ, and each metric is read back from its stored columns
as what its expression compiles to.  A call about metrics that fails has done nothing. -/
theorem run_metrics_sound {s : LoadSettings} {start w : World}
    (hstart : start.catalog.metrics = []) (h : ServiceRun s start w) :
    (w.catalog.metrics.map Metric.name).Nodup
    ∧ (∀ m ∈ w.catalog.metrics, ∃ columns stored, m.toValue = .object columns
      ∧ Catalog.readColumns m.id m.createdAt columns = .ok stored
      ∧ stored = m
      ∧ Compiled.ofText stored.expression = .ok stored.compiled
      ∧ stored.type = stored.compiled.metricType)
    ∧ ∀ c : ServiceCall, c.IsOnMetrics → ∀ failure, (c.run s w).1 = .error failure →
      (c.run s w).2 = w := by
  have hsound := h.sound hstart
  refine ⟨hsound.names, fun m hm => ?_, fun c hc failure => ServiceCall.run_failed hc⟩
  exact ⟨m.columns, m, m.toValue_eq, Catalog.readColumns_columns m, rfl,
    (hsound.compiled m hm).compiled, (hsound.compiled m hm).type⟩

/-! ## A metric that outlives its source -/

/-- The world with one data source. -/
def stockWorld : World :=
  (onCatalog (fun c now => c.createSource now "stock" none "CSV") freshWorld).2

/-- A time function on the source. -/
def netDefinition : MetricDefinition :=
  ⟨⟨"net", "Net to date", none, defaultFormat, defaultPlaces, none, none⟩, some .timeIntel,
    quotedParentheses, some (recordId 1)⟩

/-- The metric. -/
def net : Metric :=
  ⟨recordId 2, netDefinition.label, .timeIntel, quotedParentheses,
    .timeIntel .ytd "Net , 'it''s )('" ["Net"], some (recordId 1), true, default⟩

/-- The world with the metric on the source. -/
def netWorld : World := { stockWorld with catalog := stockWorld.catalog.withMetric net }

/-- The world without the source. -/
def sourcelessWorld : World :=
  { netWorld with catalog := (netWorld.catalog.deleteSource (recordId 1)).2 }

theorem createMetric_net : Action.createMetric netDefinition stockWorld = (.ok net, netWorld) := by
  unfold Action.createMetric
  rw [show netDefinition.expression = quotedParentheses from rfl, compiled_quotedParentheses]
  rfl

/-- A metric of the same name is refused. -/
theorem createMetric_again :
    Action.createMetric netDefinition netWorld = (.error (.metricExists "net"), netWorld) := by
  unfold Action.createMetric
  rw [show netDefinition.expression = quotedParentheses from rfl, compiled_quotedParentheses]
  rfl

theorem dropSource_stock :
    Action.dropSource (recordId 1) netWorld = (.ok (), sourcelessWorld) := by
  rfl

theorem sourcelessWorld_run : ServiceRun .standard freshWorld sourcelessWorld := by
  have hsource : ServiceRun .standard freshWorld stockWorld := .aside .start rfl
  have hnet := hsource.call (.createMetric netDefinition)
  simp only [ServiceCall.run, createMetric_net] at hnet
  have hagain := hnet.call (.createMetric netDefinition)
  simp only [ServiceCall.run, createMetric_again] at hagain
  have hdropped := hagain.call (.manage (.drop (recordId 1)))
  simp only [ServiceCall.run, ManagerCall.run, dropSource_stock] at hdropped
  exact hdropped

theorem net_sound_without_source :
    freshWorld.catalog.metrics = [] ∧ ServiceRun .standard freshWorld sourcelessWorld
    ∧ sourcelessWorld.catalog.metrics = [{ net with sourceId := none }]
    ∧ (sourcelessWorld.catalog.metrics.map Metric.name).Nodup
    ∧ (∀ m ∈ sourcelessWorld.catalog.metrics, ∃ columns stored, m.toValue = .object columns
      ∧ Catalog.readColumns m.id m.createdAt columns = .ok stored
      ∧ stored = m
      ∧ Compiled.ofText stored.expression = .ok stored.compiled
      ∧ stored.type = stored.compiled.metricType)
    ∧ ((ServiceCall.deleteMetric "net").run .standard sourcelessWorld).2 = sourcelessWorld := by
  have hsound := run_metrics_sound rfl sourcelessWorld_run
  exact ⟨rfl, sourcelessWorld_run, rfl, hsound.1, hsound.2.1, hsound.2.2 _ trivial _ rfl⟩

end MetricLayer
