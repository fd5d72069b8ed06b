import MetricLayer.Access.Policy
import MetricLayer.Proofs.Sql.MetricText

/-!
# A caller sees no row that the policy hides

Whatever filters a caller sends, a query over the merged filters reads its table only under
conditions that are true nowhere but where the filters of the user are (`render_restricted`).

The steps are those of the merging and of the queries: the merged filters imply those of the user
(`Sql.bothFilters_implies`), and every kind of query reads its table under its filters
(`DataQuery.render_readsTable`).
-/

namespace MetricLayer

open Sql AccessPolicy

/-! ## Queries -/

/-- What can be asked for under a filter. -/
inductive DataQuery where
  /-- A compiled metric. -/
  | metric (compiled : Compiled) (groupBy : List String) (dateField : Option String)
  /-- A chart of several metrics. -/
  | chart (metrics : List NamedMetric) (dimensions : List String) (orderBy : List OrderField)
    (limit : Value)
  /-- A time series of several metrics. -/
  | series (metrics : List NamedMetric) (dateField granularity : String) (start finish : Value)

namespace DataQuery

/-- The SQL of a query against a table under a filter. -/
def render (q : DataQuery) (table : String) (filters : Fields) : Outcome String :=
  match q with
  | metric compiled groupBy dateField => compiled.query ⟨table, .object filters, groupBy, dateField⟩
  | chart metrics dimensions orderBy limit =>
    ChartRequest.render ⟨metrics, dimensions, .object filters, orderBy, limit⟩ table
  | series metrics dateField granularity start finish =>
    SeriesRequest.render ⟨metrics, dateField, granularity, start, finish, .object filters⟩ table

/-- The number of times that a query reads its table: once for each of two periods, else once. -/
def scanCount : DataQuery → Nat
  | metric compiled _ _ => queryScans compiled
  | _ => 1

theorem render_readsTable {q : DataQuery} {table sql : String} {filters : Fields}
    (h : q.render table filters = .ok sql) :
    ReadsTable sql table q.scanCount (.object filters) := by
  cases q with
  | metric => exact query_readsTable h
  | chart => exact chart_readsTable h
  | series => exact series_readsTable h

end DataQuery

/-! ## Restricted reads -/

/-- The scan is of the table, and its condition is true only where the restriction is, unless the
restriction is empty. -/
structure IsRestricted (s : Scan) (table restriction : String) : Prop where
  /-- The scan is of the table. -/
  table_eq : s.table = table
  /-- The rows that meet the condition of the scan meet the restriction. -/
  holds : restriction = "" ∨ ∃ c ts d, s.condition = some c ∧ lex restriction.toList = some ts
    ∧ readCondition ts = some d ∧ ∀ v, c.eval v = .true → d.eval v = .true

/-- A condition that implies what the restriction says. -/
theorem isRestricted_of_implies {s : Scan} {table restriction : String} {m n : Option Meaning}
    (htable : s.table = table) (hm : Restricts restriction m) (hn : Means s.condition n)
    (himplies : Implies n m) : IsRestricted s table restriction := by
  refine ⟨htable, ?_⟩
  cases m with
  | none => exact .inl hm
  | some m =>
    have hclause : Clause restriction m := hm
    obtain ⟨ts, d, hl, -, hr, hd⟩ := hclause.reads.whole
    obtain ⟨n', hn', hmn⟩ := himplies m rfl
    rw [Option.mem_def.1 hn'] at hn
    obtain ⟨c, hc, rfl⟩ := Option.map_eq_some_iff.1 hn
    refine .inr ⟨c, ts, d, hc, hl.lex_eq, hr.readCondition_eq, fun v hv => ?_⟩
    rw [hd]
    exact hmn v hv

/-! ## Merged filters -/

/-- Filters that can be written together with others can be written alone. -/
theorem bothFilters_renders {base extra : Fields} {sql : String}
    (h : filterSql (.object (bothFilters base extra)) = .ok sql) :
    ∃ restriction, filterSql (.object extra) = .ok restriction := by
  unfold bothFilters at h
  split at h
  · next hextra =>
    obtain rfl : extra = [] := List.isEmpty_iff.1 hextra
    exact ⟨_, rfl⟩
  · split at h
    · exact ⟨sql, h⟩
    · obtain ⟨conditions, hconditions, -⟩ := bind_eq_ok.1 h
      rw [readConditions, readFields, show Connective.ofWord? "AND" = some .and by decide]
        at hconditions
      obtain ⟨group, hgroup, -⟩ := bind_eq_ok.1 hconditions
      obtain ⟨parts, hparts, -⟩ := bind_eq_ok.1 hgroup
      rw [readTrees] at hparts
      obtain ⟨_, -, hparts⟩ := bind_eq_ok.1 hparts
      obtain ⟨rest, hrest, -⟩ := bind_eq_ok.1 hparts
      rw [readTrees] at hrest
      obtain ⟨own, hown, -⟩ := bind_eq_ok.1 hrest
      exact ⟨renderAll own, by rw [filterSql, hown]; rfl⟩

/-- The filters of a user hold wherever a query over the merged filters reads its table. -/
theorem render_restricted {p : AccessPolicy} {userId : Option String} {base : Fields}
    {q : DataQuery} {table sql : String} (h : q.render table (p.mergedFilters userId base) = .ok sql) :
    ∃ restriction scans, filterSql (.object (p.userFilters userId)) = .ok restriction
      ∧ Statements sql scans ∧ scans.length = q.scanCount
      ∧ ∀ s ∈ scans, IsRestricted s table restriction := by
  obtain ⟨⟨merged, hmerged⟩, scans, hstatement, hlength, hscans⟩ := DataQuery.render_readsTable h
  obtain ⟨restriction, hrestriction⟩ := bothFilters_renders hmerged
  refine ⟨restriction, scans, hrestriction, hstatement, hlength, fun s hs => ?_⟩
  obtain ⟨htable, n, hn, himplies⟩ := hscans s hs
  exact isRestricted_of_implies htable (filterSql_restricts hrestriction) hn
    (himplies.trans (bothFilters_implies base _))

/-- Filters that mean to admit every row. -/
def hostileFilters : Fields :=
  [("OR", .list [.object [("a", .text "x' OR '1' = '1")], .object [("b", .null)]])]

theorem hostileFilters_restricted :
    ∃ sql restriction scans,
      DataQuery.render (.metric (.aggregation .sum "amount") [] none) "sales"
          (standard.mergedFilters (some "alice") hostileFilters) = .ok sql
        ∧ filterSql (.object (standard.userFilters (some "alice"))) = .ok restriction
        ∧ Statements sql scans ∧ scans.length = 1
        ∧ ∀ s ∈ scans, IsRestricted s "sales" restriction := by
  have h : DataQuery.render (.metric (.aggregation .sum "amount") [] none) "sales"
      (standard.mergedFilters (some "alice") hostileFilters)
      = .ok ("SELECT SUM(\"amount\") AS value FROM \"sales\" "
        ++ "WHERE (((\"a\" = 'x'' OR ''1'' = ''1') OR \"b\" IS NULL) AND \"region\" = 'North')") := by
    rfl
  obtain ⟨restriction, scans, hrestricted⟩ := render_restricted h
  exact ⟨_, restriction, scans, h, hrestricted⟩

end MetricLayer
