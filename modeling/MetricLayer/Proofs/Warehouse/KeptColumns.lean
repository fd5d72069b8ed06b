import MetricLayer.Proofs.Access.RowSecurity
import MetricLayer.Proofs.Sql.OutputNames
import MetricLayer.Proofs.Value.Fields
import MetricLayer.Warehouse.ResultSet

/-!
# The columns that rows keep

A row is delivered as fields, and of two columns with one name only the last one is among them.

* `delivered_keeps_iff` is about any result: its rows keep all their cells exactly when the names of
  the columns differ.
* `columns_kept_iff` is the main result, about every query of metrics, charts and time series: the
  names of its columns differ exactly when those that were asked for differ from each other and from
  those that come with the query.
* `valueGroup_lost` is the case of a column that is grouped by and is called like the value.
-/

namespace MetricLayer

open Sql

namespace ResultSet

variable {columns : List String} {cells : List Value} {row : Fields}

/-- The row has a field for each cell, as it is delivered, under the name of its column. -/
def Keeps (columns : List String) (cells : List Value) (row : Fields) : Prop :=
  ∃ values, cells.mapM Value.delivered = .ok values ∧ row = columns.zip values

/-- The cells are delivered one by one. -/
theorem mapM_zip_delivered {pairs : Fields} (hwidth : cells.length = columns.length)
    (h : ((columns.zip cells).mapM fun (name, v) => do return (name, ← Value.delivered v))
      = .ok pairs) :
    ∃ values, cells.mapM Value.delivered = .ok values ∧ pairs = columns.zip values
      ∧ values.length = columns.length := by
  induction columns generalizing cells pairs with
  | nil =>
    obtain rfl := List.length_eq_zero_iff.1 hwidth
    exact ⟨[], rfl, (pure_eq_ok.1 h).symm, rfl⟩
  | cons column columns ih =>
    obtain ⟨cell, cells, rfl⟩ := List.exists_cons_of_length_eq_add_one hwidth
    rw [List.zip_cons_cons, List.mapM_cons] at h
    obtain ⟨first, hfirst, h⟩ := bind_eq_ok.1 h
    obtain ⟨others, hothers, h⟩ := bind_eq_ok.1 h
    obtain ⟨value, hvalue, hfirst⟩ := bind_eq_ok.1 hfirst
    obtain ⟨values, hvalues, rfl, hlength⟩ := ih (Nat.succ.inj hwidth) hothers
    refine ⟨value :: values, ?_, ?_, congrArg (· + 1) hlength⟩
    · rw [List.mapM_cons, hvalue, hvalues]
      rfl
    · rw [← pure_eq_ok.1 h, ← pure_eq_ok.1 hfirst, List.zip_cons_cons]

/-- A row keeps its cells exactly when the names of the columns differ. -/
theorem namedRow_keeps_iff (hwidth : cells.length = columns.length)
    (h : namedRow columns cells = .ok row) : Keeps columns cells row ↔ columns.Nodup := by
  obtain ⟨pairs, hpairs, h⟩ := bind_eq_ok.1 h
  obtain ⟨values, hvalues, rfl, hlength⟩ := mapM_zip_delivered hwidth hpairs
  have hnames : Fields.names (columns.zip values) = columns :=
    List.map_fst_zip (Nat.le_of_eq hlength.symm)
  have hkeeps : Keeps columns cells row ↔ row = columns.zip values := by
    constructor
    · rintro ⟨others, hothers, hrow⟩
      obtain rfl := Except.ok.inj (hvalues.symm.trans hothers)
      exact hrow
    · exact fun hrow => ⟨values, hvalues, hrow⟩
  rw [hkeeps, ← pure_eq_ok.1 h, Fields.update_nil_eq, hnames]

/-- The rows of a result keep all their cells exactly when the names of its columns differ. -/
theorem delivered_keeps_iff {r : ResultSet} {rows : List Fields}
    (hwidth : ∀ cells ∈ r.rows, cells.length = r.columns.length) (h : r.delivered = .ok rows) :
    List.Forall₂ (Keeps r.columns) r.rows rows ↔ r.columns.Nodup ∨ r.rows = [] := by
  have hrows := mapM_eq_ok h
  have hboth := (List.forall₂_and_left _ _).2 ⟨hwidth, hrows⟩
  constructor
  · intro hkeeps
    cases hcells : r.rows with
    | nil => exact .inr rfl
    | cons cells others =>
      rw [hcells] at hkeeps hboth
      cases hboth with
      | cons hfirst _ =>
        cases hkeeps with
        | cons hkept _ => exact .inl ((namedRow_keeps_iff hfirst.1 hfirst.2).1 hkept)
  · rintro (hnodup | hnil)
    · exact hboth.imp fun cells row hrow => (namedRow_keeps_iff hrow.1 hrow.2).2 hnodup
    · rw [hnil] at hrows ⊢
      cases hrows
      exact .nil

end ResultSet

/-! ## The columns of queries -/

theorem Compiled.nodup_valueNames (c : Compiled) : c.valueNames.Nodup := by
  unfold valueNames
  split
  · split <;> decide
  · decide

namespace DataQuery

variable {naming : List Lexeme → String}

/-- The names of the columns that a query returns. -/
def columns (naming : List Lexeme → String) : DataQuery → List String
  | metric compiled groupBy dateField => compiled.keyNames groupBy dateField ++ compiled.valueNames
  | chart metrics dimensions _ _ => dimensions ++ metricColumns naming metrics
  | series metrics _ _ _ _ => "period" :: metricColumns naming metrics

/-- The names of columns that were asked for: those of columns of the table and those of metrics. -/
def chosen (naming : List Lexeme → String) : DataQuery → List String
  | metric compiled groupBy dateField => compiled.keyNames groupBy dateField
  | chart metrics dimensions _ _ => dimensions ++ metricColumns naming metrics
  | series metrics _ _ _ _ => metricColumns naming metrics

/-- The names of columns that come with a query. -/
def fixed : DataQuery → List String
  | metric compiled _ _ => compiled.valueNames
  | chart .. => []
  | series .. => ["period"]

theorem render_columns {q : DataQuery} {table sql : String} {filters : Fields}
    (h : q.render table filters = .ok sql) : ReturnsColumns naming sql (q.columns naming) := by
  cases q with
  | metric => exact query_columns h
  | chart => exact chart_columns h
  | series => exact series_columns h

/-- The names of columns differ when those that were asked for do and none of them comes with the
query. -/
theorem nodup_columns (q : DataQuery) :
    (q.columns naming).Nodup
      ↔ (q.chosen naming).Nodup ∧ ∀ name ∈ q.fixed, name ∉ q.chosen naming := by
  cases q with
  | metric compiled groupBy dateField =>
    rw [columns, chosen, fixed, List.nodup_append_comm, List.nodup_append']
    exact ⟨fun ⟨_, hchosen, hapart⟩ => ⟨hchosen, hapart⟩,
      fun ⟨hchosen, hapart⟩ => ⟨compiled.nodup_valueNames, hchosen, hapart⟩⟩
  | chart metrics dimensions orderBy limit => simp [columns, chosen, fixed]
  | series metrics dateField granularity start finish =>
    simp [columns, chosen, fixed, and_comm]

end DataQuery

/-- A query returns a column for each name, and these differ exactly when the names that were asked
for differ from each other and from those that come with the query.  Exactly then the rows of a result
with these columns keep all values, unless there are no rows. -/
theorem columns_kept_iff {q : DataQuery} {table sql : String} {filters : Fields}
    (naming : List Lexeme → String) (h : q.render table filters = .ok sql) :
    ReturnsColumns naming sql (q.columns naming)
      ∧ ((q.columns naming).Nodup
        ↔ (q.chosen naming).Nodup ∧ ∀ name ∈ q.fixed, name ∉ q.chosen naming)
      ∧ ∀ (r : ResultSet) (rows : List Fields), r.columns = q.columns naming →
        (∀ cells ∈ r.rows, cells.length = r.columns.length) → r.delivered = .ok rows →
        (List.Forall₂ (ResultSet.Keeps r.columns) r.rows rows
          ↔ (q.columns naming).Nodup ∨ r.rows = []) := by
  refine ⟨DataQuery.render_columns h, q.nodup_columns, fun r rows hcolumns hwidth hrows => ?_⟩
  rw [ResultSet.delivered_keeps_iff hwidth hrows, hcolumns]

/-! ## Two queries -/

namespace KeptColumns

/-- One name for all items without a name of their own. -/
def unnamed : List Lexeme → String := fun _ => "?column?"

/-- Two metrics for each region. -/
def regionChart : DataQuery :=
  .chart [⟨"revenue", .aggregation .sum "amount"⟩, ⟨"orders", .aggregation .count "id"⟩] ["region"]
    [] .null

/-- A row of that chart. -/
def regionResult : ResultSet :=
  ⟨["region", "revenue", "orders"], [[.text "North", .int 90, .int 3]]⟩

theorem regionChart_kept :
    regionChart.render "sales" [] = .ok ("SELECT \"region\", SUM(\"amount\") AS \"revenue\", "
        ++ "COUNT(\"id\") AS \"orders\" FROM \"sales\" GROUP BY \"region\"")
      ∧ ∃ rows, regionResult.delivered = .ok rows
        ∧ List.Forall₂ (ResultSet.Keeps regionResult.columns) regionResult.rows rows := by
  have hsql : regionChart.render "sales" [] = .ok ("SELECT \"region\", SUM(\"amount\") AS "
      ++ "\"revenue\", COUNT(\"id\") AS \"orders\" FROM \"sales\" GROUP BY \"region\"") := rfl
  obtain ⟨-, -, hkept⟩ := columns_kept_iff unnamed hsql
  exact ⟨hsql, _, rfl, (hkept regionResult _ rfl (by decide) rfl).2 (.inl (by decide))⟩

/-- The total for each value of a column that is called like the total. -/
def valueGroup : DataQuery := .metric (.aggregation .sum "amount") ["value"] none

/-- The total takes the place of the value that it is the total of. -/
theorem valueGroup_lost :
    valueGroup.render "sales" [] = .ok ("SELECT \"value\", SUM(\"amount\") AS value "
        ++ "FROM \"sales\" GROUP BY \"value\"")
      ∧ ReturnsColumns unnamed ("SELECT \"value\", SUM(\"amount\") AS value "
        ++ "FROM \"sales\" GROUP BY \"value\"") ["value", "value"]
      ∧ ResultSet.delivered ⟨["value", "value"], [[.text "North", .int 90], [.text "South", .int 70]]⟩
        = .ok [[("value", .int 90)], [("value", .int 70)]] := by
  have hsql : valueGroup.render "sales" [] = .ok ("SELECT \"value\", SUM(\"amount\") AS value "
      ++ "FROM \"sales\" GROUP BY \"value\"") := rfl
  exact ⟨hsql, DataQuery.render_columns hsql, rfl⟩

end KeptColumns

end MetricLayer
