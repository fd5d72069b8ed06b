import MetricLayer.Proofs.Sql.MetricText

/-!
# The names of the columns of queries

What columns the queries of metrics return, read off their texts (`ReturnsColumns`): those of a
compiled metric (`query_columns`), of a chart (`chart_columns`) and of a time series
(`series_columns`).  Some names are those of columns and metrics that were asked for, and some come
with the query.

A database has its own names for items without one; the results hold for every such naming.
-/

namespace MetricLayer

open Sql Text

namespace Sql

variable {naming : List Lexeme → String} {sql : String} {names : List String}

/-- The statement returns columns with these names, in this order. -/
def ReturnsColumns (naming : List Lexeme → String) (sql : String) (names : List String) : Prop :=
  ∃ ts, lex sql.toList = some ts ∧ outputNames naming ts = some names

/-! ## Items -/

/-- The text is one item, and its column has the name. -/
def Names (naming : List Lexeme → String) (text name : String) : Prop :=
  ∃ ts, Lexes text.toList ts ∧ Unsplit ts ∧ itemName naming ts = name

theorem names_column {name text : String} (h : sqlName name = .ok text) :
    Names naming text name := by
  obtain ⟨rfl, hne⟩ := sqlName_inv h
  exact ⟨_, Lexes.name hne, .of_keepsItem (by simp [keepsItem, passes]), itemName_name naming name⟩

/-- A text under a quoted name. -/
theorem names_asName {s name quoted : String} (hs : Solid s.toList)
    (h : sqlName name = .ok quoted) : Names naming (s ++ " AS " ++ quoted) name := by
  obtain ⟨rfl, hne⟩ := sqlName_inv h
  obtain ⟨ts, hl, -, -, hu⟩ := hs
  have halias := ((Lexes.keyword "AS" (w := "as") (by decide)).append (Lexes.name hne).space
    (by simp [isBoundary])).space
  have hlex := hl.append halias (by simp [isBoundary])
  exact ⟨_, by simpa using hlex, hu.append (.of_keepsItem (by simp [keepsItem, passes, queryWords])),
    itemName_asName naming ts name⟩

/-- A text under a word. -/
theorem names_asWord {s word : String} (hs : Solid s.toList)
    (h : (isPassedWord word && folded word.toList = word) = true) :
    Names naming (s ++ " AS " ++ word) word := by
  simp only [isPassedWord, Bool.and_eq_true, decide_eq_true_eq] at h
  obtain ⟨⟨hword, hquery⟩, hfolded⟩ := h
  obtain ⟨ts, hl, -, -, hu⟩ := hs
  have halias := ((Lexes.keyword "AS" (w := "as") (by decide)).append
    (Lexes.keyword word (w := word) (by simp [hword, hfolded])).space (by simp [isBoundary])).space
  have hlex := hl.append halias (by simp [isBoundary])
  rw [hfolded] at hquery
  refine ⟨_, by simpa using hlex, hu.append (.of_keepsItem ?_), itemName_asWord naming ts word⟩
  have has : "as" ∉ queryWords := by decide
  simpa [keepsItem, passes, has] using hquery

/-- The lexemes of several items, and the names that are read off them. -/
theorem names_forall₂ {items : List String} (h : List.Forall₂ (Names naming) items names) :
    ∃ tss, List.Forall₂ (fun s ts => Lexes s.toList ts) items tss ∧ (∀ ts ∈ tss, Unsplit ts)
      ∧ tss.map (itemName naming) = names := by
  induction h with
  | nil => exact ⟨[], .nil, List.forall_mem_nil _, rfl⟩
  | @cons s name items names hs _ ih =>
    obtain ⟨ts, hl, hu, rfl⟩ := hs
    obtain ⟨tss, hls, hus, rfl⟩ := ih
    exact ⟨ts :: tss, .cons hl hls, List.forall_mem_cons.2 ⟨hu, hus⟩, rfl⟩

/-! ## Statements -/

/-- The text selects items whose columns have the names. -/
def Projects (naming : List Lexeme → String) (sql : String) (names : List String) : Prop :=
  ∃ items rest, sql = "SELECT " ++ joined ", " items ++ " FROM " ++ rest ∧ items ≠ []
    ∧ List.Forall₂ (Names naming) items names

/-- The columns of a statement are those of the items in its text. -/
theorem Projects.outputNames_eq {ts : List Lexeme} (h : Projects naming sql names)
    (hlex : lex sql.toList = some ts) : outputNames naming ts = some names := by
  obtain ⟨items, rest, rfl, hne, hitems⟩ := h
  obtain ⟨tss, hlexes, hunsplit, rfl⟩ := names_forall₂ hitems
  have htss : tss ≠ [] := by
    rintro rfl
    exact hne (List.forall₂_nil_right_iff.1 hlexes)
  -- Whatever follows FROM is cut on its own, so the text starts with these lexemes.
  have hselect := Lexes.afterKeyword "SELECT" (w := "select") (by decide)
    (Lexes.separated Lexes.commaSpace hlexes)
  have hfrom := (Lexes.keyword "FROM" (w := "from") (by decide)).space
  have hhead := hselect.append hfrom (by simp [isBoundary])
  have htext : ("SELECT " ++ joined ", " items ++ " FROM " ++ rest).toList
      = ("SELECT" ++ " " ++ joined ", " items).toList ++ ' ' :: "FROM".toList
        ++ ' ' :: rest.toList := by
    simp
  rw [htext, hhead _ (by simp [isBoundary])] at hlex
  obtain ⟨us, -, rfl⟩ := Option.map_eq_some_iff.1 hlex
  have hnames := outputNames_separated naming htss hunsplit us
  simpa using hnames

theorem Projects.returnsColumns {table : String} {times : Nat} {filters : Value}
    (h : Projects naming sql names) (hreads : ReadsTable sql table times filters) :
    ReturnsColumns naming sql names := by
  obtain ⟨-, scans, ⟨ts, hlex, -⟩, -⟩ := hreads
  exact ⟨ts, hlex, h.outputNames_eq hlex⟩

/-- A query of one table from its clauses. -/
theorem projects_joined {items : List String} (table : String) (clauses : List String)
    (hne : items ≠ []) (h : List.Forall₂ (Names naming) items names) :
    Projects naming (joined " " (["SELECT " ++ joined ", " items, "FROM " ++ table] ++ clauses))
      names := by
  obtain ⟨rest, hrest⟩ : ∃ rest, joined " " (["SELECT " ++ joined ", " items, "FROM " ++ table]
      ++ clauses) = "SELECT " ++ joined ", " items ++ " FROM " ++ rest := by
    cases clauses with
    | nil =>
      refine ⟨table, ?_⟩
      rw [List.append_nil, joined_cons, joined, ← String.toList_inj]
      simp
    | cons clause clauses =>
      refine ⟨table ++ " " ++ joined " " (clause :: clauses), ?_⟩
      rw [List.cons_append, List.cons_append, List.nil_append, joined_cons, joined_cons,
        ← String.toList_inj]
      simp
  exact ⟨items, rest, hrest, hne, h⟩

theorem statement_projects {s : Statement} (h : s.render = .ok sql) (hne : s.select ≠ [])
    (hselect : List.Forall₂ (Names naming) s.select names) : Projects naming sql names := by
  obtain ⟨table, -, h⟩ := bind_eq_ok.1 h
  rw [← pure_eq_ok.1 h, List.append_assoc, List.append_assoc]
  exact projects_joined table _ hne hselect

/-! ## Compiled metrics -/

theorem names_columns {columns texts : List String} (h : sqlNames columns = .ok texts) :
    List.Forall₂ (Names naming) texts columns :=
  (mapM_eq_ok h).flip.imp fun _ _ => names_column

/-- A value under the name that single values have. -/
theorem names_asValue {value : String} (h : Solid value.toList) :
    Names naming (value ++ " AS value") "value" := by
  have hname : Names naming (value ++ " AS " ++ "value") "value" := names_asWord h (by decide)
  simpa only [String.append_assoc, String.reduceAppend] using hname

/-- Columns and a value. -/
theorem names_keyed {columns texts : List String} {value : String}
    (h : sqlNames columns = .ok texts) (hvalue : Solid value.toList) :
    List.Forall₂ (Names naming) (texts ++ [value ++ " AS value"]) (columns ++ ["value"]) :=
  List.rel_append (names_columns h) (.cons (names_asValue hvalue) .nil)

theorem groupedQuery_projects {r : MetricRequest} {groups : List String} {value : String}
    (h : groupedQuery r groups value = .ok sql) (hgroups : sqlNames r.groupBy = .ok groups)
    (hvalue : Solid value.toList) : Projects naming sql (r.groupBy ++ ["value"]) := by
  obtain ⟨condition, -, h⟩ := bind_eq_ok.1 h
  exact statement_projects h (by simp) (names_keyed hgroups hvalue)

theorem toDate_projects {r : MetricRequest} {args : List Expr} {period column : String}
    (hargs : ∀ e ∈ args, e.Written)
    (h : toDateStatement r (args.headD .star) period column = .ok sql) :
    Projects naming sql (r.groupBy ++ ["value"]) := by
  obtain ⟨groups, hgroups, h⟩ := bind_eq_ok.1 h
  obtain ⟨value, hvalue, h⟩ := bind_eq_ok.1 h
  obtain ⟨filters, -, h⟩ := bind_eq_ok.1 h
  exact statement_projects h (by simp) (names_keyed hgroups (renderAsAggregate_solid hargs hvalue))

theorem names_changeItems {change : String}
    (h : (isPassedWord change && folded change.toList = change) = true) :
    List.Forall₂ (Names naming) (changeItems change) ["value", "previous_value", change] := by
  have hvalue : Names naming "current_period.value AS value" "value" := by
    have hword : Names naming (_ ++ " AS " ++ "value") "value" :=
      names_asWord solid_current (by decide)
    simpa using hword
  have hbefore : Names naming "previous_period.value AS previous_value" "previous_value" := by
    have hword : Names naming (_ ++ " AS " ++ "previous_value") "previous_value" :=
      names_asWord solid_previous (by decide)
    simpa using hword
  have hchange : Names naming (_ ++ " AS " ++ change) change := names_asWord solid_change h
  rw [changeItems]
  refine .cons hvalue (.cons hbefore (.cons ?_ .nil))
  simpa using hchange

theorem comparison_projects {r : MetricRequest} {inner : Expr} {pair : PeriodPair}
    (hchange : (isPassedWord pair.change && folded pair.change.toList = pair.change) = true)
    (h : comparisonStatement r inner pair = .ok sql) :
    Projects naming sql ["value", "previous_value", pair.change] := by
  obtain ⟨value, filters, current, previous, -, -, -, -, rfl⟩ := comparisonStatement_eq_ok h
  refine ⟨changeItems pair.change, "(" ++ current ++ ") AS current_period CROSS JOIN (" ++ previous
    ++ ") AS previous_period", ?_, by simp [changeItems], names_changeItems hchange⟩
  rw [comparisonText, ← String.toList_inj]
  simp

theorem rolling_projects {r : MetricRequest} {func : Aggregate} {args : List Expr}
    {column field : String} (hcolumn : sqlName field = .ok column)
    (hargs : ∀ e ∈ args, e.Written)
    (h : rollingStatement r func args (args.headD .star) column = .ok sql) :
    Projects naming sql (r.groupBy ++ [field] ++ ["value"]) := by
  obtain ⟨rows, -, h⟩ := bind_eq_ok.1 h
  obtain ⟨groups, hgroups, h⟩ := bind_eq_ok.1 h
  obtain ⟨inner, hinner, h⟩ := bind_eq_ok.1 h
  obtain ⟨condition, -, h⟩ := bind_eq_ok.1 h
  refine statement_projects h (by simp) (List.rel_append
    (List.rel_append (names_columns hgroups) (.cons (names_column hcolumn) .nil)) ?_)
  exact .cons (names_asValue (solid_rolling func (rows - 1) (sqlNames_solid hgroups)
    (sqlName_solid hcolumn) (render_headD_solid hargs hinner))) .nil

end Sql

namespace Compiled

/-- The names of the columns that the query of a compiled metric returns beside its values: the
columns to group by, and the date of a window. -/
def keyNames (c : Compiled) (groupBy : List String) (dateField : Option String) : List String :=
  match c with
  | timeIntel func _ _ =>
    match func.shape? with
    | some .yearOverYear | some .monthOverMonth => []
    | some (.rolling _) => groupBy ++ [dateField.getD ""]
    | _ => groupBy
  | _ => groupBy

/-- The names of the columns with the values of a compiled metric. -/
def valueNames : Compiled → List String
  | timeIntel func _ _ =>
    match func.shape? with
    | some .yearOverYear => ["value", "previous_value", "yoy_change"]
    | some .monthOverMonth => ["value", "previous_value", "mom_change"]
    | _ => ["value"]
  | _ => ["value"]

end Compiled

namespace Sql

variable {naming : List Lexeme → String} {sql : String}

theorem query_projects {c : Compiled} {r : MetricRequest} (h : c.query r = .ok sql) :
    Projects naming sql (c.keyNames r.groupBy r.dateField ++ c.valueNames) := by
  cases c with
  | aggregation func field =>
    obtain ⟨groups, hgroups, h⟩ := bind_eq_ok.1 h
    obtain ⟨value, hvalue, h⟩ := bind_eq_ok.1 h
    exact groupedQuery_projects h hgroups (aggregateOf_solid hvalue)
  | formula text dependencies =>
    obtain ⟨groups, hgroups, h⟩ := bind_eq_ok.1 h
    obtain ⟨value, hvalue, h⟩ := bind_eq_ok.1 h
    exact groupedQuery_projects h hgroups (.enclosed (formulaSql_solid hvalue).passed)
  | timeIntel func text dependencies =>
    obtain ⟨shape, args, column, hshape, hwritten, hcolumn, hstatement⟩ := timeQuery_eq_ok h
    rw [Compiled.keyNames, Compiled.valueNames, hshape]
    cases shape with
    | toDate period => exact toDate_projects hwritten hstatement
    | yearOverYear =>
      have hchange : (isPassedWord "yoy_change"
          && folded "yoy_change".toList = "yoy_change") = true := by decide
      exact comparison_projects hchange hstatement
    | monthOverMonth =>
      have hchange : (isPassedWord "mom_change"
          && folded "mom_change".toList = "mom_change") = true := by decide
      exact comparison_projects hchange hstatement
    | rolling aggregate => exact rolling_projects hcolumn hwritten hstatement

theorem query_columns {c : Compiled} {r : MetricRequest} (h : c.query r = .ok sql) :
    ReturnsColumns naming sql (c.keyNames r.groupBy r.dateField ++ c.valueNames) :=
  (query_projects h).returnsColumns (query_readsTable h)

/-! ## Charts and time series -/

/-- The name of the column that a metric becomes beside others: its own, or the one that the
database gives to its expression when that is blank. -/
def metricColumn (naming : List Lexeme → String) (m : NamedMetric) : String :=
  if m.name = "" then
    match m.compiled.selectExpression with
    | .ok expr => itemName naming ((lex expr.toList).getD [])
    | .error _ => ""
  else m.name

/-- The columns of several metrics; time functions have none. -/
def metricColumns (naming : List Lexeme → String) (metrics : List NamedMetric) : List String :=
  (metrics.filter fun m => !m.compiled.isTimeIntel).map (metricColumn naming)

/-- An item under another name. -/
theorem names_aliased {expr name text : String} (hsolid : Solid expr.toList) (hname : name ≠ "")
    (h : (SelectItem.aliased expr (some name) true).render = .ok text) :
    Names naming text name := by
  change (if name = "" then pure expr else do return expr ++ " AS " ++ (← sqlName name)) = .ok text
    at h
  rw [if_neg hname] at h
  obtain ⟨quoted, hquoted, h⟩ := bind_eq_ok.1 h
  rw [← pure_eq_ok.1 h]
  exact names_asName hsolid hquoted

theorem names_metric {m : NamedMetric} {expr text : String}
    (hexpr : m.compiled.selectExpression = .ok expr)
    (h : (SelectItem.aliased expr (some m.name) true).render = .ok text) :
    Names naming text (metricColumn naming m) := by
  have hsolid := selectExpression_solid hexpr
  by_cases hblank : m.name = ""
  · obtain ⟨ts, hl, -, -, hu⟩ := hsolid
    obtain rfl : expr = text := by
      rw [hblank] at h
      exact Except.ok.inj h
    rw [metricColumn, if_pos hblank, hexpr]
    refine ⟨ts, hl, hu, ?_⟩
    simp only [hl.lex_eq, Option.getD_some]
  · rw [metricColumn, if_neg hblank]
    exact names_aliased hsolid hblank h

theorem names_metrics {metrics : List NamedMetric} {items : List SelectItem} {texts : List String}
    (hitems : metricItems metrics = .ok items) (h : items.mapM SelectItem.render = .ok texts) :
    List.Forall₂ (Names naming) texts (metricColumns naming metrics) := by
  have hselected := mapM_eq_ok hitems
  have htexts := mapM_eq_ok h
  rw [metricColumns, List.forall₂_map_right_iff]
  clear h hitems
  generalize metrics.filter (fun m => !m.compiled.isTimeIntel) = selected at hselected ⊢
  induction hselected generalizing texts with
  | nil =>
    cases htexts
    exact .nil
  | @cons m item selected items hm _ ih =>
    cases htexts with
    | cons htext hrest =>
      obtain ⟨expr, hexpr, hm⟩ := bind_eq_ok.1 hm
      rw [← pure_eq_ok.1 hm] at htext
      exact .cons (names_metric hexpr htext) (ih hrest)

theorem selectQuery_projects {q : SelectQuery} {names : List String} (h : q.render = .ok sql)
    (hitems : ∀ texts, q.select.mapM SelectItem.render = .ok texts →
      List.Forall₂ (Names naming) texts names) : Projects naming sql names := by
  rw [SelectQuery.render] at h
  split at h
  · cases h
  · next hselect =>
    obtain ⟨texts, htexts, h⟩ := bind_eq_ok.1 h
    obtain ⟨table, -, h⟩ := bind_eq_ok.1 h
    obtain ⟨joins, -, h⟩ := bind_eq_ok.1 h
    obtain ⟨condition, -, h⟩ := bind_eq_ok.1 h
    obtain ⟨groups, -, h⟩ := bind_eq_ok.1 h
    obtain ⟨orders, -, h⟩ := bind_eq_ok.1 h
    have hne : texts ≠ [] := by
      rintro rfl
      have hnil := List.forall₂_nil_right_iff.1 (mapM_eq_ok htexts)
      simp [hnil] at hselect
    rw [← pure_eq_ok.1 h]
    simp only [List.append_assoc]
    exact projects_joined table _ hne (hitems texts htexts)

theorem chart_columns {r : ChartRequest} {table : String} (h : r.render table = .ok sql) :
    ReturnsColumns naming sql (r.dimensions ++ metricColumns naming r.metrics) := by
  refine Projects.returnsColumns ?_ (chart_readsTable h)
  obtain ⟨items, hitems, h⟩ := bind_eq_ok.1 h
  simp only at h
  split at h
  · refine selectQuery_projects h fun texts htexts => ?_
    obtain ⟨columns, hcolumns, htexts⟩ := bind_eq_ok.1 (List.mapM_append.symm.trans htexts)
    obtain ⟨others, hothers, htexts⟩ := bind_eq_ok.1 htexts
    rw [List.mapM_map] at hcolumns
    rw [← pure_eq_ok.1 htexts]
    exact List.rel_append (names_columns hcolumns) (names_metrics hitems hothers)
  · cases h

theorem series_columns {r : SeriesRequest} {table : String} (h : r.render table = .ok sql) :
    ReturnsColumns naming sql ("period" :: metricColumns naming r.metrics) := by
  refine Projects.returnsColumns ?_ (series_readsTable h)
  rw [SeriesRequest.render] at h
  simp only at h
  split at h
  · cases h
  · next hknown =>
    have hg : r.granularity ∈ granularities := by simpa using hknown
    obtain ⟨column, hcolumn, h⟩ := bind_eq_ok.1 h
    obtain ⟨items, hitems, h⟩ := bind_eq_ok.1 h
    obtain ⟨filters, -, h⟩ := bind_eq_ok.1 h
    obtain ⟨range, -, h⟩ := bind_eq_ok.1 h
    obtain ⟨select, hselect, h⟩ := bind_eq_ok.1 h
    obtain ⟨name, -, h⟩ := bind_eq_ok.1 h
    rw [List.mapM_cons] at hselect
    obtain ⟨period, hperiod, hselect⟩ := bind_eq_ok.1 hselect
    obtain ⟨others, hothers, hselect⟩ := bind_eq_ok.1 hselect
    have hfirst : Names naming period "period" :=
      names_aliased (solid_period hg (sqlName_solid hcolumn)) (by decide) hperiod
    rw [← pure_eq_ok.1 h, ← pure_eq_ok.1 hselect, List.append_assoc]
    exact projects_joined name _ (by simp) (.cons hfirst (names_metrics hitems hothers))

end Sql

end MetricLayer
