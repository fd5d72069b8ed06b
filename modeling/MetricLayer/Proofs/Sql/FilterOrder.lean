import MetricLayer.Proofs.Outcome
import MetricLayer.Proofs.Value.Display
import MetricLayer.Sql.MetricQuery

/-!
# The order of fields and the SQL of filters

Whether a filter tree of JSON values has SQL does not depend on the order of fields in it
(`filterSql_succeeds_of_ordered`), and whether a metric has a query depends on its filters only in
whether they have SQL (`query_succeeds`).
-/

namespace MetricLayer

open Text Value

variable {v w : Value}

/-! ## Predicates -/

theorem sqlLiteral_ordered (hv : v.IsJson) :
    Succeeds (sqlLiteral v.ordered) ↔ Succeeds (sqlLiteral v) := by
  cases hv with
  | scalar h => rw [h.ordered_eq]
  | text s => rfl
  | list _ => exact iff_of_false (not_succeeds_error _) (not_succeeds_error _)
  | object _ => exact iff_of_false (not_succeeds_error _) (not_succeeds_error _)

/-- The pattern of a text without NUL is a literal. -/
theorem sqlText_pattern {s : String} (hs : NoNul s) (m : TextMatch) :
    Succeeds (sqlText (m.pattern s)) := by
  have hbody : '\x00' ∉ s.toList.flatMap TextMatch.escapeChar := by
    intro hmem
    obtain ⟨c, hc, hescaped⟩ := List.mem_flatMap.1 hmem
    rw [TextMatch.escapeChar] at hescaped
    split at hescaped <;> simp at hescaped <;> exact hs (hescaped ▸ hc)
  have hnul : holdsNul (m.pattern s) = false := by
    rw [holdsNul, List.contains_eq_mem, decide_eq_false_iff_not]
    cases m <;> simpa [TextMatch.pattern] using hbody
  rw [sqlText, hnul]
  exact succeeds_ok _

theorem likePredicate_of_noNul (column : String) (m : TextMatch) (hv : NoNul v.plain) :
    Succeeds (likePredicate column m v) := succeeds_bind_pure.2 (sqlText_pattern hv m)

theorem likePredicate_ordered (hv : v.IsJson) (hordered : v.ordered.IsJson) (column : String)
    (m : TextMatch) :
    Succeeds (likePredicate column m v.ordered) ↔ Succeeds (likePredicate column m v) := by
  cases hv with
  | scalar h => rw [h.ordered_eq]
  | text s => rfl
  | list h =>
    refine iff_of_true (likePredicate_of_noNul _ _ (hordered.plain_noNul ?_))
      (likePredicate_of_noNul _ _ ((IsJson.list h).plain_noNul ?_))
    · rw [ordered_list]
      intro s hs
      cases hs
    · intro s hs
      cases hs
  | object h =>
    refine iff_of_true (likePredicate_of_noNul _ _ (hordered.plain_noNul ?_))
      (likePredicate_of_noNul _ _ ((IsJson.object h).plain_noNul ?_))
    · rw [ordered_object]
      intro s hs
      cases hs
    · intro s hs
      cases hs

theorem comparePredicate_ordered (hv : v.IsJson) (column : String) (op : Comparison) :
    Succeeds (comparePredicate column op v.ordered) ↔ Succeeds (comparePredicate column op v) := by
  cases hv with
  | scalar h => rw [h.ordered_eq]
  | text s => rfl
  | list _ => exact iff_of_false (not_succeeds_error _) (not_succeeds_error _)
  | object _ => exact iff_of_false (not_succeeds_error _) (not_succeeds_error _)

/-- A list of values has predicates when each of them has a literal. -/
theorem memberPredicate_list (column : String) (negated : Bool) (vs : List Value) :
    Succeeds (memberPredicate column negated (.list vs)) ↔ ∀ v ∈ vs, Succeeds (sqlLiteral v) := by
  cases vs with
  | nil => exact iff_of_true (succeeds_ok _) (List.forall_mem_nil _)
  | cons v rest => exact succeeds_bind_pure.trans succeeds_mapM

theorem memberPredicate_ordered (hv : v.IsJson) (column : String) (negated : Bool) :
    Succeeds (memberPredicate column negated v.ordered)
      ↔ Succeeds (memberPredicate column negated v) := by
  cases hv with
  | scalar h => rw [h.ordered_eq]
  | text s => rfl
  | list h =>
    rw [ordered_list, memberPredicate_list, memberPredicate_list, List.forall_mem_map]
    exact forall₂_congr fun v hv => sqlLiteral_ordered (h v hv)
  | object _ => exact iff_of_false (not_succeeds_error _) (not_succeeds_error _)

theorem operatorPredicate_ordered (hv : v.IsJson) (hordered : v.ordered.IsJson)
    (field operator : String) :
    Succeeds (operatorPredicate field operator v.ordered)
      ↔ Succeeds (operatorPredicate field operator v) := by
  unfold operatorPredicate
  rw [succeeds_bind, succeeds_bind]
  refine exists_congr fun column => and_congr_right fun _ => ?_
  split
  · exact comparePredicate_ordered hv column _
  · exact likePredicate_ordered hv hordered column _
  · split_ifs
    · exact memberPredicate_ordered hv column false
    · exact memberPredicate_ordered hv column true
    · rfl

/-- An object has predicates when it is not empty and each operator has one. -/
theorem fieldPredicates_object (field : String) (fs : Fields) :
    Succeeds (fieldPredicates field (.object fs))
      ↔ fs ≠ [] ∧ ∀ f ∈ fs, Succeeds (operatorPredicate field f.1 f.2) := by
  cases fs with
  | nil => exact iff_of_false (not_succeeds_error _) fun h => h.1 rfl
  | cons f rest => exact succeeds_mapM.trans (and_iff_right (List.cons_ne_nil f rest)).symm

/-- A statement about all fields does not depend on their order. -/
theorem forall_mem_ordered {p : String × Value → Prop} (fs : Fields) :
    (∀ f ∈ (sortByName fs).map fun f => (f.1, f.2.ordered), p f)
      ↔ ∀ f ∈ fs, p (f.1, f.2.ordered) := by
  rw [List.forall_mem_map]
  exact forall_congr' fun f => imp_congr_left (sortByName_perm fs).mem_iff

theorem Value.IsJson.ordered (h : v.IsJson) : v.ordered.IsJson := by
  induction h with
  | scalar h =>
    rw [h.ordered_eq]
    exact .scalar h
  | text s => exact .text s
  | list _ ih =>
    rw [ordered_list]
    exact .list (List.forall_mem_map.2 ih)
  | object _ ih =>
    rw [ordered_object]
    exact .object ((forall_mem_ordered _).2 ih)

theorem fieldPredicates_ordered (hv : v.IsJson) (field : String) :
    Succeeds (fieldPredicates field v.ordered) ↔ Succeeds (fieldPredicates field v) := by
  cases hv with
  | scalar h => rw [h.ordered_eq]
  | text s => rfl
  | @list items h =>
    rw [ordered_list]
    refine succeeds_bind_pure.trans (Iff.trans ?_ succeeds_bind_pure.symm)
    have hlist := IsJson.list h
    rw [← ordered_list]
    exact operatorPredicate_ordered hlist hlist.ordered field "in"
  | @object fs h =>
    rw [ordered_object, fieldPredicates_object, fieldPredicates_object, forall_mem_ordered]
    refine and_congr ?_ (forall₂_congr fun f hf =>
      operatorPredicate_ordered (h f hf) (h f hf).ordered field f.1)
    rw [Ne, Ne, List.map_eq_nil_iff, ← List.length_eq_zero_iff, (sortByName_perm fs).length_eq,
      List.length_eq_zero_iff]

/-! ## Trees -/

/-- The conditions of one field of a tree. -/
def readField (f : String × Value) : Outcome (List Condition) :=
  match Connective.ofWord? f.1 with
  | some connective => readGroup connective f.2
  | none => (fieldPredicates f.1 f.2).map (List.map .predicate)

theorem readFields_succeeds (fs : Fields) :
    Succeeds (readFields fs) ↔ ∀ f ∈ fs, Succeeds (readField f) := by
  induction fs with
  | nil => exact iff_of_true (succeeds_ok _) (List.forall_mem_nil _)
  | cons f rest ih =>
    have hcons : readFields (f :: rest) = do
        let first ← readField f
        return first ++ (← readFields rest) := by
      rw [readFields]
      unfold readField
      cases Connective.ofWord? f.1 <;> rfl
    rw [hcons, succeeds_bind, List.forall_mem_cons, ← ih]
    simp only [succeeds_bind_pure]
    exact exists_and_right

theorem readTrees_succeeds (trees : List Value) :
    Succeeds (readTrees trees) ↔ ∀ t ∈ trees, Succeeds (readConditions t) := by
  induction trees with
  | nil => exact iff_of_true (succeeds_ok _) (List.forall_mem_nil _)
  | cons tree rest ih =>
    rw [readTrees, succeeds_bind, List.forall_mem_cons, ← ih]
    simp only [succeeds_bind_pure]
    exact exists_and_right

theorem readConditions_ordered (hv : v.IsJson) :
    (Succeeds (readConditions v.ordered) ↔ Succeeds (readConditions v))
      ∧ ∀ connective,
        Succeeds (readGroup connective v.ordered) ↔ Succeeds (readGroup connective v) := by
  induction hv with
  | scalar h =>
    rw [h.ordered_eq]
    exact ⟨.rfl, fun _ => .rfl⟩
  | text s => exact ⟨.rfl, fun _ => .rfl⟩
  | @list items h ih =>
    rw [ordered_list]
    constructor
    · have hsize : (Value.list (items.map Value.ordered)).isTruthy = (Value.list items).isTruthy := by
        cases items <;> rfl
      rw [readConditions.eq_def, readConditions.eq_def]
      dsimp only
      rw [hsize]
    · intro connective
      rw [readGroup, readGroup, succeeds_bind_pure, succeeds_bind_pure, readTrees_succeeds,
        readTrees_succeeds, List.forall_mem_map]
      exact forall₂_congr fun v hv => (ih v hv).1
  | @object fs h ih =>
    rw [ordered_object]
    constructor
    · rw [readConditions, readConditions, readFields_succeeds, readFields_succeeds,
        forall_mem_ordered]
      refine forall₂_congr fun f hf => ?_
      unfold readField
      dsimp only
      split
      · exact (ih f hf).2 _
      · rw [succeeds_map, succeeds_map]
        exact fieldPredicates_ordered (h f hf) f.1
    · intro connective
      exact iff_of_false (not_succeeds_error _) (not_succeeds_error _)

theorem filterSql_ordered (hv : v.IsJson) :
    Succeeds (filterSql v.ordered) ↔ Succeeds (filterSql v) := by
  unfold filterSql
  rw [succeeds_bind_pure, succeeds_bind_pure]
  exact (readConditions_ordered hv).1

/-- Of two filter trees that are equal up to the order of fields, one has SQL when the other has. -/
theorem filterSql_succeeds_of_ordered (hv : v.IsJson) (hw : w.IsJson) (h : v.ordered = w.ordered)
    (hsucceeds : Succeeds (filterSql v)) : Succeeds (filterSql w) := by
  rw [← filterSql_ordered hw, ← h]
  exact (filterSql_ordered hv).2 hsucceeds

/-! ## Queries -/

section Queries

variable {r : MetricRequest} {filters : Value}

/-- A statement has SQL when its table has a name. -/
theorem statement_succeeds {s t : Statement} (h : Succeeds s.render) (htable : t.table = s.table) :
    Succeeds t.render := by
  have hname : Succeeds (sqlName s.table) := succeeds_bind_pure.1 h
  exact succeeds_bind_pure.2 (htable ▸ hname)

theorem groupedQuery_succeeds (hfilters : Succeeds (filterSql filters)) {groups : List String}
    {value : String} (h : Succeeds (groupedQuery r groups value)) :
    Succeeds (groupedQuery { r with filters } groups value) := by
  obtain ⟨_, -, hstatement⟩ := succeeds_bind.1 h
  obtain ⟨condition, hcondition⟩ := hfilters
  exact succeeds_bind.2 ⟨condition, hcondition, statement_succeeds hstatement rfl⟩

theorem toDateStatement_succeeds (hfilters : Succeeds (filterSql filters)) {inner : Expr}
    {period column : String} (h : Succeeds (toDateStatement r inner period column)) :
    Succeeds (toDateStatement { r with filters } inner period column) := by
  obtain ⟨groups, hgroups, h⟩ := succeeds_bind.1 h
  obtain ⟨value, hvalue, h⟩ := succeeds_bind.1 h
  obtain ⟨_, -, hstatement⟩ := succeeds_bind.1 h
  obtain ⟨condition, hcondition⟩ := hfilters
  exact succeeds_bind.2 ⟨groups, hgroups, succeeds_bind.2 ⟨value, hvalue,
    succeeds_bind.2 ⟨condition, hcondition,
      statement_succeeds hstatement rfl⟩⟩⟩

theorem comparisonStatement_succeeds (hfilters : Succeeds (filterSql filters)) {inner : Expr}
    {pair : PeriodPair} (h : Succeeds (comparisonStatement r inner pair)) :
    Succeeds (comparisonStatement { r with filters } inner pair) := by
  obtain ⟨value, hvalue, h⟩ := succeeds_bind.1 h
  obtain ⟨_, -, h⟩ := succeeds_bind.1 h
  obtain ⟨_, hcurrent, -⟩ := succeeds_bind.1 h
  obtain ⟨condition, hcondition⟩ := hfilters
  -- both statements are about one table
  have hboth : ∀ condition, Succeeds
      (Statement.render ⟨[value ++ " AS value"], r.table, condition, [], []⟩) :=
    fun _ => statement_succeeds ⟨_, hcurrent⟩ rfl
  obtain ⟨current, hcurrent⟩ := hboth (conjunction [pair.current, condition])
  exact succeeds_bind.2 ⟨value, hvalue, succeeds_bind.2 ⟨condition, hcondition,
    succeeds_bind.2 ⟨current, hcurrent, succeeds_bind_pure.2 (hboth _)⟩⟩⟩

theorem rollingStatement_succeeds (hfilters : Succeeds (filterSql filters)) {func : Aggregate}
    {args : List Expr} {inner : Expr} {column : String}
    (h : Succeeds (rollingStatement r func args inner column)) :
    Succeeds (rollingStatement { r with filters } func args inner column) := by
  obtain ⟨rows, hrows, h⟩ := succeeds_bind.1 h
  obtain ⟨groups, hgroups, h⟩ := succeeds_bind.1 h
  obtain ⟨sql, hsql, h⟩ := succeeds_bind.1 h
  obtain ⟨_, -, hstatement⟩ := succeeds_bind.1 h
  obtain ⟨condition, hcondition⟩ := hfilters
  exact succeeds_bind.2 ⟨rows, hrows, succeeds_bind.2 ⟨groups, hgroups, succeeds_bind.2 ⟨sql, hsql,
    succeeds_bind.2 ⟨condition, hcondition, statement_succeeds hstatement rfl⟩⟩⟩⟩

theorem timeQuery_succeeds (hfilters : Succeeds (filterSql filters)) {func : TimeFunction}
    {text : String} (h : Succeeds (timeQuery r func text)) :
    Succeeds (timeQuery { r with filters } func text) := by
  unfold timeQuery at h ⊢
  cases hshape : func.shape? with
  | none =>
    rw [hshape] at h
    exact absurd h (not_succeeds_error _)
  | some shape =>
    rw [hshape] at h
    dsimp only at h ⊢
    split_ifs at h ⊢
    · exact absurd h (not_succeeds_error _)
    · obtain ⟨args, hargs, h⟩ := succeeds_bind.1 h
      obtain ⟨column, hcolumn, hstatement⟩ := succeeds_bind.1 h
      refine succeeds_bind.2 ⟨args, hargs, succeeds_bind.2 ⟨column, hcolumn, ?_⟩⟩
      cases shape with
      | toDate period => exact toDateStatement_succeeds hfilters hstatement
      | yearOverYear => exact comparisonStatement_succeeds hfilters hstatement
      | monthOverMonth => exact comparisonStatement_succeeds hfilters hstatement
      | rolling aggregate => exact rollingStatement_succeeds hfilters hstatement

/-- A metric that has a query under some filters has one under all filters that have SQL. -/
theorem query_succeeds {c : Compiled} (h : Succeeds (c.query r))
    (hfilters : Succeeds (filterSql filters)) : Succeeds (c.query { r with filters }) := by
  cases c with
  | aggregation func field =>
    obtain ⟨groups, hgroups, h⟩ := succeeds_bind.1 h
    obtain ⟨value, hvalue, hquery⟩ := succeeds_bind.1 h
    exact succeeds_bind.2 ⟨groups, hgroups, succeeds_bind.2 ⟨value, hvalue,
      groupedQuery_succeeds hfilters hquery⟩⟩
  | formula text dependencies =>
    obtain ⟨groups, hgroups, h⟩ := succeeds_bind.1 h
    obtain ⟨value, hvalue, hquery⟩ := succeeds_bind.1 h
    exact succeeds_bind.2 ⟨groups, hgroups, succeeds_bind.2 ⟨value, hvalue,
      groupedQuery_succeeds hfilters hquery⟩⟩
  | timeIntel func text dependencies => exact timeQuery_succeeds hfilters h

end Queries

end MetricLayer
