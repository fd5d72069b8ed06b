import MetricLayer.Proofs.Sql.FilterOrder
import MetricLayer.Proofs.Sql.Restriction
import MetricLayer.Proofs.Sql.RowReading

/-!
# The rows that filters admit

A row makes an assignment, and a filter admits the rows for which its condition is true.

* `Selects` is about the condition of a tree, `Admits` about its WHERE clause, which may be absent;
  `selects_iff` and `admits_iff` bring both down to what the tree says.
* `admits_connective` is the main result: one more tree under AND never admits more rows, and one
  more under OR never fewer, unless the trees before it say nothing.
-/

namespace MetricLayer.Sql

variable {tree : Value} {trees : List Value} {sql : String} {m : Meaning} {v : Assignment}

/-- The text spells a condition, which is true. -/
def Holds (sql : String) (v : Assignment) : Prop :=
  ∃ ts c, lex sql.toList = some ts ∧ readCondition ts = some c ∧ c.eval v = .true

/-- The condition of a filter tree is true. -/
def Selects (tree : Value) (v : Assignment) : Prop := ∃ sql, filterSql tree = .ok sql ∧ Holds sql v

/-- The WHERE clause of a filter tree is absent, or its condition is true. -/
def Admits (tree : Value) (v : Assignment) : Prop :=
  ∃ clause, whereClause tree = .ok clause
    ∧ (clause = "" ∨ ∃ sql, clause = "WHERE " ++ sql ∧ Holds sql v)

/-! ## What is admitted, and what a tree says -/

theorem Clause.holds_iff (h : Clause sql m) : Holds sql v ↔ m v = .true := by
  obtain ⟨ts, c, hl, -, hr, hv⟩ := h.reads.whole
  constructor
  · rintro ⟨us, d, hus, hd, hholds⟩
    obtain rfl := Option.some.inj (hl.lex_eq.symm.trans hus)
    obtain rfl := Option.some.inj (hr.readCondition_eq.symm.trans hd)
    rw [← hv, hholds]
  · intro hm
    exact ⟨ts, c, hl.lex_eq, hr.readCondition_eq, by rw [hv, hm]⟩

/-- The empty text spells no condition. -/
theorem not_holds_empty : ¬Holds "" v := by
  rintro ⟨ts, c, hts, hc, -⟩
  rw [String.toList_empty, lex_nil] at hts
  obtain rfl := Option.some.inj hts
  cases hc

theorem selects_iff (h : Succeeds (filterSql tree)) :
    Selects tree v ↔ ∃ m ∈ treeMeaning tree, m v = .true := by
  obtain ⟨sql, hsql⟩ := h
  have hselects : Selects tree v ↔ Holds sql v := by
    simp only [Selects, hsql, Except.ok.injEq, exists_eq_left']
  rw [hselects]
  rcases filterSql_clause hsql with ⟨rfl, hnone⟩ | ⟨m, hclause, hsome⟩
  · simp [hnone, not_holds_empty]
  · simp [hsome, hclause.holds_iff]

theorem whereClause_eq (h : filterSql tree = .ok sql) :
    whereClause tree = .ok (if sql = "" then "" else "WHERE " ++ sql) := by
  rw [whereClause, h]
  rfl

theorem succeeds_whereClause : Succeeds (whereClause tree) ↔ Succeeds (filterSql tree) :=
  succeeds_bind_pure

theorem admits_iff (h : Succeeds (whereClause tree)) :
    Admits tree v ↔ ∀ m ∈ treeMeaning tree, m v = .true := by
  obtain ⟨sql, hsql⟩ := succeeds_whereClause.1 h
  simp only [Admits, whereClause_eq hsql, Except.ok.injEq, exists_eq_left']
  rcases filterSql_clause hsql with ⟨rfl, hnone⟩ | ⟨m, hclause, hsome⟩
  · simp [hnone]
  · simp [hsome, hclause.ne_empty, hclause.holds_iff]

/-- The WHERE clause of a tree is absent when the tree says nothing. -/
theorem whereClause_eq_empty (h : Succeeds (whereClause tree)) :
    whereClause tree = .ok "" ↔ treeMeaning tree = none := by
  obtain ⟨sql, hsql⟩ := succeeds_whereClause.1 h
  rw [whereClause_eq hsql, Except.ok.injEq]
  rcases filterSql_clause hsql with ⟨rfl, hnone⟩ | ⟨m, hclause, hsome⟩
  · simp [hnone]
  · simp [hsome, hclause.ne_empty]

theorem holds_connected_and {ms : List Meaning} :
    (∀ m ∈ connected .and ms, m v = .true) ↔ ∀ m ∈ ms, m v = .true := by
  rw [connected]
  split
  · next hempty => simp [List.isEmpty_iff.1 hempty]
  · simp only [Option.mem_some_iff, forall_eq', Meaning.all, Truth.all_eq_true, List.forall_mem_map]

/-! ## The fields of a tree -/

/-- A tree of one field has SQL when the field has. -/
theorem succeeds_single (f : String × Value) :
    Succeeds (filterSql (.object [f])) ↔ Succeeds (readField f) := by
  refine succeeds_bind_pure.trans ?_
  rw [readConditions, readFields_succeeds, List.forall_mem_singleton]

theorem fieldMeanings_eq (fs : Fields) :
    fieldMeanings fs = fs.flatMap fun f => fieldMeanings [f] := by
  induction fs with
  | nil => rfl
  | cons f rest ih =>
    rw [List.flatMap_cons, ← ih]
    simp only [fieldMeanings, List.append_nil]

/-- A tree admits the rows that each of its fields admits. -/
theorem admits_fields {fs : Fields} (h : Succeeds (whereClause (.object fs))) :
    Admits (.object fs) v ↔ ∀ f ∈ fs, Admits (.object [f]) v := by
  have hfield : ∀ f ∈ fs, Succeeds (whereClause (.object [f])) := by
    rw [succeeds_whereClause] at h
    intro f hf
    rw [succeeds_whereClause, succeeds_single]
    exact (readFields_succeeds fs).1 (succeeds_bind_pure.1 h) f hf
  have hfields : (∀ f ∈ fs, Admits (.object [f]) v)
      ↔ ∀ f ∈ fs, ∀ m ∈ fieldMeanings [f], m v = .true := by
    refine forall₂_congr fun f hf => ?_
    rw [admits_iff (hfield f hf), treeMeaning, holds_connected_and]
  rw [admits_iff h, treeMeaning, holds_connected_and, hfields, fieldMeanings_eq,
    List.forall_mem_flatMap]

/-! ## Connectives over lists of trees -/

/-- The tree of a connective over other trees. -/
def joinedBy (connective : Connective) (trees : List Value) : Value :=
  .object [(connective.word, .list trees)]

theorem ofWord?_word (connective : Connective) :
    Connective.ofWord? connective.word = some connective := by
  cases connective <;> decide

theorem succeeds_joinedBy (connective : Connective) (h : ∀ t ∈ trees, Succeeds (whereClause t)) :
    Succeeds (whereClause (joinedBy connective trees)) := by
  have hread : ∀ t ∈ trees, Succeeds (readConditions t) := fun t ht =>
    succeeds_bind_pure.1 (succeeds_whereClause.1 (h t ht))
  rw [succeeds_whereClause, joinedBy, succeeds_single, readField]
  simp only [ofWord?_word]
  rw [readGroup]
  exact succeeds_bind_pure.2 ((readTrees_succeeds trees).2 hread)

theorem treeMeanings_eq (trees : List Value) : treeMeanings trees = trees.filterMap treeMeaning := by
  induction trees with
  | nil => rfl
  | cons tree trees ih =>
    rw [treeMeanings, ih]
    cases h : treeMeaning tree with
    | none => rw [List.filterMap_cons_none h]; rfl
    | some m => rw [List.filterMap_cons_some h]; rfl

theorem treeMeaning_joinedBy (connective : Connective) (trees : List Value) :
    treeMeaning (joinedBy connective trees)
      = connected .and (connected connective (trees.filterMap treeMeaning)).toList := by
  simp only [joinedBy, treeMeaning, fieldMeanings, ofWord?_word, connectiveMeaning,
    treeMeanings_eq, List.append_nil]

theorem admits_joinedBy {connective : Connective} (h : ∀ t ∈ trees, Succeeds (whereClause t)) :
    Admits (joinedBy connective trees) v
      ↔ ∀ m ∈ connected connective (trees.filterMap treeMeaning), m v = .true := by
  rw [admits_iff (succeeds_joinedBy connective h), treeMeaning_joinedBy]
  cases connected connective (trees.filterMap treeMeaning) with
  | none => rfl
  | some m => simp [connected, Meaning.all_singleton]

/-- AND admits the rows that all trees admit. -/
theorem admits_and (h : ∀ t ∈ trees, Succeeds (whereClause t)) :
    Admits (joinedBy .and trees) v ↔ ∀ t ∈ trees, Admits t v := by
  have hparts : (∀ t ∈ trees, Admits t v) ↔ ∀ m ∈ trees.filterMap treeMeaning, m v = .true := by
    simp only [List.mem_filterMap]
    constructor
    · rintro hall m ⟨t, ht, hm⟩
      exact (admits_iff (h t ht)).1 (hall t ht) m hm
    · intro hall t ht
      exact (admits_iff (h t ht)).2 fun m hm => hall m ⟨t, ht, hm⟩
  rw [admits_joinedBy h, hparts, holds_connected_and]

/-- OR admits the rows that one of the trees admits that say something; when none says anything,
there is no clause. -/
theorem admits_or (h : ∀ t ∈ trees, Succeeds (whereClause t)) :
    Admits (joinedBy .or trees) v
      ↔ (∀ t ∈ trees, whereClause t = .ok "")
        ∨ ∃ t ∈ trees, whereClause t ≠ .ok "" ∧ Admits t v := by
  have hnothing : (∀ t ∈ trees, whereClause t = .ok "") ↔ trees.filterMap treeMeaning = [] := by
    rw [List.filterMap_eq_nil_iff]
    exact forall₂_congr fun t ht => whereClause_eq_empty (h t ht)
  have hpart : (∃ t ∈ trees, whereClause t ≠ .ok "" ∧ Admits t v)
      ↔ ∃ m ∈ trees.filterMap treeMeaning, m v = .true := by
    simp only [List.mem_filterMap]
    constructor
    · rintro ⟨t, ht, hsays, hadmits⟩
      rw [Ne, whereClause_eq_empty (h t ht)] at hsays
      obtain ⟨m, hm⟩ := Option.ne_none_iff_exists'.1 hsays
      exact ⟨m, ⟨t, ht, hm⟩, (admits_iff (h t ht)).1 hadmits m hm⟩
    · rintro ⟨m, ⟨t, ht, hm⟩, hholds⟩
      refine ⟨t, ht, ?_, (admits_iff (h t ht)).2 fun n hn => ?_⟩
      · rw [Ne, whereClause_eq_empty (h t ht), hm]
        exact Option.some_ne_none m
      · rw [Option.mem_def, hm] at hn
        rwa [← Option.some.inj hn]
  rw [admits_joinedBy h, hnothing, hpart, connected]
  split
  · next hempty => simp [List.isEmpty_iff.1 hempty]
  · next hne =>
    rw [List.isEmpty_iff] at hne
    simp [Meaning.any, Truth.any_eq_true, hne]

/-- One more tree under AND keeps the rows that it admits itself, and no others.  One more under OR
keeps a row exactly if it admits the row or one of the trees before it says something: when none
does, there was no clause, and now the tree decides alone. -/
theorem admits_connective (h : ∀ t ∈ trees ++ [tree], Succeeds (whereClause t)) (v : Assignment) :
    (Admits (joinedBy .and (trees ++ [tree])) v
        ↔ Admits (joinedBy .and trees) v ∧ Admits tree v)
      ∧ ((Admits (joinedBy .or trees) v → Admits (joinedBy .or (trees ++ [tree])) v)
        ↔ Admits tree v ∨ ∃ t ∈ trees, whereClause t ≠ .ok "") := by
  have htrees : ∀ t ∈ trees, Succeeds (whereClause t) := fun t ht =>
    h t (List.mem_append_left _ ht)
  constructor
  · rw [admits_and h, admits_and htrees, List.forall_mem_append, List.forall_mem_singleton]
  rw [admits_or h, admits_or htrees]
  constructor
  · intro hkeeps
    by_cases hsays : ∃ t ∈ trees, whereClause t ≠ .ok ""
    · exact .inr hsays
    · have hnothing : ∀ t ∈ trees, whereClause t = .ok "" := by
        push Not at hsays
        exact hsays
      rcases hkeeps (.inl hnothing) with hall | ⟨t, ht, hclause, hadmits⟩
      · exact .inl ⟨"", hall tree (by simp), .inl rfl⟩
      · rcases List.mem_append.1 ht with ht | ht
        · exact absurd (hnothing t ht) hclause
        · exact .inl (List.mem_singleton.1 ht ▸ hadmits)
  · rintro hrow (hnothing | ⟨t, ht, hadmits⟩)
    · rcases hrow with hadmits | ⟨t, ht, hclause⟩
      · by_cases hclause : whereClause tree = .ok ""
        · exact .inl (List.forall_mem_append.2 ⟨hnothing, by simpa using hclause⟩)
        · exact .inr ⟨tree, by simp, hclause, hadmits⟩
      · exact absurd (hnothing t ht) hclause
    · exact .inr ⟨t, List.mem_append_left _ ht, hadmits⟩

/-- The tree of the rows from the North. -/
def fromNorth : Value := .object [("region", .text "North")]

/-- The tree of the rows from the South. -/
def fromSouth : Value := .object [("region", .text "South")]

/-- A row from the South. -/
def southRow : RowReading String := .ofTexts [("region", some "South")]

theorem fromSouth_added :
    (∀ t ∈ [fromNorth] ++ [fromSouth], Succeeds (whereClause t))
      ∧ (Admits (joinedBy .and ([fromNorth] ++ [fromSouth])) southRow.truth
        ↔ Admits (joinedBy .and [fromNorth]) southRow.truth ∧ Admits fromSouth southRow.truth)
      ∧ (Admits (joinedBy .or [fromNorth]) southRow.truth →
        Admits (joinedBy .or ([fromNorth] ++ [fromSouth])) southRow.truth) := by
  have h : ∀ t ∈ [fromNorth] ++ [fromSouth], Succeeds (whereClause t) := by
    simp only [List.cons_append, List.nil_append, List.forall_mem_cons]
    exact ⟨⟨_, rfl⟩, ⟨_, rfl⟩, List.forall_mem_nil _⟩
  have hclause : whereClause fromNorth = .ok "WHERE \"region\" = 'North'" := rfl
  have hsays : whereClause fromNorth ≠ .ok "" := by
    rw [hclause]
    simp
  obtain ⟨hand, hor⟩ := admits_connective h southRow.truth
  exact ⟨h, hand, hor.2 (.inr ⟨fromNorth, by simp, hsays⟩)⟩

/-- No alternatives admit every row, and one alternative only its own. -/
theorem noAlternatives_admit :
    whereClause (joinedBy .or []) = .ok ""
      ∧ Admits (joinedBy .or []) southRow.truth
      ∧ whereClause (joinedBy .or ([] ++ [fromNorth])) = .ok "WHERE (\"region\" = 'North')"
      ∧ ¬Admits (joinedBy .or ([] ++ [fromNorth])) southRow.truth := by
  have hclause : whereClause (joinedBy .or ([] ++ [fromNorth]))
      = .ok "WHERE (\"region\" = 'North')" := rfl
  refine ⟨rfl, ⟨"", rfl, .inl rfl⟩, hclause, ?_⟩
  rw [admits_iff ⟨_, hclause⟩]
  intro hall
  exact absurd (hall _ rfl) (by decide)

end MetricLayer.Sql
