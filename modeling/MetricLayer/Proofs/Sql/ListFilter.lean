import MetricLayer.Proofs.Sql.Admission
import MetricLayer.Proofs.Sql.Writable

/-!
# Lists of values in filters

A list of values selects the rows that one of its values selects alone, except that a null in the
list selects none; and no row is outside of a list with a null in it (`list_selects`).
-/

namespace MetricLayer.Sql

variable {Datum : Type} (row : RowReading Datum) {column : String} {v : Value} {vs : List Value}

/-! ## Columns with one predicate -/

/-- The tree that says one thing of a column. -/
def ofColumn (column : String) (v : Value) : Value := .object [(column, v)]

theorem succeeds_ofColumn (hcolumn : Connective.ofWord? column = none) :
    Succeeds (filterSql (ofColumn column v)) ↔ Succeeds (fieldPredicates column v) := by
  rw [ofColumn, succeeds_single, readField]
  simp only [hcolumn]
  exact succeeds_map

theorem selects_ofColumn (hcolumn : Connective.ofWord? column = none) {p : Predicate}
    (hatom : fieldAtoms column v = [p]) {a : Assignment} :
    Selects (ofColumn column v) a ↔ Succeeds (fieldPredicates column v) ∧ a p = .true := by
  have hmeaning : treeMeaning (ofColumn column v) = some (Meaning.atom p) := by
    simp only [ofColumn, treeMeaning, fieldMeanings, hcolumn, hatom, List.map_cons, List.map_nil,
      List.append_nil]
    exact congrArg some (Meaning.all_singleton _)
  constructor
  · rintro ⟨sql, hsql, hholds⟩
    have hsucceeds : Succeeds (filterSql (ofColumn column v)) := ⟨sql, hsql⟩
    obtain ⟨m, hm, htrue⟩ := (selects_iff hsucceeds).1 ⟨sql, hsql, hholds⟩
    rw [hmeaning] at hm
    obtain rfl := Option.some.inj hm
    exact ⟨(succeeds_ofColumn hcolumn).1 hsucceeds, htrue⟩
  · rintro ⟨hsucceeds, htrue⟩
    exact (selects_iff ((succeeds_ofColumn hcolumn).2 hsucceeds)).2 ⟨_, hmeaning, htrue⟩

/-- When nothing else can fail, a predicate needs a column with a name. -/
theorem succeeds_named {α : Type} {f : String → Outcome α} (hf : ∀ name, Succeeds (f name)) :
    Succeeds (sqlName column >>= f) ↔ Succeeds (sqlName column) :=
  succeeds_bind.trans ⟨fun ⟨name, hname, _⟩ => ⟨name, hname⟩,
    fun ⟨name, hname⟩ => ⟨name, hname, hf name⟩⟩

/-! ## One value -/

theorem fieldPredicates_value (column : String) (hv : v.IsWritable) (hnull : v ≠ .null) :
    fieldPredicates column v = (do
        let name ← sqlName column
        return [name ++ " = " ++ (← sqlLiteral v)])
      ∧ fieldAtoms column v = [.compare "=" (.column column) (literalTerm v)] := by
  cases v with
  | null => exact absurd rfl hnull
  | duration | bytes | list | tuple | object => exact hv.elim
  | _ => exact ⟨rfl, rfl⟩

theorem selects_value (hcolumn : Connective.ofWord? column = none) (hv : v.IsWritable)
    (hnull : v ≠ .null) {a : Assignment} :
    Selects (ofColumn column v) a ↔ Succeeds (sqlName column)
      ∧ a (.compare "=" (.column column) (literalTerm v)) = .true := by
  obtain ⟨hpredicates, hatoms⟩ := fieldPredicates_value column hv hnull
  rw [selects_ofColumn hcolumn hatoms, hpredicates]
  rw [succeeds_named fun name => succeeds_bind_pure.2 (succeeds_sqlLiteral.2 hv)]

/-- An object of one operator says what the operator says. -/
theorem selects_operator (hcolumn : Connective.ofWord? column = none) {operator : String}
    (hpredicate : Succeeds (operatorPredicate column operator v) ↔ Succeeds (sqlName column))
    {a : Assignment} :
    Selects (ofColumn column (.object [(operator, v)])) a
      ↔ Succeeds (sqlName column) ∧ a (operatorAtom column operator v) = .true := by
  have hatoms : fieldAtoms column (.object [(operator, v)]) = [operatorAtom column operator v] := rfl
  rw [selects_ofColumn hcolumn hatoms, fieldPredicates_object, List.forall_mem_singleton,
    and_iff_right (List.cons_ne_nil _ _), hpredicate]

theorem selects_ne (hcolumn : Connective.ofWord? column = none) (hv : v.IsWritable)
    (hnull : v ≠ .null) {a : Assignment} :
    Selects (ofColumn column (.object [("ne", v)])) a ↔ Succeeds (sqlName column)
      ∧ a (.compare "!=" (.column column) (literalTerm v)) = .true := by
  have hcompare : ∀ name, Succeeds (comparePredicate name .ne v) := by
    intro name
    cases v with
    | null => exact succeeds_ok _
    | _ => exact succeeds_bind_pure.2 (succeeds_sqlLiteral.2 hv)
  have hatom : operatorAtom column "ne" v = .compare "!=" (.column column) (literalTerm v) := by
    cases v <;> first | rfl | exact absurd rfl hnull
  have hpredicate : Succeeds (operatorPredicate column "ne" v) ↔ Succeeds (sqlName column) :=
    succeeds_named hcompare
  rw [selects_operator hcolumn hpredicate, hatom]

/-! ## Lists of values -/

theorem succeeds_member (hvs : ∀ v ∈ vs, v.IsWritable) (negated : Bool) (name : String) :
    Succeeds (memberPredicate name negated (.list vs)) :=
  (memberPredicate_list name negated vs).2 fun v hv => succeeds_sqlLiteral.2 (hvs v hv)

theorem selects_in (hcolumn : Connective.ofWord? column = none) (hvs : ∀ v ∈ vs, v.IsWritable)
    {a : Assignment} :
    Selects (ofColumn column (.list vs)) a
      ↔ Succeeds (sqlName column) ∧ a (memberAtom column false vs) = .true := by
  rw [selects_ofColumn hcolumn rfl]
  exact and_congr_left fun _ =>
    succeeds_bind_pure.trans (succeeds_named (succeeds_member hvs false))

theorem selects_notIn (hcolumn : Connective.ofWord? column = none) (hvs : ∀ v ∈ vs, v.IsWritable)
    {a : Assignment} :
    Selects (ofColumn column (.object [("notIn", .list vs)])) a
      ↔ Succeeds (sqlName column) ∧ a (memberAtom column true vs) = .true := by
  have hpredicate : Succeeds (operatorPredicate column "notIn" (.list vs))
      ↔ Succeeds (sqlName column) := succeeds_named (succeeds_member hvs true)
  exact selects_operator hcolumn hpredicate

theorem truth_memberAtom :
    row.truth (memberAtom column false vs) = .true
      ↔ ∃ v ∈ vs, row.truth (.compare "=" (.column column) (literalTerm v)) = .true := by
  cases vs with
  | nil => exact iff_of_false row.truth_nothing (by simp)
  | cons v vs => simp only [memberAtom, row.truth_in, List.mem_map, exists_exists_and_eq_and]

theorem truth_notMemberAtom (hne : vs ≠ []) :
    row.truth (memberAtom column true vs) = .true
      ↔ ∀ v ∈ vs, row.truth (.compare "!=" (.column column) (literalTerm v)) = .true := by
  cases vs with
  | nil => exact absurd rfl hne
  | cons v vs => exact row.truth_notIn.trans List.forall_mem_map

/-- No value compares with null. -/
theorem ne_null_of_compare {sign : String}
    (h : row.truth (.compare sign (.column column) (literalTerm v)) = .true) : v ≠ .null := by
  rintro rfl
  exact absurd ((row.between_null _ _).symm.trans h) (by decide)

/-- A list selects the rows that one of its values that are not null selects alone.  A row is not
in a list that is not empty exactly if there is no null in the list, the column is not null and it
differs from every value of the list. -/
theorem list_selects (hcolumn : Connective.ofWord? column = none)
    (hvs : ∀ v ∈ vs, v.IsWritable) :
    (Selects (ofColumn column (.list vs)) row.truth
        ↔ ∃ v ∈ vs, v ≠ .null ∧ Selects (ofColumn column v) row.truth)
      ∧ (vs ≠ [] → (Selects (ofColumn column (.object [("notIn", .list vs)])) row.truth
        ↔ .null ∉ vs ∧ (row.value (.column column)).isSome
          ∧ ∀ v ∈ vs, v ≠ .null → Selects (ofColumn column (.object [("ne", v)])) row.truth)) := by
  constructor
  · rw [selects_in hcolumn hvs, truth_memberAtom]
    constructor
    · rintro ⟨hname, v, hv, hequal⟩
      have hnull := ne_null_of_compare row hequal
      exact ⟨v, hv, hnull, (selects_value hcolumn (hvs v hv) hnull).2 ⟨hname, hequal⟩⟩
    · rintro ⟨v, hv, hnull, hselects⟩
      obtain ⟨hname, hequal⟩ := (selects_value hcolumn (hvs v hv) hnull).1 hselects
      exact ⟨hname, v, hv, hequal⟩
  · intro hne
    rw [selects_notIn hcolumn hvs, truth_notMemberAtom row hne]
    obtain ⟨first, hfirst⟩ := List.exists_mem_of_ne_nil vs hne
    constructor
    · rintro ⟨hname, hdiffers⟩
      refine ⟨fun hnull => ne_null_of_compare row (hdiffers .null hnull) rfl,
        row.isSome_of_between (hdiffers first hfirst), fun v hv hnull => ?_⟩
      exact (selects_ne hcolumn (hvs v hv) hnull).2 ⟨hname, hdiffers v hv⟩
    · rintro ⟨hnull, -, hdiffers⟩
      have hall : ∀ v ∈ vs, Succeeds (sqlName column)
          ∧ row.truth (.compare "!=" (.column column) (literalTerm v)) = .true := by
        intro v hv
        have hvalue : v ≠ .null := fun heq => hnull (heq ▸ hv)
        exact (selects_ne hcolumn (hvs v hv) hvalue).1 (hdiffers v hv hvalue)
      exact ⟨(hall first hfirst).1, fun v hv => (hall v hv).2⟩

/-- The South, or nothing. -/
def southOrNull : List Value := [.text "South", .null]

/-- A row from the North. -/
def northRow : RowReading String := .ofTexts [("region", some "North")]

/-- A row without a region. -/
def nowhereRow : RowReading String := .ofTexts [("region", none)]

theorem southOrNull_selects :
    Connective.ofWord? "region" = none ∧ (∀ v ∈ southOrNull, v.IsWritable)
      ∧ (Selects (ofColumn "region" (.list southOrNull)) southRow.truth
        ↔ ∃ v ∈ southOrNull, v ≠ .null ∧ Selects (ofColumn "region" v) southRow.truth)
      ∧ Selects (ofColumn "region" (.list southOrNull)) southRow.truth := by
  have hcolumn : Connective.ofWord? "region" = none := by decide
  have hvs : ∀ v ∈ southOrNull, v.IsWritable := by decide
  have hselects := (list_selects southRow hcolumn hvs).1
  refine ⟨hcolumn, hvs, hselects, hselects.2 ⟨.text "South", by simp [southOrNull], nofun, ?_⟩⟩
  exact (selects_iff ⟨_, rfl⟩).2 ⟨_, rfl, by decide⟩

/-- A null alone selects the rows without a region, but in a list it does not, and with a null in
the list no row is outside of it. -/
theorem southOrNull_misses :
    filterSql (ofColumn "region" (.list southOrNull)) = .ok "\"region\" IN ('South', NULL)"
      ∧ Selects (ofColumn "region" .null) nowhereRow.truth
      ∧ ¬Selects (ofColumn "region" (.list southOrNull)) nowhereRow.truth
      ∧ Selects (ofColumn "region" (.object [("ne", .text "South")])) northRow.truth
      ∧ ¬Selects (ofColumn "region" (.object [("notIn", .list southOrNull)])) northRow.truth := by
  have hin : filterSql (ofColumn "region" (.list southOrNull))
      = .ok "\"region\" IN ('South', NULL)" := rfl
  have hnotIn : filterSql (ofColumn "region" (.object [("notIn", .list southOrNull)]))
      = .ok "\"region\" NOT IN ('South', NULL)" := rfl
  refine ⟨hin, (selects_iff ⟨_, rfl⟩).2 ⟨_, rfl, by decide⟩, ?_,
    (selects_iff ⟨_, rfl⟩).2 ⟨_, rfl, by decide⟩, ?_⟩
  · rw [selects_iff ⟨_, hin⟩]
    rintro ⟨m, hm, htrue⟩
    cases hm
    exact absurd htrue (by decide)
  · rw [selects_iff ⟨_, hnotIn⟩]
    rintro ⟨m, hm, htrue⟩
    cases hm
    exact absurd htrue (by decide)

end MetricLayer.Sql
