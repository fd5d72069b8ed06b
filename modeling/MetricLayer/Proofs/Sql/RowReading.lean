import MetricLayer.Proofs.Sql.SearchCondition

/-!
# Predicates on a row

The truth values that a row gives to predicates.

* `RowReading` is a row as conditions look at it: the value of each term, if it is not null, and
  what holds between two values that are not null.
* `RowReading.truth` is the assignment of the row.  What compares with null is unknown, IN is the
  disjunction of comparisons, and NOT IN is its negation (`truth_in`, `truth_notIn`).
-/

namespace MetricLayer.Sql

namespace Truth

/-- The truth value of a statement that is decided. -/
def ofBool (b : Bool) : Truth := if b then true else false

theorem not_ofBool (b : Bool) : (ofBool b).not = ofBool !b := by cases b <;> rfl

theorem or_eq_true {a b : Truth} : a.or b = true ↔ a = true ∨ b = true := by
  cases a <;> cases b <;> simp [or]

/-- A disjunction is true exactly when one of its parts is. -/
theorem any_eq_true {as : List Truth} : any as = true ↔ true ∈ as := by
  induction as with
  | nil => simp [any]
  | cons a as ih => rw [any, or_eq_true, ih, List.mem_cons, eq_comm]

theorem not_or (a b : Truth) : (a.or b).not = a.not.and b.not := by
  cases a <;> cases b <;> rfl

/-- The negation of a disjunction is the conjunction of the negations. -/
theorem not_any (as : List Truth) : (any as).not = all (as.map not) := by
  induction as with
  | nil => rfl
  | cons a as ih => rw [any, not_or, ih, List.map_cons, all]

end Truth

/-- A row as conditions look at it. -/
structure RowReading (Datum : Type) where
  /-- The value of a term, unless it is null. -/
  value : Term → Option Datum
  /-- A sign of comparison holds between two values. -/
  compares : String → Datum → Datum → Bool
  /-- A value matches a pattern. -/
  isLike : Datum → Datum → Bool
  /-- NULL is null. -/
  null_value : value (.constant "null") = none
  /-- Values differ when they are not equal. -/
  compares_ne : ∀ a b, compares "!=" a b = !compares "=" a b
  /-- One is not zero. -/
  one_ne_zero : ∀ a ∈ value (.number "1"), ∀ b ∈ value (.number "0"), compares "=" a b = false

namespace RowReading

variable {Datum : Type} (row : RowReading Datum)

/-- What holds between the values of two terms; with null it is unknown. -/
def between (relation : Datum → Datum → Bool) (s t : Term) : Truth :=
  match row.value s, row.value t with
  | some a, some b => .ofBool (relation a b)
  | _, _ => .unknown

/-- The truth values of predicates on the row. -/
def truth : Assignment
  | .compare sign s t => row.between (row.compares sign) s t
  | .isNull negated t => .ofBool ((row.value t).isSome = negated)
  | .member negated t among =>
    let isAmong := Truth.any (among.map (row.between (row.compares "=") t))
    if negated then isAmong.not else isAmong
  | .like negated t pattern =>
    let isLike := row.between row.isLike t pattern
    if negated then isLike.not else isLike

/-! ## Comparisons -/

theorem between_null (relation : Datum → Datum → Bool) (t : Term) :
    row.between relation t (.constant "null") = .unknown := by
  unfold between
  rw [row.null_value]
  cases row.value t <;> rfl

/-- A comparison that is true is between values. -/
theorem isSome_of_between {relation : Datum → Datum → Bool} {s t : Term}
    (h : row.between relation s t = .true) : (row.value s).isSome := by
  unfold between at h
  split at h
  · next hs _ => rw [hs]; rfl
  · cases h

theorem truth_ne (s t : Term) :
    row.truth (.compare "!=" s t) = (row.truth (.compare "=" s t)).not := by
  simp only [truth, between]
  split
  · rw [row.compares_ne, Truth.not_ofBool]
  · rfl

/-- Nothing is among no values. -/
theorem truth_nothing : row.truth (.compare "=" (.number "1") (.number "0")) ≠ .true := by
  simp only [truth, between]
  split
  · next ha hb => rw [row.one_ne_zero _ ha _ hb]; decide
  · decide

/-! ## Membership -/

theorem truth_in {t : Term} {among : List Term} :
    row.truth (.member false t among) = .true
      ↔ ∃ u ∈ among, row.truth (.compare "=" t u) = .true := by
  simp only [truth, Bool.false_eq_true, if_false, Truth.any_eq_true, List.mem_map]

/-- A value is not among others when it differs from each of them. -/
theorem truth_notIn {t : Term} {among : List Term} :
    row.truth (.member true t among) = .true
      ↔ ∀ u ∈ among, row.truth (.compare "!=" t u) = .true := by
  simp only [truth_ne]
  simp only [truth, if_true, Truth.not_any, Truth.all_eq_true, List.forall_mem_map]

end RowReading

/-! ## Rows of texts -/

/-- A row whose values are texts and whose columns are those of a list; its patterns have no
wildcards. -/
def RowReading.ofTexts (cells : List (String × Option String)) : RowReading String where
  value
    | .column name => (cells.lookup name).join
    | .text s | .number s => some s
    | .constant w => if w = "null" then none else some w
    | _ => none
  compares sign a b :=
    if sign = "=" then a = b
    else if sign = "<" then a < b
    else if sign = ">" then b < a
    else if sign = "<=" then a ≤ b
    else if sign = ">=" then b ≤ a
    else a ≠ b
  isLike a pattern := a = pattern
  null_value := rfl
  compares_ne a b := by simp
  one_ne_zero a ha b hb := by
    obtain rfl := Option.some.inj ha
    obtain rfl := Option.some.inj hb
    decide

end MetricLayer.Sql
