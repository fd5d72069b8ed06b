import Mathlib.Data.List.Nodup
import MetricLayer.Text.Search

/-!
# First occurrences

`firstOccurrences` keeps the elements of a list, each once (`mem_firstOccurrences`,
`nodup_firstOccurrences`).  It may be applied before or after a filter, and to the parts of a list
before the whole (`firstOccurrences_filter`, `firstOccurrences_flatMap`).
-/

namespace MetricLayer.Text

variable {α β : Type} [DecidableEq α]

theorem mem_firstOccurrences {x : α} {xs : List α} : x ∈ firstOccurrences xs ↔ x ∈ xs := by
  induction xs with
  | nil => rfl
  | cons y ys ih =>
    rw [firstOccurrences, List.mem_cons, List.mem_cons, List.mem_filter, ih]
    by_cases hxy : x = y <;> simp [hxy]

theorem nodup_firstOccurrences (xs : List α) : (firstOccurrences xs).Nodup := by
  induction xs with
  | nil => exact List.nodup_nil
  | cons y ys ih =>
    rw [firstOccurrences, List.nodup_cons]
    exact ⟨by simp, ih.filter _⟩

/-- Elements may be left out before or after the repetitions. -/
theorem firstOccurrences_filter (p : α → Bool) (xs : List α) :
    firstOccurrences (xs.filter p) = (firstOccurrences xs).filter p := by
  induction xs with
  | nil => rfl
  | cons x xs ih =>
    rw [firstOccurrences]
    cases hx : p x with
    | true =>
      rw [List.filter_cons_of_pos hx, List.filter_cons_of_pos hx, firstOccurrences, ih,
        List.filter_comm]
    | false =>
      have hx' : ¬p x = true := by rw [hx]; decide
      rw [List.filter_cons_of_neg hx', List.filter_cons_of_neg hx', ih, List.filter_filter]
      refine List.filter_congr fun y _ => ?_
      by_cases hy : y = x
      · rw [hy, hx, Bool.false_and]
      · simp [hy]

/-- The second part of a list adds what the first one does not hold. -/
theorem firstOccurrences_append (xs ys : List α) :
    firstOccurrences (xs ++ ys) = firstOccurrences xs ++ (firstOccurrences ys).filter (· ∉ xs) := by
  induction xs with
  | nil => simp [firstOccurrences]
  | cons x xs ih =>
    rw [List.cons_append, firstOccurrences, firstOccurrences, ih, List.filter_append,
      List.filter_filter, List.cons_append]
    refine congrArg (fun zs => x :: (_ ++ zs)) (List.filter_congr fun y _ => ?_)
    simp [not_or]

/-- A list without repetitions is its own. -/
theorem firstOccurrences_of_nodup {xs : List α} (h : xs.Nodup) : firstOccurrences xs = xs := by
  induction xs with
  | nil => rfl
  | cons x xs ih =>
    rw [List.nodup_cons] at h
    rw [firstOccurrences, ih h.2, List.filter_eq_self.2]
    intro y hy
    simpa using ne_of_mem_of_not_mem hy h.1

/-- The repetitions within the parts may be left out first. -/
theorem firstOccurrences_flatMap (f : β → List α) (bs : List β) :
    firstOccurrences (bs.flatMap fun b => firstOccurrences (f b))
      = firstOccurrences (bs.flatMap f) := by
  induction bs with
  | nil => rfl
  | cons b bs ih =>
    rw [List.flatMap_cons, List.flatMap_cons, firstOccurrences_append, firstOccurrences_append, ih,
      firstOccurrences_of_nodup (nodup_firstOccurrences (f b))]
    simp only [mem_firstOccurrences]

end MetricLayer.Text
