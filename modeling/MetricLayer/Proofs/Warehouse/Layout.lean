import MetricLayer.Proofs.Warehouse.Contents

/-!
# The layouts of the warehouse

The committed changes say which physical tables there are and which columns each was created with
(`Warehouse.layouts`).  A creation leaves a table that exists as it is, so a table keeps the columns
of the creation that came first; rows that are added do not matter, and a removal ends the table.

A change that is made is the latest committed one, and one that is not made leaves no mark
(`Warehouse.changes_made`, `Warehouse.changes_refused`).  Which of the two happens is decided by the
statement that is to fail next, as long as the change can be written (`Warehouse.apply_written`).
-/

namespace MetricLayer

/-- The columns that the physical tables were created with; none where there is no table. -/
abbrev Layouts := String → Option (List Column)

namespace Change

/-- The columns of the changed table after the change. -/
def laidOut : Change → Option (List Column) → Option (List Column)
  | create _ columns _, layout => some (layout.getD columns)
  | insert _ _ _, layout => layout
  | drop _, _ => none

/-- The layouts after the change. -/
def layouts (c : Change) (before : Layouts) : Layouts :=
  Function.update before c.target (c.laidOut (before c.target))

theorem layouts_insert (physical : String) (columns : List String) (rows : List Row)
    (before : Layouts) : (insert physical columns rows).layouts before = before :=
  Function.update_eq_self _ _

/-- The creation of a table that exists has no effect. -/
theorem layouts_create_of_some {physical : String} {columns laid : List Column}
    (keys : List String) {before : Layouts} (h : before physical = some laid) :
    (create physical columns keys).layouts before = before := by
  refine (congrArg (Function.update before physical) ?_).trans (Function.update_eq_self _ _)
  rw [target, laidOut, h, Option.getD_some]

theorem layouts_create_of_none {physical : String} (columns : List Column) (keys : List String)
    {before : Layouts} (h : before physical = none) :
    (create physical columns keys).layouts before
      = Function.update before physical (some columns) := by
  refine congrArg (Function.update before physical) ?_
  rw [target, laidOut, h, Option.getD_none]

end Change

/-- The change that a transaction committed. -/
def Transaction.change? : Transaction → Option Change
  | committed change _ => some change
  | _ => none

namespace Warehouse

/-- The committed changes, the latest first. -/
def changes (w : Warehouse) : List Change := w.transactions.filterMap Transaction.change?

/-- The layouts that the committed changes lead to, from a database without tables. -/
def layouts (w : Warehouse) : Layouts := w.changes.foldr Change.layouts fun _ => none

variable {w w' : Warehouse}

theorem layouts_of_changes (h : w'.changes = w.changes) : w'.layouts = w.layouts := by
  rw [layouts, layouts, h]

theorem layouts_of_change {c : Change} (h : w'.changes = c :: w.changes) :
    w'.layouts = c.layouts w.layouts := by
  rw [layouts, h]
  rfl

theorem changes_send (w : Warehouse) (statements : List Sent) :
    (w.send statements).2.2.changes = w.changes := by
  rw [changes, transactions_send]
  rfl

/-- A change that is made is the latest one. -/
theorem changes_made {c : Change} (h : w.apply c = (.ok (), w')) :
    w'.changes = c :: w.changes := by
  unfold apply at h
  split at h
  · cases h
  · dsimp only at h
    split_ifs at h
    · cases h
    · cases h
      exact congrArg (c :: ·) (changes_send w _)

/-- A change that is not made leaves no mark. -/
theorem changes_refused {c : Change} {failure : Failure} (h : w.apply c = (.error failure, w')) :
    w'.changes = w.changes := by
  unfold apply at h
  split at h
  · cases h
    split_ifs <;> rfl
  · dsimp only at h
    split_ifs at h
    · cases h
      exact changes_send w _
    · cases h

/-- A change that can be written fails exactly if it is the statement that is to fail next; else it
is made and the failure has come one statement closer. -/
theorem apply_written {c : Change} {sql : String} (hrender : c.render = .ok sql) :
    (w.faultIn = 1 ∧ (w.apply c).1 = .error .simulated)
    ∨ (w.faultIn ≠ 1 ∧ (w.apply c).1 = .ok () ∧ (w.apply c).2.faultIn = w.faultIn - 1) := by
  unfold apply
  rw [hrender]
  unfold send
  dsimp only [List.length_singleton]
  by_cases hfault : w.faultIn = 1
  · rw [hfault]
    exact .inl ⟨rfl, rfl⟩
  · have hgo : ¬(decide (0 < w.faultIn) && decide (w.faultIn ≤ 1)) = true := by
      simp only [Bool.and_eq_true, decide_eq_true_eq]
      omega
    rw [if_neg hgo]
    exact .inr ⟨hfault, rfl, rfl⟩

end Warehouse

end MetricLayer
