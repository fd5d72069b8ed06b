import MetricLayer.Proofs.Outcome
import MetricLayer.Warehouse
import Mathlib.Tactic

/-!
# The contents of the warehouse

The history of the warehouse says which rows its tables hold: a committed change acts on the table
it is about and on no other (`Warehouse.contents`).  A change either is made or leaves all tables as
they are, and then the failure is one of the warehouse (`Warehouse.apply_made`,
`Warehouse.apply_refused`).
-/

namespace MetricLayer

/-- The rows of the physical tables, oldest first; none where there is no table. -/
abbrev Contents := String → Option (List Row)

namespace Change

/-- The rows of the changed table after the change. -/
def applied : Change → Option (List Row) → Option (List Row)
  | create _ _ _, rows => some (rows.getD [])
  | insert _ _ added, rows => rows.map (· ++ added)
  | drop _, _ => none

end Change

/-- The contents after a transaction. -/
def Transaction.applied : Transaction → Contents → Contents
  | committed change _, contents =>
    Function.update contents change.target (change.applied (contents change.target))
  | _, contents => contents

/-- The contents that the history leads to, from a database without tables. -/
def Warehouse.contents (w : Warehouse) : Contents :=
  w.transactions.foldr Transaction.applied fun _ => none

/-! ## Failures of the warehouse -/

/-- The failure is one of the warehouse: a statement could not be written, or the database refused
it. -/
def Failure.isOfWarehouse : Failure → Bool
  | .sqlText _ => true
  | .simulated => true
  | _ => false

/-- Nothing can go wrong but that a text or a name has no SQL. -/
def FailsInText {α : Type} (o : Outcome α) : Prop :=
  ∀ failure, o = .error failure → ∃ fault, failure = .sqlText fault

namespace FailsInText

variable {α β : Type}

theorem of_ok (a : α) : FailsInText (.ok a : Outcome α) := by
  intro failure h
  cases h

theorem of_error (fault : SqlTextFault) : FailsInText (.error (.sqlText fault) : Outcome α) := by
  intro failure h
  cases h
  exact ⟨fault, rfl⟩

theorem bind {o : Outcome α} {f : α → Outcome β} (ho : FailsInText o)
    (hf : ∀ a, FailsInText (f a)) : FailsInText (o >>= f) := by
  cases o with
  | error failure =>
    intro other h
    cases h
    exact ho failure rfl
  | ok a => exact hf a

theorem mapM {f : α → Outcome β} (hf : ∀ a, FailsInText (f a)) (as : List α) :
    FailsInText (as.mapM f) := by
  induction as with
  | nil =>
    rw [List.mapM_nil]
    exact of_ok _
  | cons a as ih =>
    rw [List.mapM_cons]
    exact (hf a).bind fun b => ih.bind fun bs => of_ok _

end FailsInText

theorem sqlName_failsInText (name : String) : FailsInText (sqlName name) := by
  unfold sqlName
  split_ifs
  · exact .of_error _
  · exact .of_error _
  · exact .of_ok _

theorem sqlLiteral_failsInText (v : Value) : FailsInText (sqlLiteral v) := by
  cases v with
  | text s =>
    rw [sqlLiteral, sqlText]
    split_ifs
    · exact .of_error _
    · exact .of_ok _
  | _ => first | exact .of_ok _ | exact .of_error _

theorem Change.render_failsInText (c : Change) : FailsInText c.render := by
  cases c with
  | create physical columns keys =>
    refine .bind (sqlName_failsInText _) fun serial => .bind (.mapM (fun column => ?_) _) fun lines =>
      .bind (.mapM sqlName_failsInText _) fun names => .bind (sqlName_failsInText _) fun table =>
        .of_ok _
    exact .bind (sqlName_failsInText _) fun name => .of_ok _
  | insert physical columns rows =>
    rw [render, insertStatement]
    split_ifs
    · exact .of_error _
    · refine .bind (.mapM sqlName_failsInText _) fun names => .bind (.mapM (fun row => ?_) _)
        fun tuples => .bind (sqlName_failsInText _) fun table => .of_ok _
      exact .bind (.mapM (fun name => sqlLiteral_failsInText _) _) fun cells => .of_ok _
  | drop physical => exact .bind (sqlName_failsInText _) fun table => .of_ok _

/-! ## What a step of the warehouse does -/

namespace Warehouse

variable {w : Warehouse}

theorem contents_record_committed (w : Warehouse) (c : Change) (sql : String) :
    (w.record (.committed c sql)).contents
      = Function.update w.contents c.target (c.applied (w.contents c.target)) := rfl

theorem contents_congr {w' : Warehouse} (h : w'.transactions = w.transactions) :
    w'.contents = w.contents := by
  rw [contents, contents, h]

theorem transactions_send (w : Warehouse) (statements : List Sent) :
    (w.send statements).2.2.transactions = w.transactions := by
  unfold send
  split_ifs <;> rfl

theorem contents_send (w : Warehouse) (statements : List Sent) :
    (w.send statements).2.2.contents = w.contents :=
  contents_congr (transactions_send w statements)

/-- A change that can be written is made unless a failure is due. -/
theorem apply_of_render {c : Change} {sql : String} (hrender : c.render = .ok sql)
    (hfault : w.faultIn = 0) : w.apply c = (.ok (), w.record (.committed c sql)) := by
  have hsend : w.send [.plain sql] = ([.plain sql], false, w) := by
    unfold send
    rw [hfault]
    cases w
    cases hfault
    rfl
  unfold apply
  rw [hrender]
  dsimp only
  rw [hsend]
  rfl

/-- A change that is made acts on its table alone. -/
theorem apply_made {c : Change} {w' : Warehouse} (h : w.apply c = (.ok (), w')) :
    w'.contents = Function.update w.contents c.target (c.applied (w.contents c.target)) := by
  unfold apply at h
  split at h
  · cases h
  · next sql _ =>
    dsimp only at h
    split_ifs at h
    · cases h
    · cases h
      rw [contents_record_committed, contents_send]

/-- A change that is not made leaves all tables as they are. -/
theorem apply_refused {c : Change} {failure : Failure} {w' : Warehouse}
    (h : w.apply c = (.error failure, w')) :
    failure.isOfWarehouse = true ∧ w'.contents = w.contents := by
  unfold apply at h
  split at h
  · next failure' hrender =>
    obtain ⟨fault, rfl⟩ := c.render_failsInText _ hrender
    cases h
    refine ⟨rfl, ?_⟩
    split_ifs <;> rfl
  · dsimp only at h
    split_ifs at h
    · cases h
      exact ⟨rfl, contents_send w _⟩
    · cases h

theorem contents_nextResult (w : Warehouse) : w.nextResult.2.contents = w.contents := by
  unfold nextResult
  split <;> rfl

/-- A query changes no table. -/
theorem contents_query (w : Warehouse) (sql : String) (params : Fields) :
    (w.query sql params).2.contents = w.contents := by
  have hsend : ∀ statements t, ((w.send statements).2.2.record (.reading t)).contents = w.contents :=
    fun statements t => contents_send w statements
  unfold query
  generalize (if params.isEmpty then Sent.plain sql else .bound sql params) = statement
  dsimp only
  split_ifs
  · exact hsend _ _
  · exact (contents_nextResult _).trans (hsend _ _)

end Warehouse

end MetricLayer
