import MetricLayer.Proofs.Metric.Executable
import MetricLayer.Proofs.Sql.FilterOrder

/-!
# What can be written as SQL

A statement is made of parts that come from its caller: names, values and the length of a window.

* `SqlPart.write` writes one part, and `SqlPart.IsWritable` says which parts can be written.
* `Writes o parts` says of a computation that it gives SQL only if all parts can be written, and
  that it fails with a failure of the status 422 or with that of a part.
* `filterSql_writes` is the main result: for every filter tree the names and values that stand in it
  are the only reason why it may fail with anything else.
-/

namespace MetricLayer

open Number Text

/-- The value has a literal. -/
def Value.IsWritable : Value → Prop
  | .text s => '\x00' ∉ s.toList
  | .duration _ | .bytes _ | .list _ | .tuple _ | .object _ => False
  | _ => True

instance : (v : Value) → Decidable v.IsWritable
  | .text s => inferInstanceAs (Decidable ('\x00' ∉ s.toList))
  | .duration _ | .bytes _ | .list _ | .tuple _ | .object _ => .isFalse not_false
  | .null | .bool _ | .int _ | .float _ | .decimal _ | .date _ | .moment _ => .isTrue trivial

theorem succeeds_sqlLiteral {v : Value} : Succeeds (sqlLiteral v) ↔ v.IsWritable := by
  cases v with
  | text s => exact succeeds_sqlText
  | duration | bytes | list | tuple | object => exact iff_of_false (not_succeeds_error _) not_false
  | _ => exact iff_of_true (succeeds_ok _) trivial

/-- A part of a statement that comes from its caller. -/
inductive SqlPart where
  /-- The name of a table or a column. -/
  | name (s : String)
  /-- A value. -/
  | value (v : Value)
  /-- The number of rows of a window, as the arguments of a call give it. -/
  | window (args : List Expr)

namespace SqlPart

/-- The part as SQL. -/
def write : SqlPart → Outcome String
  | name s => sqlName s
  | value v => sqlLiteral v
  | window args => do return decimalText (← windowOf args)

/-- The part can be written. -/
def IsWritable : SqlPart → Prop
  | name s => IsSqlName s
  | value v => v.IsWritable
  | window args => ¬IsLongWindow args

theorem succeeds_write {p : SqlPart} : Succeeds p.write ↔ p.IsWritable := by
  cases p with
  | name s => exact succeeds_sqlName
  | value v => exact succeeds_sqlLiteral
  | window args => exact succeeds_bind_pure.trans succeeds_windowOf

theorem write_failsInText (p : SqlPart) : FailsInText p.write := by
  cases p with
  | name s => exact sqlName_failsInText s
  | value v => exact sqlLiteral_failsInText v
  | window args => exact (windowOf_failsInText args).bind fun _ => .of_ok _

/-- The failure to write a part has no status. -/
theorem status?_of_write {p : SqlPart} {failure : Failure} (h : p.write = .error failure) :
    failure.status? = none := by
  obtain ⟨fault, rfl⟩ := p.write_failsInText failure h
  rfl

end SqlPart

/-! ## Computations that write parts -/

/-- The computation gives a result only if all parts can be written, and it fails with a failure of
the status 422 or with that of a part. -/
structure Writes {α : Type} (o : Outcome α) (parts : List SqlPart) : Prop where
  /-- All parts have been written. -/
  written : Succeeds o → ∀ p ∈ parts, p.IsWritable
  /-- The failure is a refusal, or a part could not be written. -/
  refused : ∀ failure, o = .error failure →
    failure.status? = some 422 ∨ ∃ p ∈ parts, p.write = .error failure

namespace Writes

variable {α β : Type} {o : Outcome α} {ps qs : List SqlPart}

theorem of_ok (a : α) : Writes (.ok a) [] :=
  ⟨fun _ => List.forall_mem_nil _, fun _ h => nomatch h⟩

theorem of_refused {failure : Failure} (h : failure.status? = some 422) (ps : List SqlPart) :
    Writes (.error failure : Outcome α) ps := by
  refine ⟨fun hsucceeds => absurd hsucceeds (not_succeeds_error _), fun other hother => ?_⟩
  cases hother
  exact .inl h

theorem of_part (p : SqlPart) : Writes p.write [p] := by
  refine ⟨fun h => ?_, fun failure h => .inr ⟨p, by simp, h⟩⟩
  rw [List.forall_mem_singleton]
  exact SqlPart.succeeds_write.1 h

/-- Only the failure of a computation matters. -/
theorem of_failure? {o' : Outcome β} (h : Writes o ps) (heq : failure? o' = failure? o) :
    Writes o' ps := by
  constructor
  · rw [← failure?_eq_none, heq, failure?_eq_none]
    exact h.written
  · intro failure hfailure
    rw [← failure?_eq_some, heq, failure?_eq_some] at hfailure
    exact h.refused failure hfailure

/-- Only the parts that there are matter. -/
theorem of_same_parts (h : Writes o ps) (hsame : ∀ p, p ∈ ps ↔ p ∈ qs) : Writes o qs := by
  refine ⟨fun hsucceeds p hp => h.written hsucceeds p ((hsame p).2 hp), fun failure hfailure => ?_⟩
  rcases h.refused failure hfailure with hstatus | ⟨p, hp, hwrite⟩
  · exact .inl hstatus
  · exact .inr ⟨p, (hsame p).1 hp, hwrite⟩

theorem bind {f : α → Outcome β} (ho : Writes o ps) (hf : ∀ a, Writes (f a) qs) :
    Writes (o >>= f) (ps ++ qs) := by
  cases o with
  | error failure =>
    refine ⟨fun h => absurd h (not_succeeds_error _), fun other hother => ?_⟩
    cases hother
    rcases ho.refused failure rfl with hstatus | ⟨p, hp, hwrite⟩
    · exact .inl hstatus
    · exact .inr ⟨p, List.mem_append_left _ hp, hwrite⟩
  | ok a =>
    refine ⟨fun h => ?_, fun failure hfailure => ?_⟩
    · exact List.forall_mem_append.2 ⟨ho.written (succeeds_ok a), (hf a).written h⟩
    · rcases (hf a).refused failure hfailure with hstatus | ⟨q, hq, hwrite⟩
      · exact .inl hstatus
      · exact .inr ⟨q, List.mem_append_right _ hq, hwrite⟩

theorem bind_pure {f : α → β} (ho : Writes o ps) : Writes (o >>= fun a => pure (f a)) ps :=
  ho.of_failure? failure?_bind_pure

theorem mapM {f : α → Outcome β} {parts : α → List SqlPart} (h : ∀ a, Writes (f a) (parts a))
    (as : List α) : Writes (as.mapM f) (as.flatMap parts) := by
  induction as with
  | nil =>
    rw [List.mapM_nil]
    exact of_ok _
  | cons a as ih =>
    rw [List.mapM_cons, List.flatMap_cons]
    exact (h a).bind fun b => ih.bind_pure

end Writes

theorem sqlName_writes (s : String) : Writes (sqlName s) [.name s] := .of_part (.name s)

theorem sqlLiteral_writes (v : Value) : Writes (sqlLiteral v) [.value v] := .of_part (.value v)

/-! ## The parts of filter trees -/

/-- The values that an operator writes. -/
def operandParts (operator : String) (v : Value) : List SqlPart :=
  match Comparison.ofName? operator, TextMatch.ofName? operator with
  | some _, _ => if v.isNull then [] else [.value v]
  | none, some m => [.value (.text (m.pattern v.plain))]
  | none, none => (v.items?.getD []).map .value

/-- The column and the values of one operator on it. -/
def operatorParts (field operator : String) (v : Value) : List SqlPart :=
  .name field :: operandParts operator v

/-- The column and the values of a field. -/
def fieldParts (field : String) : Value → List SqlPart
  | .null => [.name field]
  | .object operators => operators.flatMap fun f => operatorParts field f.1 f.2
  | .list vs => operatorParts field "in" (.list vs)
  | .tuple vs => operatorParts field "in" (.list vs)
  | v => [.name field, .value v]

mutual

/-- The columns and values of a filter tree. -/
def treeParts : Value → List SqlPart
  | .object fields => fieldsParts fields
  | _ => []

/-- The columns and values of the fields of a tree. -/
def fieldsParts : List (String × Value) → List SqlPart
  | [] => []
  | (key, v) :: rest =>
    (match Connective.ofWord? key with
      | some _ => groupParts v
      | none => fieldParts key v) ++ fieldsParts rest

/-- The columns and values below a connective. -/
def groupParts : Value → List SqlPart
  | .list trees => treesParts trees
  | .tuple trees => treesParts trees
  | _ => []

/-- The columns and values of each tree of a list. -/
def treesParts : List Value → List SqlPart
  | [] => []
  | tree :: rest => treeParts tree ++ treesParts rest

end

theorem comparePredicate_writes (column : String) (op : Comparison) (v : Value) :
    Writes (comparePredicate column op v) (if v.isNull then [] else [.value v]) := by
  cases v with
  | null =>
    cases op with
    | ne => exact .of_ok _
    | _ => exact .of_refused rfl _
  | _ => exact (sqlLiteral_writes _).bind_pure

theorem memberPredicate_writes (column : String) (negated : Bool) (v : Value) :
    Writes (memberPredicate column negated v) ((v.items?.getD []).map .value) := by
  unfold memberPredicate
  split
  · exact .of_refused rfl _
  · next hitems =>
    rw [hitems]
    exact .of_ok _
  · next vs _ hitems =>
    rw [hitems, Option.getD_some, List.map_eq_flatMap]
    exact (Writes.mapM sqlLiteral_writes vs).bind_pure

theorem operatorPredicate_writes (field operator : String) (v : Value) :
    Writes (operatorPredicate field operator v) (operatorParts field operator v) := by
  have hname := sqlName_writes field
  unfold operatorPredicate operatorParts operandParts
  cases Comparison.ofName? operator with
  | some op => exact hname.bind fun column => comparePredicate_writes column op v
  | none =>
    cases TextMatch.ofName? operator with
    | some m => exact hname.bind fun column => (sqlLiteral_writes (.text _)).bind_pure
    | none =>
      refine hname.bind fun column => ?_
      dsimp only
      split_ifs
      · exact memberPredicate_writes column false v
      · exact memberPredicate_writes column true v
      · exact .of_refused rfl _

theorem fieldPredicates_writes (field : String) (v : Value) :
    Writes (fieldPredicates field v) (fieldParts field v) := by
  cases v with
  | null => exact (sqlName_writes field).bind_pure
  | object operators =>
    cases operators with
    | nil => exact .of_refused rfl _
    | cons f rest => exact .mapM (fun f => operatorPredicate_writes field f.1 f.2) (f :: rest)
  | list vs | tuple vs => exact (operatorPredicate_writes field "in" (.list vs)).bind_pure
  | _ => exact (sqlName_writes field).bind fun column => (sqlLiteral_writes _).bind_pure

mutual

theorem readConditions_writes : (tree : Value) → Writes (readConditions tree) (treeParts tree)
  | .object fields => readFields_writes fields
  | .null | .bool _ | .int _ | .float _ | .decimal _ | .text _ | .date _ | .moment _ | .duration _
  | .bytes _ | .list _ | .tuple _ => by
    unfold readConditions
    split
    · exact .of_refused rfl _
    · exact .of_ok _

theorem readFields_writes :
    (fields : List (String × Value)) → Writes (readFields fields) (fieldsParts fields)
  | [] => .of_ok _
  | (key, v) :: rest => by
    rw [readFields, fieldsParts]
    cases Connective.ofWord? key with
    | some connective =>
      exact (readGroup_writes connective v).bind fun _ => (readFields_writes rest).bind_pure
    | none =>
      refine Writes.bind ?_ fun _ => (readFields_writes rest).bind_pure
      exact (fieldPredicates_writes key v).of_failure? (by cases fieldPredicates key v <;> rfl)

theorem readGroup_writes (connective : Connective) :
    (v : Value) → Writes (readGroup connective v) (groupParts v)
  | .list trees | .tuple trees => (readTrees_writes trees).bind_pure
  | .null | .bool _ | .int _ | .float _ | .decimal _ | .text _ | .date _ | .moment _ | .duration _
  | .bytes _ | .object _ => .of_refused rfl _

theorem readTrees_writes : (trees : List Value) → Writes (readTrees trees) (treesParts trees)
  | [] => .of_ok _
  | tree :: rest =>
    (readConditions_writes tree).bind fun _ => (readTrees_writes rest).bind_pure

end

/-- A filter tree has SQL only if its columns and values can be written, and it is refused or fails
with one of them. -/
theorem filterSql_writes (tree : Value) : Writes (filterSql tree) (treeParts tree) :=
  (readConditions_writes tree).bind_pure

end MetricLayer
