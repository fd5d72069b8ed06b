import MetricLayer.Proofs.Sql.CommentMark
import MetricLayer.Proofs.Sql.Spelling
import MetricLayer.Sql.Formula

/-!
# Formulas read back

The SQL of an expression determines it: reading the text with the precedence of SQL gives back the
expression, with the names of its scalar functions in upper case (`Expr.render_reads_back`).

* `Expr.Renderable` are the expressions this holds for, among them everything a formula can contain;
* `Term.toExpr?` takes a term of SQL as an expression;
* the proof follows how an expression is rendered: what stands inside a minus is a primary, what
  stands beside an operator binds at least as tightly as a minus.
-/

namespace MetricLayer

open Sql Text

namespace Expr

/-! ## Expressions that can be rendered -/

/-- The expression has no time function and nothing in it is refused when it is written as SQL: its
numerals are ASCII, its names are not blank, no text holds a NUL, its scalar functions exist and a
star stands only in `COUNT(*)`. -/
inductive Renderable : Expr → Prop
  | number {text : String} (h : IsNumeral text.toList) : Renderable (.number text)
  | string {value : String} (h : holdsNul value = false) : Renderable (.string value)
  | field {name : String} (hblank : isBlankText name = false) (hnul : holdsNul name = false) :
      Renderable (.field name)
  | negate {operand : Expr} (h : Renderable operand) : Renderable (.negate operand)
  | binary {op : Operator} {left right : Expr} (hl : Renderable left) (hr : Renderable right) :
      Renderable (.binary op left right)
  | countStar : Renderable (.aggregate .count .star false)
  | aggregate {func : Aggregate} {argument : Expr} {distinct : Bool} (h : Renderable argument) :
      Renderable (.aggregate func argument distinct)
  | call {name : String} {args : List Expr} (hname : name.toUpper ∈ scalarFunctions)
      (hargs : ∀ e ∈ args, Renderable e) : Renderable (.call name args)

mutual

/-- The expression with the names of its scalar functions in upper case. -/
def upperCalls : Expr → Expr
  | .negate operand => .negate operand.upperCalls
  | .binary op left right => .binary op left.upperCalls right.upperCalls
  | .aggregate func argument distinct => .aggregate func argument.upperCalls distinct
  | .call name args => .call name.toUpper (upperCallsOf args)
  | .timeCall func args argsText => .timeCall func (upperCallsOf args) argsText
  | .number text => .number text
  | .string value => .string value
  | .field name => .field name
  | .star => .star

/-- Each expression of a list with the names of its scalar functions in upper case. -/
def upperCallsOf : List Expr → List Expr
  | [] => []
  | e :: rest => e.upperCalls :: upperCallsOf rest

end

/-- How loosely the rendered expression binds. -/
def rank : Expr → Rank
  | .binary .. => .sum
  | .negate _ => .signed
  | _ => .primary

end Expr

namespace Sql.Term

/-- The name of a function in upper case. -/
def upperName (f : String) : String := String.ofList (f.toList.map Char.toUpper)

mutual

/-- The expression that a term of SQL stands for; a call is an aggregate when its name is that of
one. -/
def toExpr? : Term → Option Expr
  | .number s => some (.number s)
  | .text s => some (.string s)
  | .column s => some (.field s)
  | .star => some .star
  | .negate t => t.toExpr?.map .negate
  | .binary op l r => l.toExpr?.bind fun left => r.toExpr?.map (.binary op left)
  | .call f distinct args =>
    (toExprs? args).bind fun es =>
      match Aggregate.ofName? (upperName f), es with
      | some func, [e] => some (.aggregate func e distinct)
      | some _, _ => none
      | none, es =>
        if distinct = false ∧ upperName f ∈ scalarFunctions then some (.call (upperName f) es)
        else none
  | .constant _ => none
  | .interval _ => none
  | .extract _ _ => none

/-- The expressions that the terms of a list stand for. -/
def toExprs? : List Term → Option (List Expr)
  | [] => some []
  | t :: rest => t.toExpr?.bind fun e => (toExprs? rest).map (e :: ·)

end

end Sql.Term

namespace Expr

/-! ## Operands -/

/-- The text is what the expression renders to, and reading it gives the expression back. -/
def ReadsBack (e : Expr) (sql : String) (t : Term) : Prop :=
  e.render = .ok sql ∧ Spells e.rank sql t ∧ t.toExpr? = some e.upperCalls

/-- What stands after a minus is a primary. -/
theorem ReadsBack.signedOperand {e : Expr} {sql : String} {t : Term} (h : e.ReadsBack sql t) :
    Spells .primary (grouped e.isSigned sql) t := by
  obtain ⟨-, hspells, -⟩ := h
  cases e with
  | binary | negate => exact hspells.toSum.group
  | _ => exact hspells

/-- What stands beside an operator binds at least as tightly as a minus. -/
theorem ReadsBack.binaryOperand {e : Expr} {sql : String} {t : Term} (h : e.ReadsBack sql t) :
    Spells .signed (grouped e.isBinary sql) t := by
  obtain ⟨-, hspells, -⟩ := h
  cases e with
  | binary => exact hspells.toSum.group.signed
  | negate => exact hspells
  | _ => exact hspells.signed

/-! ## Calls -/

theorem isFunctionName_aggregate (func : Aggregate) : IsFunctionName func.name := by
  cases func <;> decide

theorem ofName?_folded (func : Aggregate) :
    Aggregate.ofName? (Term.upperName (folded func.name.toList)) = some func := by
  cases func <;> decide

/-- A scalar function is called by its name like any other, it is no aggregate, and its name
survives being folded. -/
theorem scalarFunction_name {f : String} (h : f ∈ scalarFunctions) :
    IsFunctionName f ∧ Term.upperName (folded f.toList) = f ∧ Aggregate.ofName? f = none := by
  simp only [scalarFunctions, List.mem_cons, List.not_mem_nil, or_false] at h
  rcases h with rfl | rfl | rfl | rfl | rfl | rfl | rfl | rfl | rfl | rfl | rfl | rfl | rfl | rfl <;>
    decide

theorem render_aggregate {func : Aggregate} {argument : Expr} {sql : String}
    (h : argument.render = .ok sql) :
    (Expr.aggregate func argument false).render = .ok (func.name ++ "(" ++ sql ++ ")") := by
  rw [render, h]
  simp [bind, Except.bind, pure, Except.pure]

theorem render_aggregateDistinct {func : Aggregate} {argument : Expr} {sql : String}
    (h : argument.render = .ok sql) :
    (Expr.aggregate func argument true).render
      = .ok (func.name ++ "(" ++ ("DISTINCT " ++ sql) ++ ")") := by
  rw [render, h]
  have hassoc : func.name ++ "(" ++ "DISTINCT " ++ sql = func.name ++ "(" ++ ("DISTINCT " ++ sql) :=
    String.append_assoc
  exact congrArg (fun s => Except.ok (s ++ ")")) hassoc

theorem toExpr?_aggregate {func : Aggregate} {t : Term} {e : Expr} (distinct : Bool)
    (h : t.toExpr? = some e) :
    (Term.call (folded func.name.toList) distinct [t]).toExpr?
      = some (.aggregate func e distinct) := by
  simp [Term.toExpr?, Term.toExprs?, h, ofName?_folded]

theorem toExpr?_call {f : String} {ts : List Term} {es : List Expr} (hf : f ∈ scalarFunctions)
    (h : Term.toExprs? ts = some es) :
    (Term.call (folded f.toList) false ts).toExpr? = some (.call f es) := by
  obtain ⟨-, hupper, hagg⟩ := scalarFunction_name hf
  simp [Term.toExpr?, h, hupper, hagg, hf]

/-- Arguments are read back when each of them is. -/
theorem renderArgs_readsBack {args : List Expr} (h : ∀ e ∈ args, ∃ sql t, e.ReadsBack sql t) :
    ∃ sqls ts, renderArgs args = .ok sqls ∧ List.Forall₂ (Spells .sum) sqls ts
      ∧ Term.toExprs? ts = some (upperCallsOf args) := by
  induction args with
  | nil => exact ⟨[], [], by rw [renderArgs], .nil, rfl⟩
  | cons e rest ih =>
    obtain ⟨sql, t, hrender, hspells, hback⟩ := h e (by simp)
    obtain ⟨sqls, ts, hrenders, hall, hbacks⟩ := ih fun e he => h e (List.mem_cons_of_mem _ he)
    refine ⟨sql :: sqls, t :: ts, ?_, .cons hspells.toSum hall, ?_⟩
    · rw [renderArgs, hrender, hrenders]
      rfl
    · rw [Term.toExprs?, hback, hbacks]
      rfl

/-! ## The whole expression -/

theorem sqlName_eq {name : String} (hblank : isBlankText name = false)
    (hnul : holdsNul name = false) : sqlName name = .ok (enclosed '"' name) ∧ name ≠ "" := by
  refine ⟨by simp [sqlName, hblank, hnul], ?_⟩
  rintro rfl
  exact absurd hblank (by decide)

/-- Every part of a renderable expression is read back, by induction on how it is renderable. -/
theorem Renderable.readsBack {e : Expr} (h : e.Renderable) : ∃ sql t, e.ReadsBack sql t := by
  induction h with
  | @number text h => exact ⟨text, .number text, rfl, .number h, rfl⟩
  | @string value h =>
    refine ⟨enclosed '\'' value, .text value, ?_, .text value, rfl⟩
    simp [render, sqlText, h]
  | @field name hblank hnul =>
    obtain ⟨hname, hne⟩ := sqlName_eq hblank hnul
    exact ⟨enclosed '"' name, .column name, hname, .column hne, rfl⟩
  | @negate operand _ ih =>
    obtain ⟨sql, t, hread⟩ := ih
    refine ⟨"-" ++ grouped operand.isSigned sql, .negate t, ?_, hread.signedOperand.negate, ?_⟩
    · rw [render, hread.1]
      rfl
    · rw [Term.toExpr?, hread.2.2]
      rfl
  | @binary op left right _ _ ihl ihr =>
    obtain ⟨l, lt, hl⟩ := ihl
    obtain ⟨r, rt, hr⟩ := ihr
    refine ⟨_, .binary op lt rt, ?_, hl.binaryOperand.binary hr.binaryOperand, ?_⟩
    · rw [render, hl.1, hr.1]
      rfl
    · rw [Term.toExpr?, hl.2.2, hr.2.2]
      rfl
  | countStar =>
    have hstar : Expr.star.render = .ok "*" := by rw [render]
    exact ⟨_, _, render_aggregate hstar, .callStar (isFunctionName_aggregate .count),
      toExpr?_aggregate false rfl⟩
  | @aggregate func argument distinct _ ih =>
    obtain ⟨sql, t, hrender, hspells, hback⟩ := ih
    have hname := isFunctionName_aggregate func
    cases distinct with
    | false =>
      exact ⟨_, _, render_aggregate hrender, .callOne hname hspells.toSum,
        toExpr?_aggregate false hback⟩
    | true =>
      exact ⟨_, _, render_aggregateDistinct hrender, .callDistinct hname hspells.toSum,
        toExpr?_aggregate true hback⟩
  | @call name args hname _ ih =>
    obtain ⟨sqls, ts, hrenders, hall, hbacks⟩ := renderArgs_readsBack ih
    refine ⟨_, _, ?_, .call (scalarFunction_name hname).1 hall, toExpr?_call hname hbacks⟩
    rw [render, hrenders]
    rfl

/-- A renderable expression has a SQL text, the text holds no comment mark outside quotes, and
reading it gives back the expression with its scalar functions in upper case. -/
theorem render_reads_back {e : Expr} (h : e.Renderable) :
    ∃ sql ts, e.render = .ok sql ∧ hasCommentMark none sql.toList = false
      ∧ lex sql.toList = some ts ∧ (readTerm ts).bind Term.toExpr? = some e.upperCalls := by
  obtain ⟨sql, t, hrender, hspells, hback⟩ := h.readsBack
  obtain ⟨ts, hlex, hcomment, hread⟩ := hspells.toSum.read
  exact ⟨sql, ts, hrender, hasCommentMark_eq_false hlex hcomment, hlex, by rw [hread]; exact hback⟩

/-- The formula `-(-(ROUND("x y") * 'it''s'))`, in which signs, operators and quotes meet. -/
def signedProduct : Expr :=
  .negate (.negate (.binary .mul (.call "Round" [.field "x y"]) (.string "it's")))

theorem signedProduct_reads_back :
    signedProduct.Renderable ∧
    ∃ sql ts, signedProduct.render = .ok sql ∧ hasCommentMark none sql.toList = false
      ∧ lex sql.toList = some ts ∧ (readTerm ts).bind Term.toExpr? = some signedProduct.upperCalls := by
  have hname : "Round".toUpper = "ROUND" := by
    rw [← String.toList_inj, String.toUpper, String.toList_map]
    decide
  have hfield : (Expr.field "x y").Renderable := .field (by decide) (by decide)
  have hcall : (Expr.call "Round" [.field "x y"]).Renderable :=
    .call (by rw [hname]; decide) (by simpa using hfield)
  have h : signedProduct.Renderable := .negate (.negate (.binary hcall (.string (by decide))))
  exact ⟨h, render_reads_back h⟩

end Expr

end MetricLayer
