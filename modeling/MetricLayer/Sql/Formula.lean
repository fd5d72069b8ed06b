import MetricLayer.Expr.Parser
import MetricLayer.Sql.Literal

/-!
# Expressions in SQL

Fields become quoted identifiers and texts become literals; no text of an expression reaches the
statement as it is.  Operands that are binary get parentheses, and so does the operand of a minus
that itself starts with a sign.
-/

namespace MetricLayer

open Text

namespace Expr

/-- The expression is an operator between two operands. -/
def isBinary : Expr → Bool
  | .binary .. => true
  | _ => false

/-- The expression is a binary operation or a negation. -/
def isSigned : Expr → Bool
  | .binary .. => true
  | .negate _ => true
  | _ => false

/-- The text, in parentheses if asked. -/
def grouped (wanted : Bool) (sql : String) : String := if wanted then "(" ++ sql ++ ")" else sql

mutual

/-- The expression as SQL. -/
def render : Expr → Outcome String
  | .number text => .ok text
  | .string value => sqlText value
  | .field name => sqlName name
  | .star => .ok "*"
  | .negate operand => do
    let sql ← operand.render
    return "-" ++ grouped operand.isSigned sql
  | .binary op left right => do
    let l ← left.render
    let r ← right.render
    return grouped left.isBinary l ++ " " ++ op.sign ++ " " ++ grouped right.isBinary r
  | .aggregate func argument distinct => do
    let sql ← argument.render
    return func.name ++ "(" ++ (if distinct then "DISTINCT " else "") ++ sql ++ ")"
  | .call name args => do
    let sqls ← renderArgs args
    return name.toUpper ++ "(" ++ joined ", " sqls ++ ")"
  | .timeCall func _ _ => .error (.expression (.embeddedTimeCall func))

/-- The arguments of a call as SQL. -/
def renderArgs : List Expr → Outcome (List String)
  | [] => .ok []
  | e :: rest => do
    let sql ← e.render
    return sql :: (← renderArgs rest)

end

/-- The expression as SQL, inside an aggregate unless it contains one. -/
def renderAsAggregate (fallback : Aggregate) (e : Expr) : Outcome String := do
  let sql ← e.render
  return if e.containsAggregate then sql else fallback.name ++ "(" ++ sql ++ ")"

end Expr

/-- The text of a formula as SQL. -/
def formulaSql (text : String) : Outcome String := do
  (← Failure.ofExpr (Expr.parse text)).render

end MetricLayer
