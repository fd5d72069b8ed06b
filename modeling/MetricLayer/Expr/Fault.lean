import MetricLayer.Expr.Basic
import MetricLayer.Text.Quoted

/-!
# Why an expression is refused

Every way in which the text of an expression can fail to be read, compiled or rendered, with the
one wording of each.
-/

namespace MetricLayer

/-- What the reader wanted at a token. -/
inductive Expectation where
  /-- A closing parenthesis. -/
  | rightParen
  /-- The start of an operand. -/
  | operand
  /-- The end of the expression. -/
  | finish
  /-- A field name cannot run on into a function call. -/
  | noCallAfterField
  deriving DecidableEq, Repr

/-- The wording of an expectation. -/
def Expectation.message : Expectation → String
  | rightParen => "expected rparen"
  | operand => "expected a value, field or function call"
  | finish => "unexpected trailing input"
  | noCallAfterField => "function name cannot follow a field name"

/-- Why an expression is refused. -/
inductive ExprFault where
  /-- The text is empty or blank. -/
  | blank
  /-- The parentheses do not match. -/
  | unbalanced
  /-- No token starts with this character. -/
  | unexpectedCharacter (c : Char) (pos : Nat)
  /-- The token found does not fit; an empty lexeme stands for the end. -/
  | unexpectedToken (wanted : Expectation) (found : String) (pos : Nat)
  /-- The function is neither an aggregate nor a time function nor an allowed scalar. -/
  | unsupportedFunction (name : String)
  /-- A time function was called without arguments. -/
  | missingArgument (name : String)
  /-- An aggregate was called with a number of arguments other than one. -/
  | argumentCount (func : Aggregate) (count : Nat)
  /-- The call of a leading time function does not span the whole expression. -/
  | unspannedTimeCall (name : String)
  /-- A time function occurs inside another. -/
  | nestedTimeCall
  /-- A time function is only part of the expression. -/
  | partialTimeCall
  /-- A time function has no rendering inside another expression. -/
  | embeddedTimeCall (func : TimeFunction)
  /-- The stored argument text does not make up one call. -/
  | storedCall (func : TimeFunction)
  /-- The declared type of a metric is not that of its expression. -/
  | typeMismatch (declared derived : String) (expression : String)
  deriving DecidableEq, Repr

/-- The wording of a fault. -/
def ExprFault.message : ExprFault → String
  | blank => "Expression is empty"
  | unbalanced => "Unbalanced parentheses"
  | unexpectedCharacter c pos => s!"Unexpected character {Text.quoted c.toString} at position {pos}"
  | unexpectedToken wanted found pos =>
    let shown := Text.quoted (if found = "" then "end of expression" else found)
    s!"Syntax error at position {pos}: {wanted.message}, found {shown}"
  | unsupportedFunction name => s!"Unsupported function '{name}'"
  | missingArgument name => s!"{name}() requires an argument"
  | argumentCount func count => s!"{func.name} expects exactly one argument, got {count}"
  | unspannedTimeCall name =>
    s!"Invalid time intelligence function: the argument of {name}(...) "
      ++ "must be enclosed by a single pair of parentheses spanning the whole expression"
  | nestedTimeCall => "Time intelligence functions cannot be nested"
  | partialTimeCall => "Time intelligence functions must wrap the entire expression"
  | embeddedTimeCall func => s!"{func.name}() cannot be rendered inside another expression"
  | storedCall func => s!"Stored formula for {func.name} is not a single call"
  | typeMismatch declared derived expression =>
    s!"Metric type {declared} does not match expression '{expression}' (compiles to {derived})"

end MetricLayer
