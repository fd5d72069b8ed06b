import MetricLayer.Expr.Parser
import MetricLayer.Metric.Compiled
import MetricLayer.Text.Uppercase

/-!
# Compiling metric expressions

A call of a time function that spans the whole expression is kept as its function and argument
text, a plain aggregate over one field as that pair, and everything else as the text of a formula.
The dependencies are the fields whose name starts with an upper case letter, in reading order.
-/

namespace MetricLayer

open Text

/-- The name starts with an upper case letter. -/
def isCapitalised (name : String) : Bool := name.toList.head?.any isUppercase

/-- The capitalised fields of an expression, each once, in reading order. -/
def Expr.dependencies (e : Expr) : List String :=
  firstOccurrences (e.subterms.filterMap fun
    | .field name => if isCapitalised name then some name else none
    | _ => none)

namespace Compiled

/-- The name that starts a text, if it is followed by an opening parenthesis after any blanks. -/
def leadingCall? (cs : List Char) : Option (List Char) :=
  match cs with
  | [] => none
  | c :: _ =>
    let name := cs.takeWhile Lexer.isNameChar
    if Lexer.isNameStart c
        && ((cs.drop name.length).dropWhile isBlank).head? = some '(' then some name
    else none

/-- The time function that a text seems to call as a whole: its name as written. -/
def leadingTimeCall? (cs : List Char) : Option String :=
  (leadingCall? cs).bind fun name =>
    let upper := String.ofList (name.map Char.toUpper)
    if (TimeFunction.ofUpper? upper).isSome then some (String.ofList name) else none

/-- Compiles the call of a time function named `name`. -/
def ofTimeCall (name : String) : Expr → Except ExprFault Compiled
  | .timeCall func args argsText =>
    if args.any Expr.containsTimeCall then .error .nestedTimeCall
    else .ok (.timeIntel func argsText (firstOccurrences (args.flatMap Expr.dependencies)))
  | _ => .error (.unspannedTimeCall name)

/-- Compiles an expression that no time function starts. -/
def ofOrdinary (source : String) : Expr → Except ExprFault Compiled
  | .aggregate func (.field name) false => .ok (.aggregation func name)
  | e =>
    if e.containsTimeCall then .error .partialTimeCall
    else .ok (.formula source e.dependencies)

/-- Compiles the text of an expression. -/
def ofText (text : String) : Except ExprFault Compiled := do
  let e ← Expr.parse text
  let source := strip text
  match leadingTimeCall? source.toList with
  | some name => ofTimeCall name e
  | none => ofOrdinary source e

theorem ofText_timeCall {text name : String} {e : Expr} (he : Expr.parse text = .ok e)
    (h : leadingTimeCall? (strip text).toList = some name) : ofText text = ofTimeCall name e := by
  unfold ofText
  rw [he]
  dsimp only [bind, Except.bind]
  rw [h]

theorem ofText_ordinary {text : String} {e : Expr} (he : Expr.parse text = .ok e)
    (h : leadingTimeCall? (strip text).toList = none) :
    ofText text = ofOrdinary (strip text) e := by
  unfold ofText
  rw [he]
  dsimp only [bind, Except.bind]
  rw [h]

end Compiled

/-- The result of a trial compilation. -/
structure Diagnosis where
  /-- What is wrong, in words; empty when the expression compiles. -/
  errors : List String
  deriving DecidableEq, Repr

/-- The expression compiles. -/
def Diagnosis.isValid (d : Diagnosis) : Bool := d.errors.isEmpty

/-- A diagnosis as a value. -/
def Diagnosis.toValue (d : Diagnosis) : Value :=
  .object [("is_valid", .bool d.isValid), ("errors", .list (d.errors.map .text))]

/-- How many parentheses are open after a text, when `depth` are open before it.  The count stops at
the first parenthesis that closes nothing, below zero. -/
def depthAfter (depth : Int) : List Char → Int
  | [] => depth
  | c :: cs =>
    if c = '(' then depthAfter (depth + 1) cs
    else if c = ')' then
      if depth - 1 < 0 then depth - 1 else depthAfter (depth - 1) cs
    else depthAfter depth cs

theorem depthAfter_eq_zero {depth : Nat} {cs : List Char} :
    depthAfter depth cs = 0 ↔ Parser.isBalancedFrom depth cs = true := by
  induction cs generalizing depth with
  | nil => simp [depthAfter, Parser.isBalancedFrom]
  | cons c cs ih =>
    rw [depthAfter, Parser.isBalancedFrom.eq_def]
    dsimp only
    split
    · exact @ih (depth + 1)
    · split
      · cases depth with
        | zero => simp
        | succ depth =>
          have hsub : ((depth + 1 : Nat) : Int) - 1 = depth := by omega
          rw [hsub, if_neg (by omega)]
          exact ih
      · exact ih

/-- Compiles a text on trial.  Parentheses that do not match are always reported, whatever else is
wrong. -/
def diagnose (text : String) : Diagnosis :=
  let errors := match Compiled.ofText text with
    | .ok _ => []
    | .error fault => [fault.message]
  if depthAfter 0 text.toList ≠ 0 && !errors.contains ExprFault.unbalanced.message then
    ⟨errors ++ [ExprFault.unbalanced.message]⟩
  else ⟨errors⟩

end MetricLayer
