import MetricLayer.Sql.Literal

/-!
# Conditions

A filter tree is an object whose fields are connectives over lists of trees or columns with the
values they are compared with; the fields of an object hold together.  `readConditions` turns a tree
into a list of conditions that hold together, and `renderAll` writes such a list as SQL.

A part of a connective stands in parentheses when its text contains a connective and is not already
enclosed by one pair of parentheses; both are decided on the text (`needsParentheses`, `isEnclosed`).
-/

namespace MetricLayer

open Text

/-- The connectives of a filter tree. -/
inductive Connective where
  | and | or
  deriving DecidableEq, Repr

namespace Connective

/-- The word for a connective. -/
def word : Connective → String
  | and => "AND"
  | or => "OR"

/-- The connective with a word. -/
def ofWord? (s : String) : Option Connective := [and, or].find? (·.word = s)

end Connective

/-- A condition on the rows of a table. -/
inductive Condition where
  /-- A predicate on a column, as SQL. -/
  | predicate (sql : String)
  /-- A connective over parts, each a list of conditions that hold together. -/
  | group (connective : Connective) (parts : List (List Condition))
  deriving Repr

/-! ## Predicates -/

/-- The operators that compare with one value. -/
inductive Comparison where
  | gt | gte | lt | lte | ne
  deriving DecidableEq, Repr

namespace Comparison

/-- The name of a comparison in filters. -/
def name : Comparison → String
  | gt => "gt"
  | gte => "gte"
  | lt => "lt"
  | lte => "lte"
  | ne => "ne"

/-- The sign of a comparison in SQL. -/
def sign : Comparison → String
  | gt => ">"
  | gte => ">="
  | lt => "<"
  | lte => "<="
  | ne => "!="

/-- The comparison with a name. -/
def ofName? (s : String) : Option Comparison := [gt, gte, lt, lte, ne].find? (·.name = s)

end Comparison

/-- The operators that match a part of a text. -/
inductive TextMatch where
  | contains | startsWith | endsWith
  deriving DecidableEq, Repr

namespace TextMatch

/-- The name of a match in filters. -/
def name : TextMatch → String
  | contains => "contains"
  | startsWith => "startsWith"
  | endsWith => "endsWith"

/-- The match with a name. -/
def ofName? (s : String) : Option TextMatch :=
  [contains, startsWith, endsWith].find? (·.name = s)

/-- One character of a LIKE pattern that matches itself. -/
def escapeChar (c : Char) : List Char := if c = '\\' || c = '%' || c = '_' then ['\\', c] else [c]

/-- The LIKE pattern of a match with a literal text. -/
def pattern (m : TextMatch) (s : String) : String :=
  let body := s.toList.flatMap escapeChar
  String.ofList (match m with
    | contains => '%' :: body ++ ['%']
    | startsWith => body ++ ['%']
    | endsWith => '%' :: body)

end TextMatch

/-- A column compared with one value. -/
def comparePredicate (column : String) (op : Comparison) : Value → Outcome String
  | .null =>
    match op with
    | .ne => .ok (column ++ " IS NOT NULL")
    | op => .error (.filter (.nullComparison op.name))
  | v => do
    let literal ← sqlLiteral v
    return column ++ " " ++ op.sign ++ " " ++ literal

/-- A column among a list of values, or not among them.  No value is in the empty list. -/
def memberPredicate (column : String) (negated : Bool) (v : Value) : Outcome String :=
  match v.items? with
  | none => .error (.filter (.operatorNeedsList (if negated then "notIn" else "in")))
  | some [] => .ok (if negated then "1 = 1" else "1 = 0")
  | some vs => do
    let literals ← vs.mapM sqlLiteral
    return column ++ (if negated then " NOT IN (" else " IN (") ++ joined ", " literals ++ ")"

/-- A column that matches a text. -/
def likePredicate (column : String) (m : TextMatch) (v : Value) : Outcome String := do
  let literal ← sqlText (m.pattern v.plain)
  return column ++ " LIKE " ++ literal

/-- The predicate of one operator on a field. -/
def operatorPredicate (field operator : String) (v : Value) : Outcome String := do
  let column ← sqlName field
  match Comparison.ofName? operator, TextMatch.ofName? operator with
  | some op, _ => comparePredicate column op v
  | none, some m => likePredicate column m v
  | none, none =>
    if operator = "in" then memberPredicate column false v
    else if operator = "notIn" then memberPredicate column true v
    else throw (.filter (.unknownOperator operator field))

/-- The predicates of a field: null, every operator of an object, membership in a list, or equality
with any other value. -/
def fieldPredicates (field : String) : Value → Outcome (List String)
  | .null => do return [(← sqlName field) ++ " IS NULL"]
  | .object [] => .error (.filter (.noOperators field))
  | .object operators => operators.mapM fun f => operatorPredicate field f.1 f.2
  | .list vs => do return [← operatorPredicate field "in" (.list vs)]
  | .tuple vs => do return [← operatorPredicate field "in" (.list vs)]
  | v => do
    let column ← sqlName field
    return [column ++ " = " ++ (← sqlLiteral v)]

/-! ## Filter trees -/

mutual

/-- The conditions of a filter tree.  Whatever counts as absent is the empty tree. -/
def readConditions : Value → Outcome (List Condition)
  | .object fs => readFields fs
  | v => if v.isTruthy then .error (.filter .notObject) else .ok []

/-- The conditions of the fields of a tree, in order. -/
def readFields : List (String × Value) → Outcome (List Condition)
  | [] => .ok []
  | (key, v) :: rest => do
    let first ← match Connective.ofWord? key with
      | some connective => readGroup connective v
      | none => (fieldPredicates key v).map (List.map .predicate)
    return first ++ (← readFields rest)

/-- The condition of a connective. -/
def readGroup (connective : Connective) : Value → Outcome (List Condition)
  | .list trees => do return [.group connective (← readTrees trees)]
  | .tuple trees => do return [.group connective (← readTrees trees)]
  | _ => .error (.filter (.connectiveNeedsList connective.word))

/-- The conditions of each tree of a list. -/
def readTrees : List Value → Outcome (List (List Condition))
  | [] => .ok []
  | tree :: rest => do
    let first ← readConditions tree
    return first :: (← readTrees rest)

end

/-! ## Rendering -/

/-- One pair of parentheses encloses the text, given the number of open parentheses and the open
quote before it. -/
def closesAtEnd (depth : Nat) (quote : Option Char) : List Char → Bool
  | [] => true
  | c :: rest =>
    match quote with
    | some q => closesAtEnd depth (if c = q then none else some q) rest
    | none =>
      if c = '\'' || c = '"' then closesAtEnd depth (some c) rest
      else if c = '(' then closesAtEnd (depth + 1) none rest
      else if c = ')' then
        if depth = 1 && !rest.isEmpty then false else closesAtEnd (depth - 1) none rest
      else closesAtEnd depth none rest

/-- One pair of parentheses encloses the whole text. -/
def isEnclosed (sql : String) : Bool :=
  let cs := sql.toList
  cs.head? = some '(' && cs.getLast? = some ')' && closesAtEnd 0 none cs

/-- The text contains a connective and is not enclosed by parentheses. -/
def needsParentheses (sql : String) : Bool :=
  (occurs " AND ".toList sql.toList || occurs " OR ".toList sql.toList) && !isEnclosed sql

/-- The text in parentheses when it is compound. -/
def parenthesised (sql : String) : String := if needsParentheses sql then "(" ++ sql ++ ")" else sql

mutual

/-- A condition as SQL; a connective without parts that say anything is empty. -/
def Condition.render : Condition → String
  | .predicate sql => sql
  | .group connective parts =>
    let present := (renderParts parts).filter (· ≠ "")
    if present.isEmpty then ""
    else "(" ++ joined (" " ++ connective.word ++ " ") (present.map parenthesised) ++ ")"

/-- The parts of a connective as SQL. -/
def renderParts : List (List Condition) → List String
  | [] => []
  | part :: rest => joined " AND " ((renderEach part).filter (· ≠ "")) :: renderParts rest

/-- Each condition of a list as SQL. -/
def renderEach : List Condition → List String
  | [] => []
  | c :: rest => c.render :: renderEach rest

end

/-- Conditions that hold together, as SQL; the empty text when there is nothing to say. -/
def renderAll (conditions : List Condition) : String :=
  joined " AND " ((renderEach conditions).filter (· ≠ ""))

/-- A filter tree as SQL. -/
def filterSql (tree : Value) : Outcome String := do
  return renderAll (← readConditions tree)

/-- A filter tree as a WHERE clause, or nothing. -/
def whereClause (tree : Value) : Outcome String := do
  let conditions ← filterSql tree
  return if conditions = "" then "" else "WHERE " ++ conditions

/-- Rendered conditions that hold together; empty ones are skipped. -/
def conjunction (parts : List String) : String :=
  match parts.filter (· ≠ "") with
  | [] => ""
  | [only] => only
  | present => joined " AND " (present.map parenthesised)

end MetricLayer
