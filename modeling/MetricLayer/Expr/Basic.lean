/-!
# Metric expressions

The abstract form of an expression: numerals, texts, fields, arithmetic, aggregates, scalar calls
and time functions.  `subterms` lists an expression and everything inside it in reading order.
-/

namespace MetricLayer

/-- The aggregate functions. -/
inductive Aggregate where
  | sum | avg | count | min | max
  deriving DecidableEq, Repr, Inhabited

namespace Aggregate

/-- All aggregate functions. -/
def all : List Aggregate := [sum, avg, count, min, max]

/-- The name of the function in SQL. -/
def name : Aggregate → String
  | sum => "SUM"
  | avg => "AVG"
  | count => "COUNT"
  | min => "MIN"
  | max => "MAX"

/-- The function with a name in upper case. -/
def ofName? (s : String) : Option Aggregate := all.find? (·.name = s)

end Aggregate

/-- The functions that compare or accumulate over time. -/
inductive TimeFunction where
  | ytd | qtd | mtd | yoy | mom | qoq | previousPeriod | rollingAverage | rollingSum | cagr
  deriving DecidableEq, Repr, Inhabited

namespace TimeFunction

/-- All time functions. -/
def all : List TimeFunction :=
  [ytd, qtd, mtd, yoy, mom, qoq, previousPeriod, rollingAverage, rollingSum, cagr]

/-- The usual spelling of the function. -/
def name : TimeFunction → String
  | ytd => "YTD"
  | qtd => "QTD"
  | mtd => "MTD"
  | yoy => "YOY"
  | mom => "MOM"
  | qoq => "QOQ"
  | previousPeriod => "PreviousPeriod"
  | rollingAverage => "RollingAverage"
  | rollingSum => "RollingSum"
  | cagr => "CAGR"

/-- The function with exactly this spelling. -/
def ofName? (s : String) : Option TimeFunction := all.find? (·.name = s)

/-- The function whose spelling in upper case is given. -/
def ofUpper? (s : String) : Option TimeFunction := all.find? (·.name.toUpper = s)

end TimeFunction

/-- The scalar functions a formula may call, in upper case. -/
def scalarFunctions : List String :=
  ["ABS", "CEIL", "CEILING", "COALESCE", "EXP", "FLOOR", "GREATEST", "LEAST", "LN", "NULLIF",
    "POWER", "ROUND", "SIGN", "SQRT"]

/-- The binary operators. -/
inductive Operator where
  | add | sub | mul | div | mod
  deriving DecidableEq, Repr, Inhabited

/-- The sign of an operator. -/
def Operator.sign : Operator → String
  | add => "+"
  | sub => "-"
  | mul => "*"
  | div => "/"
  | mod => "%"

/-- A metric expression. -/
inductive Expr where
  /-- A numeral as it was written. -/
  | number (text : String)
  /-- A text literal. -/
  | string (value : String)
  /-- A column of the queried table. -/
  | field (name : String)
  /-- The star of `COUNT(*)`. -/
  | star
  /-- A leading minus. -/
  | negate (operand : Expr)
  /-- An operator between two operands. -/
  | binary (op : Operator) (left right : Expr)
  /-- An aggregate, possibly over distinct values. -/
  | aggregate (func : Aggregate) (argument : Expr) (distinct : Bool)
  /-- A call of a scalar function, with its name as written. -/
  | call (name : String) (args : List Expr)
  /-- A time function with its arguments and the source text between its parentheses. -/
  | timeCall (func : TimeFunction) (args : List Expr) (argsText : String)
  deriving Repr, Inhabited, BEq

namespace Expr

mutual

/-- The expression and all expressions inside it, each before its parts. -/
def subterms : Expr → List Expr
  | .negate operand => .negate operand :: operand.subterms
  | .binary op left right => .binary op left right :: (left.subterms ++ right.subterms)
  | .aggregate func argument distinct =>
    .aggregate func argument distinct :: argument.subterms
  | .call name args => .call name args :: subtermsOf args
  | .timeCall func args argsText => .timeCall func args argsText :: subtermsOf args
  | .number text => [.number text]
  | .string value => [.string value]
  | .field name => [.field name]
  | .star => [.star]

/-- The subterms of a list of expressions, in order. -/
def subtermsOf : List Expr → List Expr
  | [] => []
  | e :: rest => e.subterms ++ subtermsOf rest

end

/-- The expression is an aggregate call. -/
def isAggregate : Expr → Bool
  | .aggregate .. => true
  | _ => false

/-- The expression is a call of a time function. -/
def isTimeCall : Expr → Bool
  | .timeCall .. => true
  | _ => false

/-- Some aggregate call occurs in the expression. -/
def containsAggregate (e : Expr) : Bool := e.subterms.any isAggregate

/-- Some time function is called in the expression. -/
def containsTimeCall (e : Expr) : Bool := e.subterms.any isTimeCall

end Expr

end MetricLayer
