import MetricLayer.Check.Reader
import MetricLayer.Expr.Basic

/-!
# Compiled metrics

What is stored of a metric's expression: one aggregate over one field, the text of a formula, or a
time function with the text of its arguments.  `Compiled.toValue` and `Compiled.read` are its stored
form and the reader of it.
-/

namespace MetricLayer

/-- The compiled form of a metric expression. -/
inductive Compiled where
  /-- An aggregate over one field. -/
  | aggregation (func : Aggregate) (field : String)
  /-- A formula over the columns of the table. -/
  | formula (text : String) (dependencies : List String)
  /-- A time function with the text of its arguments. -/
  | timeIntel (func : TimeFunction) (text : String) (dependencies : List String)
  deriving DecidableEq, Repr, Inhabited

/-- The type of a metric. -/
inductive MetricType where
  | simple | calculated | timeIntel
  deriving DecidableEq, Repr, Inhabited

namespace MetricType

/-- All metric types. -/
def all : List MetricType := [simple, calculated, timeIntel]

/-- The name of a type. -/
def name : MetricType → String
  | simple => "SIMPLE"
  | calculated => "CALCULATED"
  | timeIntel => "TIME_INTEL"

/-- The type with a name. -/
def ofName? (s : String) : Option MetricType := all.find? (·.name = s)

end MetricType

namespace Compiled

/-- The type of a metric with this compiled form. -/
def metricType : Compiled → MetricType
  | aggregation .. => .simple
  | formula .. => .calculated
  | timeIntel .. => .timeIntel

/-- A list of texts as a value. -/
def textList (names : List String) : Value := .list (names.map .text)

/-- The stored form. -/
def toValue : Compiled → Value
  | aggregation func field =>
    .object [("kind", .text "aggregation"), ("agg_func", .text func.name), ("field", .text field)]
  | formula text dependencies =>
    .object [("kind", .text "formula"), ("formula", .text text),
      ("dependencies", textList dependencies)]
  | timeIntel func text dependencies =>
    .object [("kind", .text "time_intel"), ("time_func", .text func.name), ("formula", .text text),
      ("dependencies", textList dependencies)]

open Reader in
/-- Reads the fields of the variant that `kind` names; issues are placed under the variant. -/
def readVariant? (kind : String) (fs : Fields) : Option (Checked Compiled) :=
  let dependencies := optional fs "dependencies" [] (listOf text)
  match kind with
  | "aggregation" => some (
      aggregation <$> required fs "agg_func" (member Aggregate.ofName?) <*> required fs "field" text)
  | "formula" => some (formula <$> required fs "formula" text <*> dependencies)
  | "time_intel" => some (
      timeIntel <$> required fs "time_func" (member TimeFunction.ofName?)
        <*> required fs "formula" text <*> dependencies)
  | _ => none

/-- Reads a stored form. -/
def read : Reader Compiled
  | .object fs =>
    match Fields.get? fs "kind" with
    | none => .issue .unionTagNotFound
    | some (.text kind) =>
      match readVariant? kind fs with
      | some c => c.under (.field kind)
      | none => .issue .unionTagInvalid
    | some _ => .issue .unionTagInvalid
  | _ => .issue .modelAttributesType

end Compiled

end MetricLayer
