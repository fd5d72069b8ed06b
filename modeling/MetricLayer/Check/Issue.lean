/-!
# Issues of incoming data

An issue names the place in the data by its path and what is wrong there.  `IssueKind.code` is the
stable identifier under which clients know it.
-/

namespace MetricLayer

/-- One step of the path to a place in the data. -/
inductive PathStep where
  /-- A field of an object. -/
  | field (name : String)
  /-- A position in a list. -/
  | index (i : Nat)
  deriving DecidableEq, Repr

/-- What is wrong at a place. -/
inductive IssueKind where
  /-- A required field is absent. -/
  | missing
  /-- Not a text. -/
  | stringType
  /-- A text below the least length. -/
  | stringTooShort
  /-- A text above the greatest length. -/
  | stringTooLong
  /-- Not a list. -/
  | listType
  /-- Neither a list nor a tuple, where a tuple is wanted. -/
  | tupleType
  /-- Not an object with free field names. -/
  | dictType
  /-- Not an object, where a record is wanted. -/
  | modelType
  /-- Not an object, where a record of a request is wanted. -/
  | modelAttributesType
  /-- Not one of the members of an enumeration. -/
  | enumMember
  /-- Not one of the literals allowed. -/
  | literalValue
  /-- A list below the least length. -/
  | tooShort
  /-- A list above the greatest length. -/
  | tooLong
  /-- Not a truth value. -/
  | boolType
  /-- No spelling of a truth value. -/
  | boolParsing
  /-- Not a whole number. -/
  | intType
  /-- No spelling of a whole number. -/
  | intParsing
  /-- A number with a fraction. -/
  | intFromFloat
  /-- An infinity or a NaN. -/
  | finiteNumber
  /-- A number below the least one. -/
  | greaterThanEqual
  /-- A number above the greatest one. -/
  | lessThanEqual
  /-- The field that tells the variants apart is absent. -/
  | unionTagNotFound
  /-- The field that tells the variants apart names none of them. -/
  | unionTagInvalid
  /-- Not a date. -/
  | dateType
  /-- A day that the calendar lacks. -/
  | dateParsing
  /-- No spelling of a date or of a moment. -/
  | dateFromDatetimeParsing
  /-- A moment within a day, where a date is wanted. -/
  | dateFromDatetimeInexact
  /-- Not a moment. -/
  | datetimeType
  /-- A number that counts no moment, or a moment that the calendar lacks. -/
  | datetimeParsing
  /-- No spelling of a moment or of a date. -/
  | datetimeFromDateParsing
  /-- The fields are valid, but not together. -/
  | valueError (reason : String)
  deriving DecidableEq, Repr

/-- The stable identifier of a kind of issue. -/
def IssueKind.code : IssueKind → String
  | missing => "missing"
  | stringType => "string_type"
  | stringTooShort => "string_too_short"
  | stringTooLong => "string_too_long"
  | listType => "list_type"
  | tupleType => "tuple_type"
  | dictType => "dict_type"
  | modelType => "model_type"
  | modelAttributesType => "model_attributes_type"
  | enumMember => "enum"
  | literalValue => "literal_error"
  | tooShort => "too_short"
  | tooLong => "too_long"
  | boolType => "bool_type"
  | boolParsing => "bool_parsing"
  | intType => "int_type"
  | intParsing => "int_parsing"
  | intFromFloat => "int_from_float"
  | finiteNumber => "finite_number"
  | greaterThanEqual => "greater_than_equal"
  | lessThanEqual => "less_than_equal"
  | unionTagNotFound => "union_tag_not_found"
  | unionTagInvalid => "union_tag_invalid"
  | dateType => "date_type"
  | dateParsing => "date_parsing"
  | dateFromDatetimeParsing => "date_from_datetime_parsing"
  | dateFromDatetimeInexact => "date_from_datetime_inexact"
  | datetimeType => "datetime_type"
  | datetimeParsing => "datetime_parsing"
  | datetimeFromDateParsing => "datetime_from_date_parsing"
  | valueError _ => "value_error"

/-- The explanation that goes with an issue, where the code alone does not say enough. -/
def IssueKind.note? : IssueKind → Option String
  | valueError reason => some ("Value error, " ++ reason)
  | _ => none

/-- Something wrong at a place in the data. -/
structure Issue where
  /-- The path from the whole of the data to the place. -/
  path : List PathStep
  /-- What is wrong there. -/
  kind : IssueKind
  deriving DecidableEq, Repr

/-- The issue seen from one level further out. -/
def Issue.under (step : PathStep) (issue : Issue) : Issue := { issue with path := step :: issue.path }

end MetricLayer
