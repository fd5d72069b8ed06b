import MetricLayer.Calendar.Duration
import MetricLayer.Calendar.Moment
import MetricLayer.Number.Decimal

/-!
# Values

The values of table cells, filter trees and access policies.  Objects keep the order of their
fields, and no two fields of an object have the same name.
-/

namespace MetricLayer

/-- A value of a cell, a filter or a policy. -/
inductive Value where
  /-- The absent value. -/
  | null
  /-- A truth value. -/
  | bool (b : Bool)
  /-- A whole number of any size. -/
  | int (i : Int)
  /-- A double. -/
  | float (x : Float)
  /-- A decimal number. -/
  | decimal (d : Decimal)
  /-- A text. -/
  | text (s : String)
  /-- A calendar date. -/
  | date (d : Date)
  /-- A date with a time of day. -/
  | moment (m : Moment)
  /-- A length of time. -/
  | duration (d : Duration)
  /-- Raw bytes. -/
  | bytes (bs : List UInt8)
  /-- A list. -/
  | list (items : List Value)
  /-- A fixed sequence, which acts as a list but is displayed in parentheses. -/
  | tuple (items : List Value)
  /-- Named fields in order. -/
  | object (fields : List (String × Value))
  deriving Inhabited

/-- The fields of an object. -/
abbrev Fields := List (String × Value)

namespace Fields

/-- The value of a field. -/
def get? (fields : Fields) (name : String) : Option Value := List.lookup name fields

/-- Sets a field: in its place when it exists, else at the end. -/
def set : Fields → String → Value → Fields
  | [], name, v => [(name, v)]
  | (k, w) :: rest, name, v =>
    if k = name then (k, v) :: rest else (k, w) :: set rest name v

/-- Sets every field of `overlay`, in its order. -/
def update (fields overlay : Fields) : Fields :=
  overlay.foldl (fun acc f => set acc f.1 f.2) fields

/-- The names of the fields. -/
def names (fields : Fields) : List String := fields.map Prod.fst

end Fields

namespace Value

/-- The value is `null`. -/
def isNull : Value → Bool
  | null => true
  | _ => false

/-- The name of the kind of a value, as messages give it. -/
def kindName : Value → String
  | null => "NoneType"
  | bool _ => "bool"
  | int _ => "int"
  | float _ => "float"
  | decimal _ => "Decimal"
  | text _ => "str"
  | date _ => "date"
  | moment _ => "datetime"
  | duration _ => "timedelta"
  | bytes _ => "bytes"
  | list _ => "list"
  | tuple _ => "tuple"
  | object _ => "dict"

/-- The value counts as present: it is not null, false, zero or empty. -/
def isTruthy : Value → Bool
  | null => false
  | bool b => b
  | int i => i ≠ 0
  | float x => x != 0.0
  | decimal (.finite _ coefficient _) => coefficient ≠ 0
  | decimal _ => true
  | text s => s ≠ ""
  | date _ => true
  | moment _ => true
  | duration d => d.micros ≠ 0
  | bytes bs => !bs.isEmpty
  | list items => !items.isEmpty
  | tuple items => !items.isEmpty
  | object fields => !fields.isEmpty

/-- The items of a list or a tuple. -/
def items? : Value → Option (List Value)
  | list items => some items
  | tuple items => some items
  | _ => none

end Value

end MetricLayer
