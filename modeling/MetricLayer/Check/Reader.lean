import MetricLayer.Check.Checked
import MetricLayer.Text.Blank
import MetricLayer.Value

/-!
# Reading incoming data

A reader takes a value to what it stands for, or to the issues in it.  Texts are never made from
other kinds; whole numbers and truth values are also read from numbers and texts that spell them.
-/

namespace MetricLayer

/-- Reads a value of a record field. -/
abbrev Reader (α : Type) := Value → Checked α

namespace Reader

open Number

/-- Any text. -/
def text : Reader String
  | .text s => .valid s
  | _ => .issue .stringType

/-- A text of at least one character. -/
def nonemptyText : Reader String := fun v =>
  (text v).andThen fun s => if s = "" then .issue .stringTooShort else .valid s

/-- A text of one to `most` characters. -/
def shortText (most : Nat) : Reader String := fun v =>
  (nonemptyText v).andThen fun s => if most < s.length then .issue .stringTooLong else .valid s

/-- The spellings of truth. -/
def trueWords : List String := ["1", "on", "t", "true", "y", "yes"]

/-- The spellings of falsehood. -/
def falseWords : List String := ["0", "off", "f", "false", "n", "no"]

/-- The whole number with the value of a double. -/
def wholeFloat? (x : Float) : Option Int :=
  if x.isNaN || x.isInf || x != x.floor then none
  else
    let bits := x.toBits.toNat
    let b := Binary.ofBits (bits % pow2 63)
    let magnitude : Nat :=
      if 0 ≤ b.exponent then b.mantissa * pow2 b.exponent.toNat
      else b.mantissa / pow2 (-b.exponent).toNat
    some (if bits < pow2 63 then Int.ofNat magnitude else -(Int.ofNat magnitude))

/-- A truth value, one of its spellings in any case, or one of the numbers 0 and 1. -/
def truth : Reader Bool
  | .bool b => .valid b
  | .text s =>
    let word := s.toLower
    if trueWords.contains word then .valid true
    else if falseWords.contains word then .valid false
    else .issue .boolParsing
  | .int i => ofInt i
  | .float x => (wholeFloat? x).elim (.issue .boolType) ofInt
  | .decimal d =>
    match d.toFloat?.bind wholeFloat? with
    | some i => ofInt i
    | none => .issue .boolType
  | _ => .issue .boolType
where
  /-- The numbers 0 and 1 as truth values. -/
  ofInt (i : Int) : Checked Bool :=
    if i = 0 then .valid false else if i = 1 then .valid true else .issue .boolParsing

/-- Digits in which single underscores may stand between two digits. -/
def readGrouped? (cs : List Char) : Option Nat :=
  let rec separated : List Char → Bool
    | '_' :: '_' :: _ => false
    | ['_'] => false
    | _ :: rest => separated rest
    | [] => true
  if cs.head? = some '_' || !separated cs then none else readDecimal? (cs.filter (· ≠ '_'))

/-- The whole number that a text spells: a sign, digits and a fraction of zeros, with blanks
around. -/
def spelledInt? (s : String) : Option Int :=
  let (negative, body) := match Text.stripBlanks s.toList with
    | '-' :: cs => (true, cs)
    | '+' :: cs => (false, cs)
    | cs => (false, cs)
  let whole := body.takeWhile (· ≠ '.')
  let fraction := (body.drop whole.length).drop 1
  if fraction.all (· = '0') then
    (readGrouped? whole).map fun n => if negative then -(Int.ofNat n) else Int.ofNat n
  else none

/-- A whole number, a number without fraction, or a text that spells one. -/
def integer : Reader Int
  | .int i => .valid i
  | .bool b => .valid (if b then 1 else 0)
  | .float x =>
    if x.isNaN || x.isInf then .issue .finiteNumber
    else (wholeFloat? x).elim (.issue .intFromFloat) .valid
  | .decimal d =>
    if d.isFinite then d.toInt?.elim (.issue .intFromFloat) .valid else .issue .finiteNumber
  | .text s => (spelledInt? s).elim (.issue .intParsing) .valid
  | _ => .issue .intType

/-- A whole number not below `least`. -/
def integerFrom (least : Int) : Reader Int := fun v =>
  (integer v).andThen fun i => if i < least then .issue .greaterThanEqual else .valid i

/-- A whole number from `least` to `most`. -/
def integerBetween (least most : Int) : Reader Int := fun v =>
  (integerFrom least v).andThen fun i => if most < i then .issue .lessThanEqual else .valid i

/-- A member of an enumeration, by its text. -/
def member {α : Type} (ofText? : String → Option α) : Reader α
  | .text s => (ofText? s).elim (.issue .enumMember) .valid
  | _ => .issue .enumMember

/-- One of a few literal texts. -/
def literal {α : Type} (ofText? : String → Option α) : Reader α
  | .text s => (ofText? s).elim (.issue .literalValue) .valid
  | _ => .issue .literalValue

/-- The absent value, or what `reader` reads. -/
def nullable {α : Type} (reader : Reader α) : Reader (Option α)
  | .null => .valid none
  | v => (reader v).map some

/-- Reads every item of a list, whose positions count from `i`. -/
def items {α : Type} (reader : Reader α) : Nat → List Value → Checked (List α)
  | _, [] => .valid []
  | i, v :: rest =>
    List.cons <$> (reader v).under (.index i) <*> items reader (i + 1) rest

/-- A list of what `reader` reads. -/
def listOf {α : Type} (reader : Reader α) : Reader (List α) := fun v =>
  match v.items? with
  | some vs => items reader 0 vs
  | none => .issue .listType

/-- A list of at least one item. -/
def nonemptyListOf {α : Type} (reader : Reader α) : Reader (List α) := fun v =>
  (listOf reader v).andThen fun xs => if xs.isEmpty then .issue .tooShort else .valid xs

/-- Exactly two items. -/
def pairOf {α β : Type} (first : Reader α) (second : Reader β) : Reader (α × β) := fun v =>
  match v.items? with
  | none => .issue .tupleType
  | some vs =>
    let at1 := match vs with
      | [] => (Checked.issue .missing).under (.index 0)
      | a :: _ => (first a).under (.index 0)
    let at2 := match vs with
      | _ :: b :: _ => (second b).under (.index 1)
      | _ => (Checked.issue .missing).under (.index 1)
    if 2 < vs.length then .issue .tooLong else Prod.mk <$> at1 <*> at2

/-- An object with free field names. -/
def fields : Reader Fields
  | .object fs => .valid fs
  | _ => .issue .dictType

/-- Where a record comes from, which decides how an issue with its form is named. -/
inductive Source where
  /-- Data of the library's own callers. -/
  | data
  /-- The body of a request. -/
  | request
  deriving DecidableEq, Repr

/-- The issue of a value that is no object where a record is wanted. -/
def Source.notRecord : Source → IssueKind
  | data => .modelType
  | request => .modelAttributesType

/-- A record, read from the fields of an object; fields that the record lacks are ignored. -/
def record {α : Type} (source : Source) (read : Fields → Checked α) : Reader α
  | .object fs => read fs
  | _ => .issue source.notRecord

/-- A field that has to be there. -/
def required {α : Type} (fs : Fields) (name : String) (reader : Reader α) : Checked α :=
  match fs.get? name with
  | some v => (reader v).under (.field name)
  | none => (Checked.issue .missing).under (.field name)

/-- A field with a default. -/
def optional {α : Type} (fs : Fields) (name : String) (default : α) (reader : Reader α) :
    Checked α :=
  match fs.get? name with
  | some v => (reader v).under (.field name)
  | none => .valid default

end Reader

end MetricLayer
