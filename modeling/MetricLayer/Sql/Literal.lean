import MetricLayer.Failure
import MetricLayer.Text.Blank
import MetricLayer.Value.Display

/-!
# Literals and names in SQL

`sqlLiteral` and `sqlName` are the only functions that put a caller's text into a statement.  Both
write the closing quote of a quoted text twice, so the text ends where it should; a NUL is refused.
-/

namespace MetricLayer

open Number Text

/-- The text between two quotes, with the quotes inside it doubled. -/
def enclosed (q : Char) (s : String) : String := String.ofList (q :: double q s.toList ++ [q])

/-- The text holds a NUL. -/
def holdsNul (s : String) : Bool := s.toList.contains '\x00'

/-- A text as a string literal. -/
def sqlText (s : String) : Outcome String :=
  if holdsNul s then .error (.sqlText .nulInText) else .ok (enclosed '\'' s)

/-- A value as a literal.  Numbers that are not finite become NULL; containers, durations and bytes
have no literal. -/
def sqlLiteral : Value → Outcome String
  | .null => .ok "NULL"
  | .bool b => .ok (if b then "TRUE" else "FALSE")
  | .int i => .ok (integerText i)
  | .float x => .ok (if x.isFinite then floatText x else "NULL")
  | .decimal d => .ok (if d.isFinite then d.text else "NULL")
  | .text s => sqlText s
  | .date d => .ok (enclosed '\'' d.text)
  | .moment m => .ok (enclosed '\'' m.text)
  | v => .error (.sqlText (.unwritable v.kindName))

/-- A table or column name as a quoted identifier. -/
def sqlName (name : String) : Outcome String :=
  if isBlankText name then .error (.sqlText (.invalidName (quoted name)))
  else if holdsNul name then .error (.sqlText .nulInName)
  else .ok (enclosed '"' name)

/-- A value as a quoted identifier; only a text can be one. -/
def sqlNameOf : Value → Outcome String
  | .text s => sqlName s
  | v => .error (.sqlText (.invalidName v.shown))

/-- The characters that a physical name may hold. -/
def isPlainChar (c : Char) : Bool := c.isAlphanum || c = '_'

/-- The text in lower case with an underscore for every character that is no ASCII letter, digit or
underscore. -/
def plainName (s : String) : String :=
  String.ofList (s.toList.map fun c => if isPlainChar c then c.toLower else '_')

/-- The first `limit` characters, or all but the last `-limit` when that is negative. -/
def cutTo (limit : Int) (s : String) : String :=
  let cs := s.toList
  String.ofList (if 0 ≤ limit then cs.take limit.toNat else cs.take (cs.length - limit.natAbs))

/-- The greatest length of an identifier in the database. -/
def identifierLimit : Nat := 63

/-- The name of the physical table of a logical table: the first eight characters of the data
source's id and the table's name, made plain and cut to the limit. -/
def physicalNameFor (sourceId table : String) : String :=
  let head := String.ofList (sourceId.toList.take 8)
  cutTo identifierLimit (plainName (s!"ds_{head}_{table}"))

end MetricLayer
