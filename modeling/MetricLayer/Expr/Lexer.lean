import MetricLayer.Expr.Fault
import MetricLayer.Expr.Token
import MetricLayer.Text.Blank
import MetricLayer.Text.Digit

/-!
# Reading tokens

`lexemeLength?` gives the class and length of the lexeme at the head of a text, `tokens` cuts a
whole text into tokens.  Lexemes are as long as possible, with one exception: a text in quotes that
never closes ends at the first half of its last doubled quote.
-/

namespace MetricLayer.Lexer

open MetricLayer.Text

/-- The number of decimal digits at the head. -/
def digitRun (cs : List Char) : Nat := (cs.takeWhile isDigit).length

/-- The length of an exponent at the head: `e`, an optional sign and digits; zero when absent. -/
def exponentLength : List Char → Nat
  | [] => 0
  | e :: rest =>
    if e = 'e' || e = 'E' then
      let signs := match rest with
        | '+' :: _ => 1
        | '-' :: _ => 1
        | _ => 0
      let run := digitRun (rest.drop signs)
      if run = 0 then 0 else 1 + signs + run
    else 0

/-- The length of the digits and the point of a numeral at the head; zero when there is none. -/
def mantissaLength (cs : List Char) : Nat :=
  let whole := digitRun cs
  match cs.drop whole with
  | '.' :: rest =>
    let fraction := digitRun rest
    if whole + fraction = 0 then 0 else whole + 1 + fraction
  | _ => whole

/-- The length of a numeral at the head; zero when there is none. -/
def numberLength (cs : List Char) : Nat :=
  let mantissa := mantissaLength cs
  if mantissa = 0 then 0 else mantissa + exponentLength (cs.drop mantissa)

/-- The length of the rest of a quoted text up to and including its closing quote.  A doubled quote
belongs to the text, unless no closing quote follows it. -/
def closingLength? (q : Char) : List Char → Option Nat
  | [] => none
  | [c] => if c = q then some 1 else none
  | c :: d :: rest =>
    if c = q then
      if d = q then
        match closingLength? q rest with
        | some n => some (n + 2)
        | none => some 1
      else some 1
    else (closingLength? q (d :: rest)).map (· + 1)

/-- The length of the rest of a quoted text that may not be empty. -/
def closingLengthNonempty? (q : Char) : List Char → Option Nat
  | [] => none
  | [_] => none
  | c :: d :: rest =>
    if c = q then
      if d = q then (closingLength? q rest).map (· + 2) else none
    else closingLength? q (c :: d :: rest)

/-- The character can start a name. -/
def isNameStart (c : Char) : Bool := c.isAlpha || c = '_'

/-- The character can continue a name. -/
def isNameChar (c : Char) : Bool := c.isAlphanum || c = '_'

/-- The class of the lexeme that starts with `c`, `none` for blanks, and the number of characters
of `cs` that belong to it. -/
def lexemeLength? (c : Char) (cs : List Char) : Option (Option TokenKind × Nat) :=
  if isBlank c then some (none, (cs.takeWhile isBlank).length)
  else if 0 < numberLength (c :: cs) then some (some .number, numberLength (c :: cs) - 1)
  else if c = '\'' then (closingLength? '\'' cs).map fun n => (some .string, n)
  else if c = '"' then (closingLengthNonempty? '"' cs).map fun n => (some .quotedName, n)
  else if isNameStart c then some (some .name, (cs.takeWhile isNameChar).length)
  else if "-+*/%".toList.contains c then some (some .operator, 0)
  else if "$#.&@?!".toList.contains c then some (some .punctuation, 0)
  else if c = '(' then some (some .leftParen, 0)
  else if c = ')' then some (some .rightParen, 0)
  else if c = ',' then some (some .comma, 0)
  else none

/-- The tokens of a text whose first character has position `pos`. -/
def tokensFrom (pos : Nat) : List Char → Except ExprFault (List Token)
  | [] => .ok []
  | c :: cs =>
    match lexemeLength? c cs with
    | none => .error (.unexpectedCharacter c pos)
    | some (kind?, more) => do
      let rest ← tokensFrom (pos + 1 + more) (cs.drop more)
      match kind? with
      | none => return rest
      | some kind => return ⟨kind, c :: cs.take more, pos⟩ :: rest
termination_by cs => cs.length
decreasing_by
  simp only [List.length_drop, List.length_cons]
  omega

/-- The tokens of a text. -/
def tokens (cs : List Char) : Except ExprFault (List Token) := tokensFrom 0 cs

/-- A token, or the mark at the end of a text with its position. -/
inductive Item where
  /-- A token. -/
  | token (t : Token)
  /-- The end of the text, an empty lexeme of no class. -/
  | finish (pos : Nat)
  deriving DecidableEq, Repr

/-- The tokens of a text and the mark at its end. -/
def items (cs : List Char) : Except ExprFault (List Item) := do
  let ts ← tokens cs
  return ts.map .token ++ [.finish cs.length]

end MetricLayer.Lexer
