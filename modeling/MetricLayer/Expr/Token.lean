/-!
# Tokens of metric expressions

A token is a non-empty piece of the source with the position of its first character.  White space
is not a token.  The reader of a token list sees the end of the source as the empty list.
-/

namespace MetricLayer

/-- The lexical classes of the expression language. -/
inductive TokenKind where
  /-- An unsigned numeral with an optional fraction and exponent. -/
  | number
  /-- A text in single quotes. -/
  | string
  /-- A field name in double quotes. -/
  | quotedName
  /-- A word of ASCII letters, digits and underscores. -/
  | name
  /-- One of `+ - * / %`. -/
  | operator
  /-- A sign that may stand in a field name, such as `$` or `#`. -/
  | punctuation
  /-- An opening parenthesis. -/
  | leftParen
  /-- A closing parenthesis. -/
  | rightParen
  /-- A comma. -/
  | comma
  deriving DecidableEq, Repr, Inhabited

/-- A lexeme of the source together with its class and position. -/
structure Token where
  /-- The class of the lexeme. -/
  kind : TokenKind
  /-- The characters of the lexeme. -/
  chars : List Char
  /-- The position of its first character in the source. -/
  pos : Nat
  deriving DecidableEq, Repr, Inhabited

namespace Token

/-- The lexeme as a text. -/
def text (t : Token) : String := String.ofList t.chars

/-- The position just after the lexeme. -/
def stop (t : Token) : Nat := t.pos + t.chars.length

/-- The lexeme in upper case. -/
def upper (t : Token) : String := String.ofList (t.chars.map Char.toUpper)

/-- The token is the given operator. -/
def isOperator (t : Token) (c : Char) : Bool := t.kind = .operator && t.chars = [c]

/-- The token is the word DISTINCT in any case. -/
def isDistinct (t : Token) : Bool := t.kind = .name && t.upper = "DISTINCT"

/-- The token opens or closes a parenthesis or separates arguments. -/
def isDelimiter (t : Token) : Bool :=
  t.kind = .leftParen || t.kind = .rightParen || t.kind = .comma

end Token

end MetricLayer
