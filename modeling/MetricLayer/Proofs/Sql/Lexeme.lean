import MetricLayer.Text.Search
import Mathlib.Tactic

/-!
# The lexemes of SQL

`lex` cuts the text of a statement into lexemes as the database does, with standard-conforming
strings:

* a quoted name or a string runs to the first quote that is not doubled, whatever stands in it;
* words are folded to lower case, and every character above ASCII may stand in a word;
* numerals consist of ASCII digits;
* an operator is a run of operator characters that holds no comment and does not end in a sign,
  unless one of its characters is none of the arithmetic and comparison characters;
* comments are lexemes of their own, so a text has none exactly when it has no such lexeme.

A text with an open quote or comment, or with a word that changes the meaning of a quote after it,
has no lexemes.
-/

namespace MetricLayer.Sql

/-- A lexeme of a statement. -/
inductive Lexeme where
  /-- A keyword or an unquoted name, in lower case. -/
  | word (text : String)
  /-- A name in double quotes. -/
  | name (value : String)
  /-- A text in single quotes. -/
  | text (value : String)
  /-- An unsigned numeral as it is written. -/
  | number (text : String)
  /-- An operator. -/
  | operator (text : String)
  /-- An opening parenthesis. -/
  | leftParen
  /-- A closing parenthesis. -/
  | rightParen
  /-- A comma. -/
  | comma
  /-- A point between names. -/
  | dot
  /-- A comment. -/
  | comment
  deriving DecidableEq, Repr

/-! ## Characters -/

/-- The character separates lexemes. -/
def isSpace (c : Char) : Bool :=
  c = ' ' || c = '\t' || c = '\n' || c = '\r' || c = '\x0b' || c = '\x0c'

/-- The character can start a word. -/
def isWordStart (c : Char) : Bool := c.isAlpha || c = '_' || 0x80 ≤ c.toNat

/-- The character can continue a word. -/
def isWordChar (c : Char) : Bool := isWordStart c || c.isDigit || c = '$'

/-- The character can stand in an operator. -/
def isOperatorChar (c : Char) : Bool := "+-*/<>=~!@#%^&|?\x60".toList.contains c

/-- A comment that runs to the end of the line starts with `c`. -/
def startsLineComment (c : Char) (cs : List Char) : Bool := c = '-' && cs.head? = some '-'

/-- A comment that runs to its end mark starts with `c`. -/
def startsBlockComment (c : Char) (cs : List Char) : Bool := c = '/' && cs.head? = some '*'

/-- What stands right after a word would make the two one lexeme of another kind. -/
def startsQuote (cs : List Char) : Bool :=
  cs.head? = some '\'' || cs.head? = some '"' || cs.head? = some '&'

/-! ## Quotes and comments -/

/-- The value of a quoted text whose opening quote has been read, and what follows it. -/
def readQuoted (q : Char) : List Char → Option (List Char × List Char)
  | [] => none
  | [c] => if c = q then some ([], []) else none
  | c :: d :: rest =>
    if c = q then
      if d = q then (readQuoted q rest).map fun r => (q :: r.1, r.2) else some ([], d :: rest)
    else (readQuoted q (d :: rest)).map fun r => (c :: r.1, r.2)

/-- What follows a block comment of which `depth` more are open. -/
def afterBlock (depth : Nat) : List Char → Option (List Char)
  | [] => none
  | [_] => none
  | c :: d :: rest =>
    if c = '*' ∧ d = '/' then
      match depth with
      | 0 => some rest
      | depth + 1 => afterBlock depth rest
    else if c = '/' ∧ d = '*' then afterBlock (depth + 1) rest
    else afterBlock depth (d :: rest)

/-! ## Numerals -/

/-- The number of ASCII digits at the head. -/
def digitRun (cs : List Char) : Nat := (cs.takeWhile Char.isDigit).length

/-- The length of an exponent at the head; zero when there is none. -/
def exponentRun : List Char → Nat
  | [] => 0
  | e :: rest =>
    if e = 'e' || e = 'E' then
      let signs := if rest.head? = some '+' || rest.head? = some '-' then 1 else 0
      let run := digitRun (rest.drop signs)
      if run = 0 then 0 else 1 + signs + run
    else 0

/-- The length of the digits and the point of a numeral at the head; zero when there is none. -/
def mantissaRun (cs : List Char) : Nat :=
  let whole := digitRun cs
  let rest := cs.drop whole
  if rest.head? = some '.' then
    let fraction := digitRun (rest.drop 1)
    if whole + fraction = 0 then 0 else whole + 1 + fraction
  else whole

/-- The length of a numeral at the head; zero when there is none. -/
def numeralRun (cs : List Char) : Nat :=
  let mantissa := mantissaRun cs
  if mantissa = 0 then 0 else mantissa + exponentRun (cs.drop mantissa)

/-! ## Operators -/

/-- The operator characters at the head, up to a comment. -/
def operatorRun : List Char → List Char
  | [] => []
  | c :: rest =>
    if isOperatorChar c && !startsLineComment c rest && !startsBlockComment c rest then
      c :: operatorRun rest
    else []

/-- An operator with this character may end in a sign. -/
def allowsSignAtEnd (c : Char) : Bool := "~!@#%^&|?\x60".toList.contains c

/-- The operator at the head: signs at the end of a run are operators of their own. -/
def operatorAt (cs : List Char) : List Char :=
  let run := operatorRun cs
  if run.any allowsSignAtEnd then run
  else run.take 1 ++ ((run.drop 1).reverse.dropWhile fun c => c = '+' || c = '-').reverse

/-! ## Lexemes -/

/-- The word that the characters spell in any case. -/
def folded (cs : List Char) : String := String.ofList (cs.map Char.toLower)

/-- What is read at the head of a text, nothing for white space, and what follows it. -/
abbrev Head := Option Lexeme × List Char

/-- The lexeme that is this single character. -/
def mark? (c : Char) : Option Lexeme :=
  if c = '(' then some .leftParen
  else if c = ')' then some .rightParen
  else if c = ',' then some .comma
  else none

/-- The string whose opening quote has been read. -/
def stringAt (cs : List Char) : Option Head :=
  (readQuoted '\'' cs).map fun r => (some (.text (String.ofList r.1)), r.2)

/-- The quoted name whose opening quote has been read; it may not be empty. -/
def nameAt (cs : List Char) : Option Head :=
  ((readQuoted '"' cs).filter fun r => !r.1.isEmpty).map fun r =>
    (some (.name (String.ofList r.1)), r.2)

/-- The word that starts with `c`. -/
def wordAt (c : Char) (cs : List Char) : Option Head :=
  if startsQuote (cs.dropWhile isWordChar) then none
  else some (some (.word (folded (c :: cs.takeWhile isWordChar))), cs.dropWhile isWordChar)

/-- The numeral that starts with `c`, or a point. -/
def numberAt (c : Char) (cs : List Char) : Option Head :=
  match numeralRun (c :: cs) with
  | 0 => if c = '.' then some (some .dot, cs) else none
  | more + 1 => some (some (.number (String.ofList (c :: cs.take more))), cs.drop more)

/-- The comment or the operator that starts with `c`. -/
def symbolAt (c : Char) (cs : List Char) : Option Head :=
  if startsLineComment c cs then some (some .comment, cs.dropWhile (· ≠ '\n'))
  else if startsBlockComment c cs then
    (afterBlock 0 (cs.drop 1)).map fun rest => (some .comment, rest)
  else
    let op := operatorAt (c :: cs)
    some (some (.operator (String.ofList op)), cs.drop (op.length - 1))

/-- What starts with `c`. -/
def lexemeAt (c : Char) (cs : List Char) : Option Head :=
  if isSpace c then some (none, cs)
  else if (mark? c).isSome then some (mark? c, cs)
  else if c = '\'' then stringAt cs
  else if c = '"' then nameAt cs
  else if isWordStart c then wordAt c cs
  else if c.isDigit || c = '.' then numberAt c cs
  else if isOperatorChar c then symbolAt c cs
  else none

theorem readQuoted_length_le {q : Char} {cs : List Char} {r : List Char × List Char}
    (h : readQuoted q cs = some r) : r.2.length ≤ cs.length := by
  fun_induction readQuoted q cs generalizing r with
  | case1 | case3 => simp at h
  | case2 =>
    cases h
    simp
  | case4 rest ih =>
    obtain ⟨r', hr', rfl⟩ := Option.map_eq_some_iff.1 h
    have := ih hr'
    simp only [List.length_cons]
    omega
  | case5 =>
    cases h
    simp
  | case6 c d rest hc ih =>
    obtain ⟨r', hr', rfl⟩ := Option.map_eq_some_iff.1 h
    have := ih hr'
    simp only [List.length_cons] at this ⊢
    omega

theorem afterBlock_length_le {depth : Nat} {cs rest : List Char}
    (h : afterBlock depth cs = some rest) : rest.length ≤ cs.length := by
  fun_induction afterBlock depth cs with
  | case1 | case2 => simp at h
  | case3 =>
    cases h
    simp only [List.length_cons]
    omega
  | case4 _ _ _ _ _ ih | case5 _ _ _ _ _ _ ih | case6 _ _ _ _ _ _ ih =>
    have := ih h
    simp only [List.length_cons] at this ⊢
    omega

theorem stringAt_length_le {cs : List Char} {r : Head} (h : stringAt cs = some r) :
    r.2.length ≤ cs.length := by
  obtain ⟨r', hr', rfl⟩ := Option.map_eq_some_iff.1 h
  exact readQuoted_length_le hr'

theorem nameAt_length_le {cs : List Char} {r : Head} (h : nameAt cs = some r) :
    r.2.length ≤ cs.length := by
  obtain ⟨r', hr', rfl⟩ := Option.map_eq_some_iff.1 h
  exact readQuoted_length_le (Option.filter_eq_some_iff.1 hr').1

theorem wordAt_length_le {c : Char} {cs : List Char} {r : Head} (h : wordAt c cs = some r) :
    r.2.length ≤ cs.length := by
  unfold wordAt at h
  split at h
  · cases h
  · cases h
    exact (List.dropWhile_sublist _).length_le

theorem numberAt_length_le {c : Char} {cs : List Char} {r : Head} (h : numberAt c cs = some r) :
    r.2.length ≤ cs.length := by
  unfold numberAt at h
  split at h
  · split at h
    · cases h
      exact Nat.le_refl _
    · cases h
  · cases h
    simp only [List.length_drop]
    omega

theorem symbolAt_length_le {c : Char} {cs : List Char} {r : Head} (h : symbolAt c cs = some r) :
    r.2.length ≤ cs.length := by
  unfold symbolAt at h
  split at h
  · cases h
    exact (List.dropWhile_sublist _).length_le
  · split at h
    · obtain ⟨rest, hr, rfl⟩ := Option.map_eq_some_iff.1 h
      have := afterBlock_length_le hr
      simp only [List.length_drop] at this ⊢
      omega
    · cases h
      simp only [List.length_drop]
      omega

theorem lexemeAt_length_le {c : Char} {cs : List Char} {r : Head}
    (h : lexemeAt c cs = some r) : r.2.length ≤ cs.length := by
  unfold lexemeAt at h
  split_ifs at h
  · cases h
    exact Nat.le_refl _
  · cases h
    exact Nat.le_refl _
  · exact stringAt_length_le h
  · exact nameAt_length_le h
  · exact wordAt_length_le h
  · exact numberAt_length_le h
  · exact symbolAt_length_le h

/-- The lexemes of a text. -/
def lex : List Char → Option (List Lexeme)
  | [] => some []
  | c :: cs =>
    match _h : lexemeAt c cs with
    | none => none
    | some r => (lex r.2).map (r.1.toList ++ ·)
termination_by cs => cs.length
decreasing_by exact Nat.lt_succ_of_le (lexemeAt_length_le _h)

theorem lex_nil : lex [] = some [] := by rw [lex]

/-- One lexeme is read, then the rest. -/
theorem lex_cons {c : Char} {cs rest : List Char} {l : Option Lexeme}
    (h : lexemeAt c cs = some (l, rest)) : lex (c :: cs) = (lex rest).map (l.toList ++ ·) := by
  rw [lex]
  split
  · next h' => rw [h] at h'; cases h'
  · next r h' => rw [h] at h'; cases h'; rfl

end MetricLayer.Sql
