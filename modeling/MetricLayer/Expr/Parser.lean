import MetricLayer.Expr.Lexer
import MetricLayer.Text.Search

/-!
# Reading expressions

Sums of products of signed operands, read from a token list.  Each production returns what is left
of the list with a proof that it got shorter, so the grammar is one well-founded recursion on the
number of tokens left and the level of the production.

* Adjacent names make one field, verbatim from the first to the last.
* The single argument of an aggregate that holds no parenthesis or comma is a field as well, taken
  verbatim (`plainField?`).
* A function that is neither an aggregate nor a time function must be an allowed scalar function.
-/

namespace MetricLayer.Parser

open MetricLayer.Text

/-- A value read from the tokens `ts`, with the tokens that are left. -/
structure Reading (α : Type) (ts : List Token) where
  /-- What was read. -/
  value : α
  /-- The tokens after it. -/
  rest : List Token
  /-- At least one token was used. -/
  shorter : rest.length < ts.length

/-- A value read from the tokens `ts` that may use none of them. -/
structure Continuation (α : Type) (ts : List Token) where
  /-- What was read. -/
  value : α
  /-- The tokens after it. -/
  rest : List Token
  /-- No token was added. -/
  noLonger : rest.length ≤ ts.length

/-- The name inside a quoted name, with doubled quotes reduced. -/
def unquotedName (t : Token) : String :=
  String.ofList (undouble '"' (slice t.chars 1 (t.chars.length - 1)))

/-- The text inside a text literal, with doubled quotes reduced. -/
def unquotedText (t : Token) : String :=
  String.ofList (undouble '\'' (slice t.chars 1 (t.chars.length - 1)))

/-- The operator of a sum that the token stands for. -/
def sumOperator? (t : Token) : Option Operator :=
  if t.isOperator '+' then some .add else if t.isOperator '-' then some .sub else none

/-- The operator of a product that the token stands for. -/
def productOperator? (t : Token) : Option Operator :=
  if t.isOperator '*' then some .mul
  else if t.isOperator '/' then some .div
  else if t.isOperator '%' then some .mod
  else none

/-- The fault at the head of the tokens; `finish` is the position of the end of the source. -/
def faultAt (finish : Nat) (wanted : Expectation) : List Token → ExprFault
  | [] => .unexpectedToken wanted "" finish
  | t :: _ => .unexpectedToken wanted t.text t.pos

/-- The last of the adjacent names that follow the name `last`. -/
def lastName (finish : Nat) (last : Token) :
    (ts : List Token) → Except ExprFault (Continuation Token ts)
  | [] => .ok ⟨last, [], Nat.le_refl _⟩
  | t :: rest =>
    if t.kind = .name then
      match rest with
      | [] => .ok ⟨t, [], Nat.zero_le _⟩
      | next :: others =>
        if next.kind = .leftParen then .error (faultAt finish .noCallAfterField [t])
        else do
          let c ← lastName finish t (next :: others)
          return ⟨c.value, c.rest, Nat.le_succ_of_le c.noLonger⟩
    else .ok ⟨last, t :: rest, Nat.le_refl _⟩

/-- The tokens of a plain argument make up a field name: one token that is neither a numeral nor a
text nor an operator, or several with no text and no quoted name among them. -/
def arePlain : List Token → Bool
  | [] => false
  | [t] => !(t.kind = .number || t.kind = .string || t.kind = .operator)
  | ts => !ts.any fun t => t.kind = .string || t.kind = .quotedName

/-- The field that an argument with the tokens `ts` names verbatim, up to position `stop`. -/
def fieldOf (source : List Char) (stop : Nat) : List Token → Expr
  | [] => .field ""
  | t :: _ =>
    if t.kind = .quotedName then .field (unquotedName t)
    else .field (String.ofList (stripEnd (slice source t.pos stop)))

theorem length_dropWhile_le (p : Token → Bool) (ts : List Token) :
    (ts.dropWhile p).length ≤ ts.length :=
  (List.dropWhile_sublist p).length_le

/-- The field named by plain text up to the next closing parenthesis, if the argument is plain. -/
def plainArgument? (source : List Char) (distinct : Bool) (ts : List Token) :
    Option (Reading (Expr × Bool) ts) :=
  match h : ts.dropWhile (!·.isDelimiter) with
  | [] => none
  | close :: rest =>
    let plain := ts.takeWhile (!·.isDelimiter)
    if close.kind = .rightParen && arePlain plain then
      some ⟨(fieldOf source close.pos plain, distinct), rest, by
        have := length_dropWhile_le (!·.isDelimiter) ts
        rw [h] at this
        exact this⟩
    else none

/-- A plain argument after an optional DISTINCT, which counts as such unless an operator or a
closing parenthesis follows it. -/
def plainField? (source : List Char) (ts : List Token) : Option (Reading (Expr × Bool) ts) :=
  match ts with
  | [] => none
  | t :: rest =>
    let leading := match rest with
      | [] => true
      | next :: _ => !(next.kind = .rightParen || next.kind = .operator)
    if t.isDistinct && leading then
      (plainArgument? source true rest).map fun r =>
        ⟨r.value, r.rest, Nat.lt_succ_of_lt r.shorter⟩
    else plainArgument? source false (t :: rest)

/-- The tokens after a DISTINCT that a name follows, and whether there was one. -/
def dropDistinct : (ts : List Token) → Continuation Bool ts
  | t :: next :: rest =>
    if t.isDistinct && (next.kind = .name || next.kind = .quotedName) then
      ⟨true, next :: rest, Nat.le_succ _⟩
    else ⟨false, t :: next :: rest, Nat.le_refl _⟩
  | ts => ⟨false, ts, Nat.le_refl _⟩

/-- The arguments of a call and the position of the parenthesis that closes them. -/
structure Arguments where
  /-- The arguments in order. -/
  args : List Expr
  /-- The position of the closing parenthesis. -/
  closePos : Nat

/-- The expression for a call of the function `name` whose arguments have been read. -/
def callOf (source : List Char) (name : Token) (openPos : Nat) (distinct : Bool)
    (given : Arguments) : Except ExprFault Expr :=
  match TimeFunction.ofUpper? name.upper, Aggregate.ofName? name.upper with
  | some func, _ =>
    if given.args.isEmpty then .error (.missingArgument name.text)
    else
      let inside := slice source (openPos + 1) given.closePos
      .ok (.timeCall func given.args (String.ofList (stripBlanks inside)))
  | none, some func =>
    match given.args with
    | [argument] => .ok (.aggregate func argument distinct)
    | args => .error (.argumentCount func args.length)
  | none, none => .ok (.call name.text given.args)

/-- The function with this name in upper case can be called. -/
def isCallable (upper : String) : Bool :=
  (Aggregate.ofName? upper).isSome || (TimeFunction.ofUpper? upper).isSome
    || scalarFunctions.contains upper

/-- The star argument of COUNT: the tokens after `*` and the closing parenthesis, if a star
comes first. -/
def starArgument? (source : List Char) (ts : List Token) :
    Option (Except ExprFault (Reading Expr ts)) :=
  match ts with
  | [] => none
  | t :: rest =>
    if t.isOperator '*' then
      match rest with
      | [] => some (.error (faultAt source.length .rightParen []))
      | close :: others =>
        if close.kind = .rightParen then
          some (.ok ⟨.aggregate .count .star false, others, by
            simp only [List.length_cons]
            omega⟩)
        else some (.error (faultAt source.length .rightParen (close :: others)))
    else none

mutual

/-- A sum of products. -/
def expression (source : List Char) (ts : List Token) : Except ExprFault (Reading Expr ts) := do
  let first ← product source ts
  let whole ← sumTail source first.value first.rest
  return ⟨whole.value, whole.rest, Nat.lt_of_le_of_lt whole.noLonger first.shorter⟩
termination_by (ts.length, 4)
decreasing_by
  · exact Prod.Lex.right _ (by omega)
  · exact Prod.Lex.left _ _ first.shorter

/-- The further summands after `left`. -/
def sumTail (source : List Char) (left : Expr) (ts : List Token) :
    Except ExprFault (Continuation Expr ts) :=
  match ts with
  | [] => .ok ⟨left, [], Nat.le_refl _⟩
  | t :: rest =>
    match sumOperator? t with
    | none => .ok ⟨left, t :: rest, Nat.le_refl _⟩
    | some op => do
      let right ← product source rest
      let whole ← sumTail source (.binary op left right.value) right.rest
      return ⟨whole.value, whole.rest,
        Nat.le_succ_of_le (Nat.le_trans whole.noLonger (Nat.le_of_lt right.shorter))⟩
termination_by (ts.length, 0)
decreasing_by
  · exact Prod.Lex.left _ _ (Nat.lt_succ_self _)
  · exact Prod.Lex.left _ _ (Nat.lt_succ_of_lt right.shorter)

/-- A product of signed operands. -/
def product (source : List Char) (ts : List Token) : Except ExprFault (Reading Expr ts) := do
  let first ← signed source ts
  let whole ← productTail source first.value first.rest
  return ⟨whole.value, whole.rest, Nat.lt_of_le_of_lt whole.noLonger first.shorter⟩
termination_by (ts.length, 3)
decreasing_by
  · exact Prod.Lex.right _ (by omega)
  · exact Prod.Lex.left _ _ first.shorter

/-- The further factors after `left`. -/
def productTail (source : List Char) (left : Expr) (ts : List Token) :
    Except ExprFault (Continuation Expr ts) :=
  match ts with
  | [] => .ok ⟨left, [], Nat.le_refl _⟩
  | t :: rest =>
    match productOperator? t with
    | none => .ok ⟨left, t :: rest, Nat.le_refl _⟩
    | some op => do
      let right ← signed source rest
      let whole ← productTail source (.binary op left right.value) right.rest
      return ⟨whole.value, whole.rest,
        Nat.le_succ_of_le (Nat.le_trans whole.noLonger (Nat.le_of_lt right.shorter))⟩
termination_by (ts.length, 0)
decreasing_by
  · exact Prod.Lex.left _ _ (Nat.lt_succ_self _)
  · exact Prod.Lex.left _ _ (Nat.lt_succ_of_lt right.shorter)

/-- An operand with any number of leading minus signs. -/
def signed (source : List Char) (ts : List Token) : Except ExprFault (Reading Expr ts) :=
  match ts with
  | [] => .error (faultAt source.length .operand [])
  | t :: rest =>
    if t.isOperator '-' then do
      let operand ← signed source rest
      return ⟨.negate operand.value, operand.rest, Nat.lt_succ_of_lt operand.shorter⟩
    else primary source t rest
termination_by (ts.length, 2)
decreasing_by
  · exact Prod.Lex.left _ _ (Nat.lt_succ_self _)
  · exact Prod.Lex.right _ (by omega)

/-- A literal, a field, a call or an expression in parentheses that starts with the token `t`. -/
def primary (source : List Char) (t : Token) (rest : List Token) :
    Except ExprFault (Reading Expr (t :: rest)) :=
  match t.kind with
  | .number => .ok ⟨.number t.text, rest, Nat.lt_succ_self _⟩
  | .string => .ok ⟨.string (unquotedText t), rest, Nat.lt_succ_self _⟩
  | .quotedName => .ok ⟨.field (unquotedName t), rest, Nat.lt_succ_self _⟩
  | .leftParen => do
    let inside ← expression source rest
    match h : inside.rest with
    | [] => .error (faultAt source.length .rightParen [])
    | close :: others =>
      if close.kind = .rightParen then
        return ⟨inside.value, others, by
          have := inside.shorter
          rw [h] at this
          simp only [List.length_cons] at this ⊢
          omega⟩
      else .error (faultAt source.length .rightParen (close :: others))
  | .name =>
    match rest with
    | [] => .ok ⟨.field t.text, [], Nat.lt_succ_self _⟩
    | next :: others =>
      if next.kind = .leftParen then do
        let c ← call source t next.pos others
        return ⟨c.value, c.rest, Nat.lt_succ_of_le (Nat.le_of_lt (Nat.lt_succ_of_lt c.shorter))⟩
      else do
        let last ← lastName source.length t (next :: others)
        return ⟨.field (String.ofList (slice source t.pos last.value.stop)), last.rest,
          Nat.lt_succ_of_le last.noLonger⟩
  | _ => .error (faultAt source.length .operand (t :: rest))
termination_by (rest.length + 1, 1)
decreasing_by
  · exact Prod.Lex.left _ _ (Nat.lt_succ_self _)
  · exact Prod.Lex.left _ _ (by simp only [List.length_cons]; omega)

/-- The rest of a call of the function `name`, after its opening parenthesis. -/
def call (source : List Char) (name : Token) (openPos : Nat) (ts : List Token) :
    Except ExprFault (Reading Expr ts) :=
  match (if name.upper = "COUNT" then starArgument? source ts else none) with
  | some star => star
  | none =>
    match Aggregate.ofName? name.upper with
    | some func =>
      match plainField? source ts with
      | some r => .ok ⟨.aggregate func r.value.1 r.value.2, r.rest, r.shorter⟩
      | none => do
        let head := dropDistinct ts
        let given ← arguments source head.rest
        let e ← callOf source name openPos head.value given.value
        return ⟨e, given.rest, Nat.lt_of_lt_of_le given.shorter head.noLonger⟩
    | none =>
      if isCallable name.upper then do
        let given ← arguments source ts
        let e ← callOf source name openPos false given.value
        return ⟨e, given.rest, given.shorter⟩
      else .error (.unsupportedFunction name.text)
termination_by (ts.length, 6)
decreasing_by
  · have := (dropDistinct ts).noLonger
    rcases Nat.lt_or_eq_of_le this with h | h
    · exact Prod.Lex.left _ _ h
    · rw [h]; exact Prod.Lex.right _ (by omega)
  · exact Prod.Lex.right _ (by omega)

/-- The arguments of a call up to its closing parenthesis. -/
def arguments (source : List Char) (ts : List Token) :
    Except ExprFault (Reading Arguments ts) :=
  match ts with
  | [] => .error (faultAt source.length .operand [])
  | t :: rest =>
    if t.kind = .rightParen then .ok ⟨⟨[], t.pos⟩, rest, Nat.lt_succ_self _⟩
    else do
      let first ← expression source (t :: rest)
      let more ← argumentTail source first.rest
      return ⟨⟨first.value :: more.value.args, more.value.closePos⟩, more.rest,
        Nat.lt_trans more.shorter first.shorter⟩
termination_by (ts.length, 5)
decreasing_by
  · exact Prod.Lex.right _ (by omega)
  · exact Prod.Lex.left _ _ first.shorter

/-- The further arguments of a call, each after a comma, up to the closing parenthesis. -/
def argumentTail (source : List Char) (ts : List Token) :
    Except ExprFault (Reading Arguments ts) :=
  match ts with
  | [] => .error (faultAt source.length .rightParen [])
  | t :: rest =>
    if t.kind = .rightParen then .ok ⟨⟨[], t.pos⟩, rest, Nat.lt_succ_self _⟩
    else if t.kind = .comma then do
      let next ← expression source rest
      let more ← argumentTail source next.rest
      return ⟨⟨next.value :: more.value.args, more.value.closePos⟩, more.rest,
        Nat.lt_trans more.shorter (Nat.lt_succ_of_lt next.shorter)⟩
    else .error (faultAt source.length .rightParen (t :: rest))
termination_by (ts.length, 0)
decreasing_by
  · exact Prod.Lex.left _ _ (Nat.lt_succ_self _)
  · exact Prod.Lex.left _ _ (Nat.lt_succ_of_lt next.shorter)

end

/-- The parentheses of a text match, when `depth` of them are open before it. -/
def isBalancedFrom (depth : Nat) : List Char → Bool
  | [] => depth = 0
  | c :: cs =>
    if c = '(' then isBalancedFrom (depth + 1) cs
    else if c = ')' then
      match depth with
      | 0 => false
      | depth + 1 => isBalancedFrom depth cs
    else isBalancedFrom depth cs

/-- Every parenthesis of the text has its partner, wherever it stands. -/
def isBalanced (cs : List Char) : Bool := isBalancedFrom 0 cs

/-- The expression that a stripped text spells. -/
def parseChars (source : List Char) : Except ExprFault Expr := do
  let ts ← Lexer.tokens source
  let r ← expression source ts
  match r.rest with
  | [] => return r.value
  | t :: rest => throw (faultAt source.length .finish (t :: rest))

end MetricLayer.Parser

namespace MetricLayer

/-- The parentheses of a text match. -/
def requireBalanced (text : String) : Except ExprFault Unit :=
  if Parser.isBalanced text.toList then .ok () else .error .unbalanced

/-- The expression that a text spells. -/
def Expr.parse (text : String) : Except ExprFault Expr := do
  if Text.isBlankText text then throw .blank
  requireBalanced text
  Parser.parseChars (Text.stripBlanks text.toList)

end MetricLayer
