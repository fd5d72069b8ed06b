import MetricLayer.Metric.Compile

/-!
# Reading expressions with a cursor

The reader of expressions once more, on one token list and an index into it.  The index after the
last token is that of the end mark, and there is nothing to be read beyond it: every token is looked
at by `look`, which stops the reading when the index is past the end mark.  So a reading can stop in
two ways, because the expression is refused or because of such an index (`Stop`).

A production passes at least one token, and a loop goes back none (`Read.reached`).  The recursion
is well-founded on the tokens ahead of the cursor because a token was looked at, and passed, between
a production and the same production within it.

The depth of the recursion has no limit of its own: an expression may be nested as deeply as its
tokens allow.
-/

namespace MetricLayer

/-- Why a reading stops without a result. -/
inductive Stop where
  /-- The expression is refused. -/
  | refused (fault : ExprFault)
  /-- Something was to be read at an index past the end. -/
  | pastEnd (index : Nat)
  deriving DecidableEq, Repr

namespace Cursor

open MetricLayer.Parser MetricLayer.Text

variable {α : Type}

/-- What is read, and the index after it, which is not before `low`. -/
structure Read (α : Type) (low : Nat) where
  /-- What was read. -/
  value : α
  /-- The index of the token after it. -/
  next : Nat
  /-- The cursor has reached `low`. -/
  reached : low ≤ next

/-- The token at an index that is not past the end mark. -/
structure Look (ts : List Token) (i : Nat) where
  /-- The token, or nothing at the end mark. -/
  token : Option Token
  /-- The index is not past the end mark. -/
  inside : i ≤ ts.length

/-- Looks at the token at an index. -/
def look (ts : List Token) (i : Nat) : Except Stop (Look ts i) :=
  if h : i ≤ ts.length then .ok ⟨ts[i]?, h⟩ else .error (.pastEnd i)

/-- Looks at the token after the one at the index, or again at the end mark. -/
def peek (ts : List Token) (i : Nat) : Except Stop (Option Token) := do
  let there ← look ts (min (i + 1) ts.length)
  return there.token

/-- The token is there and of the kind. -/
def isKind (kind : TokenKind) (token : Option Token) : Bool := token.any (·.kind = kind)

/-- What is refused does not stop for anything else. -/
def orRefused (o : Except ExprFault α) : Except Stop α := o.mapError .refused

/-- Refuses the token that was found. -/
def refuse (source : List Char) (wanted : Expectation) (found : Option Token) : Except Stop α :=
  .error (.refused (faultAt source.length wanted found.toList))

/-- Passes a closing parenthesis. -/
def close (source : List Char) (ts : List Token) (i : Nat) : Except Stop (Read Token (i + 1)) := do
  let ⟨here, _⟩ ← look ts i
  match here with
  | none => refuse source .rightParen none
  | some t =>
    if t.kind = .rightParen then return ⟨t, i + 1, Nat.le_refl _⟩
    else refuse source .rightParen (some t)

/-- Passes the names after the name `last` and gives the last one. -/
def names (source : List Char) (ts : List Token) (last : Token) (i : Nat) :
    Except Stop (Read Token i) := do
  let ⟨here, _⟩ ← look ts i
  match here with
  | none => return ⟨last, i, Nat.le_refl _⟩
  | some t =>
    if t.kind = .name then do
      let after ← peek ts i
      if isKind .leftParen after then refuse source .noCallAfterField (some t)
      else do
        let more ← names source ts t (i + 1)
        return ⟨more.value, more.next, Nat.le_of_succ_le more.reached⟩
    else return ⟨last, i, Nat.le_refl _⟩
termination_by ts.length + 1 - i
decreasing_by
  omega

/-- Looks ahead to the next parenthesis or comma, or to the end mark. -/
def scan (ts : List Token) (i : Nat) : Except Stop (Read (Option Token) i) := do
  let ⟨here, _⟩ ← look ts i
  match here with
  | none => return ⟨none, i, Nat.le_refl _⟩
  | some t =>
    if t.isDelimiter then return ⟨some t, i, Nat.le_refl _⟩
    else do
      let found ← scan ts (i + 1)
      return ⟨found.value, found.next, Nat.le_of_succ_le found.reached⟩
termination_by ts.length + 1 - i
decreasing_by
  omega

/-- Passes plain text that names a field and the parenthesis after it, if the tokens from the index
on are that. -/
def plainArgument (source : List Char) (ts : List Token) (distinct : Bool) (i : Nat) :
    Except Stop (Option (Read (Expr × Bool) (i + 1))) := do
  let found ← scan ts i
  match found.value with
  | none => return none
  | some stop =>
    let plain := (ts.take found.next).drop i
    if stop.kind = .rightParen && arePlain plain then
      return some ⟨(fieldOf source stop.pos plain, distinct), found.next + 1,
        Nat.succ_le_succ found.reached⟩
    else return none

/-- Passes a plain argument with an optional DISTINCT before it. -/
def bareField (source : List Char) (ts : List Token) (i : Nat) :
    Except Stop (Option (Read (Expr × Bool) (i + 1))) := do
  let ⟨here, _⟩ ← look ts i
  let after ← peek ts i
  if here.any (·.isDistinct) && !(isKind .rightParen after || isKind .operator after) then do
    let bare ← plainArgument source ts true (i + 1)
    return bare.map fun r => ⟨r.value, r.next, Nat.le_of_succ_le r.reached⟩
  else plainArgument source ts false i

/-- Passes a DISTINCT that a name follows. -/
def distinctMark (ts : List Token) (i : Nat) : Except Stop (Read Bool i) := do
  let ⟨here, _⟩ ← look ts i
  let after ← peek ts i
  if here.any (·.isDistinct) && (isKind .name after || isKind .quotedName after) then
    return ⟨true, i + 1, Nat.le_succ _⟩
  else return ⟨false, i, Nat.le_refl _⟩

mutual

/-- A sum of products. -/
def expression (source : List Char) (ts : List Token) (i : Nat) :
    Except Stop (Read Expr (i + 1)) := do
  let first ← product source ts i
  let whole ← sumLoop source ts first.value first.next
  return ⟨whole.value, whole.next, Nat.le_trans first.reached whole.reached⟩
termination_by (ts.length + 1 - i, 4)
decreasing_by
  · exact Prod.Lex.right _ (by decide)
  · have := first.reached
    rw [Prod.lex_def]
    omega

/-- The further summands after `left`. -/
def sumLoop (source : List Char) (ts : List Token) (left : Expr) (i : Nat) :
    Except Stop (Read Expr i) := do
  let ⟨here, _⟩ ← look ts i
  match here.bind sumOperator? with
  | none => return ⟨left, i, Nat.le_refl _⟩
  | some op => do
    let right ← product source ts (i + 1)
    let whole ← sumLoop source ts (.binary op left right.value) right.next
    return ⟨whole.value, whole.next,
      Nat.le_of_succ_le (Nat.le_of_succ_le (Nat.le_trans right.reached whole.reached))⟩
termination_by (ts.length + 1 - i, 0)
decreasing_by
  · rw [Prod.lex_def]
    omega
  · have := right.reached
    rw [Prod.lex_def]
    omega

/-- A product of signed operands. -/
def product (source : List Char) (ts : List Token) (i : Nat) :
    Except Stop (Read Expr (i + 1)) := do
  let first ← signed source ts i
  let whole ← productLoop source ts first.value first.next
  return ⟨whole.value, whole.next, Nat.le_trans first.reached whole.reached⟩
termination_by (ts.length + 1 - i, 3)
decreasing_by
  · exact Prod.Lex.right _ (by decide)
  · have := first.reached
    rw [Prod.lex_def]
    omega

/-- The further factors after `left`. -/
def productLoop (source : List Char) (ts : List Token) (left : Expr) (i : Nat) :
    Except Stop (Read Expr i) := do
  let ⟨here, _⟩ ← look ts i
  match here.bind productOperator? with
  | none => return ⟨left, i, Nat.le_refl _⟩
  | some op => do
    let right ← signed source ts (i + 1)
    let whole ← productLoop source ts (.binary op left right.value) right.next
    return ⟨whole.value, whole.next,
      Nat.le_of_succ_le (Nat.le_of_succ_le (Nat.le_trans right.reached whole.reached))⟩
termination_by (ts.length + 1 - i, 0)
decreasing_by
  · rw [Prod.lex_def]
    omega
  · have := right.reached
    rw [Prod.lex_def]
    omega

/-- An operand with any number of leading minus signs. -/
def signed (source : List Char) (ts : List Token) (i : Nat) :
    Except Stop (Read Expr (i + 1)) := do
  let ⟨here, _⟩ ← look ts i
  if here.any (·.isOperator '-') then do
    let operand ← signed source ts (i + 1)
    return ⟨.negate operand.value, operand.next, Nat.le_of_succ_le operand.reached⟩
  else primary source ts i
termination_by (ts.length + 1 - i, 2)
decreasing_by
  · rw [Prod.lex_def]
    omega
  · exact Prod.Lex.right _ (by decide)

/-- A literal, a field, a call or an expression in parentheses. -/
def primary (source : List Char) (ts : List Token) (i : Nat) :
    Except Stop (Read Expr (i + 1)) := do
  let ⟨here, _⟩ ← look ts i
  match here with
  | none => refuse source .operand none
  | some t =>
    match t.kind with
    | .number => return ⟨.number t.text, i + 1, Nat.le_refl _⟩
    | .string => return ⟨.string (unquotedText t), i + 1, Nat.le_refl _⟩
    | .quotedName => return ⟨.field (unquotedName t), i + 1, Nat.le_refl _⟩
    | .leftParen => do
      let inside ← expression source ts (i + 1)
      let right ← close source ts inside.next
      return ⟨inside.value, right.next,
        Nat.le_of_succ_le (Nat.le_trans inside.reached (Nat.le_of_succ_le right.reached))⟩
    | .name => do
      let after ← peek ts i
      match after.filter (·.kind = .leftParen) with
      | some left => do
        let whole ← call source ts t left.pos (i + 2)
        return ⟨whole.value, whole.next,
          Nat.le_of_succ_le (Nat.le_of_succ_le whole.reached)⟩
      | none => do
        let last ← names source ts t (i + 1)
        return ⟨.field (String.ofList (slice source t.pos last.value.stop)), last.next,
          last.reached⟩
    | _ => refuse source .operand (some t)
termination_by (ts.length + 1 - i, 1)
decreasing_by
  all_goals
    rw [Prod.lex_def]
    omega

/-- The rest of a call of the function `name`, after its opening parenthesis. -/
def call (source : List Char) (ts : List Token) (name : Token) (openPos : Nat) (i : Nat) :
    Except Stop (Read Expr (i + 1)) := do
  let ⟨here, _⟩ ← look ts i
  if name.upper = "COUNT" && here.any (·.isOperator '*') then do
    let right ← close source ts (i + 1)
    return ⟨.aggregate .count .star false, right.next, Nat.le_of_succ_le right.reached⟩
  else
    match Aggregate.ofName? name.upper with
    | some func => do
      let bare ← bareField source ts i
      match bare with
      | some r => return ⟨.aggregate func r.value.1 r.value.2, r.next, r.reached⟩
      | none => do
        let head ← distinctMark ts i
        let given ← arguments source ts head.next
        let e ← orRefused (callOf source name openPos head.value given.value)
        return ⟨e, given.next, Nat.le_trans (Nat.succ_le_succ head.reached) given.reached⟩
    | none =>
      if isCallable name.upper then do
        let given ← arguments source ts i
        let e ← orRefused (callOf source name openPos false given.value)
        return ⟨e, given.next, given.reached⟩
      else .error (.refused (.unsupportedFunction name.text))
termination_by (ts.length + 1 - i, 6)
decreasing_by
  · have := head.reached
    rw [Prod.lex_def]
    omega
  · exact Prod.Lex.right _ (by decide)

/-- The arguments of a call up to its closing parenthesis. -/
def arguments (source : List Char) (ts : List Token) (i : Nat) :
    Except Stop (Read Arguments (i + 1)) := do
  let ⟨here, _⟩ ← look ts i
  if isKind .rightParen here then do
    let right ← close source ts i
    return ⟨⟨[], right.value.pos⟩, right.next, right.reached⟩
  else do
    let first ← expression source ts i
    let more ← argumentLoop source ts first.next
    return ⟨⟨first.value :: more.value.args, more.value.closePos⟩, more.next,
      Nat.le_trans first.reached (Nat.le_of_succ_le more.reached)⟩
termination_by (ts.length + 1 - i, 5)
decreasing_by
  · exact Prod.Lex.right _ (by decide)
  · have := first.reached
    rw [Prod.lex_def]
    omega

/-- The further arguments of a call, each after a comma, up to the closing parenthesis. -/
def argumentLoop (source : List Char) (ts : List Token) (i : Nat) :
    Except Stop (Read Arguments (i + 1)) := do
  let ⟨here, _⟩ ← look ts i
  if isKind .comma here then do
    let next ← expression source ts (i + 1)
    let more ← argumentLoop source ts next.next
    return ⟨⟨next.value :: more.value.args, more.value.closePos⟩, more.next,
      Nat.le_of_succ_le (Nat.le_trans next.reached (Nat.le_of_succ_le more.reached))⟩
  else do
    let right ← close source ts i
    return ⟨⟨[], right.value.pos⟩, right.next, right.reached⟩
termination_by (ts.length + 1 - i, 0)
decreasing_by
  · rw [Prod.lex_def]
    omega
  · have := next.reached
    rw [Prod.lex_def]
    omega

end

/-- The tokens of a text from a position on. -/
def tokensFrom (cs : List Char) (pos : Nat) : Except Stop (List Token) :=
  if h : pos < cs.length then
    match Lexer.lexemeLength? cs[pos] (cs.drop (pos + 1)) with
    | none => .error (.refused (.unexpectedCharacter cs[pos] pos))
    | some (kind?, more) =>
      if pos + 1 + more ≤ cs.length then do
        let rest ← tokensFrom cs (pos + 1 + more)
        match kind? with
        | none => return rest
        | some kind => return ⟨kind, slice cs pos (pos + 1 + more), pos⟩ :: rest
      else .error (.pastEnd (pos + 1 + more))
  else .ok []
termination_by cs.length - pos

/-- The tokens of a text. -/
def tokens (cs : List Char) : Except Stop (List Token) := tokensFrom cs 0

/-- The expression that a stripped text spells. -/
def parseChars (source : List Char) : Except Stop Expr := do
  let ts ← tokens source
  let whole ← expression source ts 0
  let here ← look ts whole.next
  match here.token with
  | none => return whole.value
  | some t => refuse source .finish (some t)

/-- The expression that a text spells. -/
def parse (text : String) : Except Stop Expr := do
  if isBlankText text then throw (.refused .blank)
  orRefused (requireBalanced text)
  parseChars (stripBlanks text.toList)

/-- Compiles the text of an expression. -/
def compile (text : String) : Except Stop Compiled := do
  let e ← parse text
  let source := strip text
  match Compiled.leadingTimeCall? source.toList with
  | some name => orRefused (Compiled.ofTimeCall name e)
  | none => orRefused (Compiled.ofOrdinary source e)

end Cursor

end MetricLayer
