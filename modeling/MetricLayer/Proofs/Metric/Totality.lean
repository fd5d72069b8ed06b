import MetricLayer.Proofs.Expr.CursorReading

/-!
# Compiling stays within the text

`Cursor.compile` reads a text by positions in its characters and by indices into its tokens, and it
stops when one of them is past the end.  That never happens: it does what `Compiled.ofText` does,
and what it reads on the way does what the reader of the token list does
(`compiling_within_bounds`).  So a text is compiled, or it is refused for a fault of the expression.
This is about texts and not about the machine that reads them: no limit on the depth of a recursion
is modelled, and none on the digits of an integer that is written out (`Number.integerText`).

A loop of the reader goes on in rounds (`Rounds`), and what is shown of a loop is that each of its
rounds passes a token, and that it is refused or ends before the end mark or at it.
-/

namespace MetricLayer

open MetricLayer.Parser MetricLayer.Text

namespace Cursor

variable {α β : Type} {low i : Nat} {source : List Char} {ts : List Token}

theorem orRefused_bind (o : Except ExprFault α) (f : α → Except ExprFault β) :
    orRefused (o >>= f) = orRefused o >>= fun a => orRefused (f a) := by
  cases o <;> rfl

theorem orRefused_ok (a : α) : orRefused (.ok a : Except ExprFault α) = .ok a := rfl

/-! ## Tokens -/

/-- The tokens from a position on are those of the text ahead of it. -/
theorem tokensFrom_eq (cs : List Char) (pos : Nat) :
    tokensFrom cs pos = orRefused (Lexer.tokensFrom pos (cs.drop pos)) := by
  rw [tokensFrom]
  split
  · next hlt =>
    rw [List.drop_eq_getElem_cons hlt, Lexer.tokensFrom]
    cases hlength : Lexer.lexemeLength? cs[pos] (cs.drop (pos + 1)) with
    | none => rfl
    | some lexeme =>
      obtain ⟨kind?, more⟩ := lexeme
      have hmore := Lexer.lexemeLength?_le hlength
      rw [List.length_drop] at hmore
      have hin : pos + 1 + more ≤ cs.length := by omega
      have hchars : slice cs pos (pos + 1 + more) = cs[pos] :: (cs.drop (pos + 1)).take more := by
        rw [slice, List.drop_take, List.drop_eq_getElem_cons hlt,
          show pos + 1 + more - pos = more + 1 by omega, List.take_succ_cons]
      dsimp only
      rw [if_pos hin, tokensFrom_eq, orRefused_bind, List.drop_drop, hchars]
      cases kind? <;> rfl
  · next hge =>
    rw [List.drop_eq_nil_of_le (Nat.le_of_not_lt hge), Lexer.tokensFrom]
    rfl
termination_by cs.length - pos

theorem tokens_eq (cs : List Char) : tokens cs = orRefused (Lexer.tokens cs) :=
  tokensFrom_eq cs 0

/-! ## Texts -/

theorem parseChars_eq (source : List Char) :
    parseChars source = orRefused (Parser.parseChars source) := by
  unfold parseChars Parser.parseChars
  rw [tokens_eq, orRefused_bind]
  cases htokens : Lexer.tokens source with
  | error fault => rfl
  | ok ts =>
    have hfollows : Follows ts Reading.value Reading.rest (expression source ts 0)
        (Parser.expression source ts) :=
      expression_follows (tokens_slice htokens) (Nat.zero_le _) List.drop_zero.symm
    rw [orRefused_ok, ok_bind, ok_bind, orRefused_bind]
    generalize expression source ts 0 = x at hfollows ⊢
    generalize Parser.expression source ts = y at hfollows ⊢
    cases hfollows with
    | refused fault => rfl
    | @read whole b h =>
      obtain ⟨hvalue, hnext, hleft⟩ := h
      rw [ok_bind, look_eq hnext hleft, ok_bind, orRefused_ok, ok_bind]
      cases hrest : b.rest with
      | nil => rw [hvalue]; rfl
      | cons t rest => rfl

theorem parse_eq (text : String) : parse text = orRefused (Expr.parse text) := by
  unfold parse Expr.parse
  cases isBlankText text with
  | true => rfl
  | false =>
    cases requireBalanced text with
    | error fault => rfl
    | ok => exact parseChars_eq _

theorem compile_eq (text : String) : compile text = orRefused (Compiled.ofText text) := by
  unfold compile Compiled.ofText
  rw [parse_eq, orRefused_bind]
  refine congrArg _ (funext fun e => ?_)
  dsimp only
  cases Compiled.leadingTimeCall? (strip text).toList <;> rfl

/-! ## Readings within the tokens -/

/-- The reading is refused, or it comes to an index from `low` up to the end mark. -/
def Within (ts : List Token) (x : Except Stop (Read α low)) : Prop :=
  (∃ fault, x = .error (.refused fault)) ∨ ∃ r, x = .ok r ∧ low ≤ r.next ∧ r.next ≤ ts.length

theorem Follows.within {value : β → α} {left : β → List Token} {x : Except Stop (Read α low)}
    {y : Except ExprFault β} (h : Follows ts value left x y) : Within ts x := by
  cases h with
  | refused fault => exact .inl ⟨fault, rfl⟩
  | @read r b h => exact .inr ⟨r, rfl, r.reached, h.2.1⟩

/-! ## The rounds of loops -/

/-- The index that a reading comes to. -/
def ending (x : Except Stop (Read α low)) : Except Stop Nat := x.map Read.next

/-- What a loop does from an index on.  It is refused, or it ends after `closing` tokens, or it goes
on from a later index after one of its rounds. -/
inductive Rounds {σ : Type} (ts : List Token) (closing : Nat) (round : σ → Nat → σ → Nat → Prop)
    (loop : σ → Nat → Except Stop Nat) : σ → Nat → Prop
  | refused {s : σ} {i : Nat} (fault : ExprFault) (h : loop s i = .error (.refused fault)) :
      Rounds ts closing round loop s i
  | ends {s : σ} {i : Nat} (hin : i + closing ≤ ts.length) (h : loop s i = .ok (i + closing)) :
      Rounds ts closing round loop s i
  | goesOn {s s' : σ} {i j : Nat} (hround : round s i s' j) (hlt : i < j)
      (hrest : Rounds ts closing round loop s' j) (h : loop s i = loop s' j) :
      Rounds ts closing round loop s i

/-- A round of a loop over operands passes an operator and an operand. -/
def OperandRound (ts : List Token) (operator? : Token → Option Operator)
    (operand : (j : Nat) → Except Stop (Read Expr (j + 1))) (left : Expr) (i : Nat) (left' : Expr)
    (j : Nat) : Prop :=
  ∃ op right, ts[i]?.bind operator? = some op ∧ operand (i + 1) = .ok right
    ∧ left' = .binary op left right.value ∧ j = right.next

/-- A round of the loop over names passes a name. -/
def NameRound (ts : List Token) (_ : Token) (i : Nat) (t : Token) (j : Nat) : Prop :=
  ts[i]? = some t ∧ t.kind = .name ∧ j = i + 1

/-- A round of the look-ahead passes a token that is no parenthesis and no comma. -/
def ScanRound (ts : List Token) (_ : Unit) (i : Nat) (_ : Unit) (j : Nat) : Prop :=
  ∃ t, ts[i]? = some t ∧ t.isDelimiter = false ∧ j = i + 1

/-- A round of the loop over arguments passes a comma and an expression. -/
def ArgumentRound (source : List Char) (ts : List Token) (_ : Unit) (i : Nat) (_ : Unit) (j : Nat) :
    Prop :=
  ∃ next, isKind .comma ts[i]? = true ∧ expression source ts (i + 1) = .ok next ∧ j = next.next

theorem getElem?_of_drop {t : Token} {tail : List Token} (h : ts.drop i = t :: tail) :
    ts[i]? = some t := by
  rw [← List.head?_drop, h, List.head?_cons]

theorem ending_bind {low' : Nat} (x : Except Stop (Read α low)) {f : Read α low → Read β low'}
    (h : ∀ r, (f r).next = r.next) : ending (x >>= fun r => return f r) = ending x := by
  cases x with
  | error stop => rfl
  | ok r => exact congrArg Except.ok (h r)

/-- A loop over operators and operands: every round passes an operator and an operand. -/
theorem operatorLoop_rounds (operator? : Token → Option Operator)
    {operand : (j : Nat) → Except Stop (Read Expr (j + 1))}
    {loop : Expr → (j : Nat) → Except Stop (Read Expr j)}
    (hloop : ∀ left i, loop left i = do
      let ⟨here, _⟩ ← look ts i
      match here.bind operator? with
      | none => return ⟨left, i, Nat.le_refl _⟩
      | some op => do
        let right ← operand (i + 1)
        let whole ← loop (.binary op left right.value) right.next
        return ⟨whole.value, whole.next,
          Nat.le_of_succ_le (Nat.le_of_succ_le (Nat.le_trans right.reached whole.reached))⟩)
    (hoperand : ∀ j ≤ ts.length, Within ts (operand j)) (left : Expr) {i : Nat}
    (hi : i ≤ ts.length) :
    Rounds ts 0 (OperandRound ts operator? operand) (fun left j => ending (loop left j)) left i := by
  rcases look_cases hi rfl with ⟨-, hlook, -⟩ | ⟨t, tail, hcons, -, hin, -, hlook, -⟩
  · refine .ends hi ?_
    rw [hloop, hlook]
    rfl
  · have hround := hloop left i
    rw [hlook, ok_bind] at hround
    dsimp only [Option.bind_some] at hround
    cases hop : operator? t with
    | none =>
      rw [hop] at hround
      exact .ends hi (congrArg ending hround)
    | some op =>
      rw [hop] at hround
      rcases hoperand (i + 1) hin with ⟨fault, hfault⟩ | ⟨right, hright, hlow, hhigh⟩
      · rw [hfault] at hround
        exact .refused fault (congrArg ending hround)
      · have hrest :=
          operatorLoop_rounds operator? hloop hoperand (.binary op left right.value) hhigh
        have hread : ts[i]?.bind operator? = some op := by rw [getElem?_of_drop hcons, ← hop]; rfl
        refine .goesOn ⟨op, right, hread, hright, rfl, rfl⟩ (by omega) hrest ?_
        rw [hright] at hround
        exact (congrArg ending hround).trans (ending_bind _ fun _ => rfl)
termination_by ts.length + 1 - i

theorem names_rounds (source : List Char) (last : Token) {i : Nat} (hi : i ≤ ts.length) :
    Rounds ts 0 (NameRound ts) (fun last j => ending (names source ts last j)) last i := by
  rcases look_cases hi rfl with ⟨-, hlook, -⟩ | ⟨t, tail, hcons, -, hin, -, hlook, hpeek⟩
  · refine .ends hi ?_
    rw [names, hlook]
    rfl
  · by_cases ht : t.kind = .name
    · by_cases hparen : isKind .leftParen tail.head? = true
      · refine .refused (faultAt source.length .noCallAfterField [t]) ?_
        rw [names, hlook, ok_bind]
        dsimp only
        rw [if_pos ht, hpeek, ok_bind, if_pos hparen]
        rfl
      · have hround : NameRound ts last i t (i + 1) := ⟨getElem?_of_drop hcons, ht, rfl⟩
        refine .goesOn hround (Nat.lt_succ_self i) (names_rounds source t hin) ?_
        rw [names, hlook, ok_bind]
        dsimp only
        rw [if_pos ht, hpeek, ok_bind, if_neg hparen]
        exact ending_bind _ fun _ => rfl
    · refine .ends hi ?_
      rw [names, hlook, ok_bind]
      dsimp only
      rw [if_neg ht]
      rfl
termination_by ts.length + 1 - i

theorem scan_rounds {i : Nat} (hi : i ≤ ts.length) :
    Rounds ts 0 (ScanRound ts) (fun _ j => ending (scan ts j)) () i := by
  rcases look_cases hi rfl with ⟨-, hlook, -⟩ | ⟨t, tail, hcons, -, hin, -, hlook, -⟩
  · refine .ends hi ?_
    rw [scan, hlook]
    rfl
  · by_cases ht : t.isDelimiter = true
    · refine .ends hi ?_
      rw [scan, hlook, ok_bind]
      dsimp only
      rw [if_pos ht]
      rfl
    · have hround : ScanRound ts () i () (i + 1) :=
        ⟨t, getElem?_of_drop hcons, Bool.eq_false_iff.2 ht, rfl⟩
      refine .goesOn hround (Nat.lt_succ_self i) (scan_rounds hin) ?_
      rw [scan, hlook, ok_bind]
      dsimp only
      rw [if_neg ht]
      exact ending_bind _ fun _ => rfl
termination_by ts.length + 1 - i

theorem argumentLoop_rounds (hp : InPlace source ts) {i : Nat} (hi : i ≤ ts.length) :
    Rounds ts 1 (ArgumentRound source ts) (fun _ j => ending (argumentLoop source ts j)) () i := by
  by_cases hcomma : isKind .comma (ts.drop i).head? = true
  · have hin : i + 1 ≤ ts.length := by
      rcases look_cases hi rfl with ⟨hnil, -, -⟩ | ⟨t, tail, -, -, hin, -, -, -⟩
      · rw [hnil] at hcomma
        cases hcomma
      · exact hin
    rcases (expression_follows hp hin rfl).within with ⟨fault, hfault⟩ | ⟨next, hnext, hlow, hhigh⟩
    · refine .refused fault ?_
      rw [argumentLoop, look_eq hi rfl, ok_bind]
      dsimp only
      rw [if_pos hcomma, hfault]
      rfl
    · have hround : ArgumentRound source ts () i () next.next :=
        ⟨next, by rw [← List.head?_drop, hcomma], hnext, rfl⟩
      refine .goesOn hround (by omega) (argumentLoop_rounds hp hhigh) ?_
      rw [argumentLoop, look_eq hi rfl, ok_bind]
      dsimp only
      rw [if_pos hcomma, hnext, ok_bind]
      exact ending_bind _ fun _ => rfl
  · rcases close_cases source hi rfl with ⟨right, tail, -, -, -, hnext, hclose⟩ | ⟨-, hclose⟩
    · refine .ends hnext ?_
      rw [argumentLoop, look_eq hi rfl, ok_bind]
      dsimp only
      rw [if_neg hcomma, hclose]
      rfl
    · refine .refused (faultAt source.length .rightParen (ts.drop i)) ?_
      rw [argumentLoop, look_eq hi rfl, ok_bind]
      dsimp only
      rw [if_neg hcomma, hclose]
      rfl
termination_by ts.length + 1 - i

/-! ## Every part of a reading -/

/-- From the index on, every production passes a token or more, every round of a loop passes one
too, and none of them gets beyond the end mark. -/
structure StaysWithin (source : List Char) (ts : List Token) (i : Nat) : Prop where
  /-- Sums. -/
  expression : Within ts (expression source ts i)
  /-- The summands after the first. -/
  sumLoop : ∀ left, Rounds ts 0 (OperandRound ts sumOperator? (product source ts))
    (fun left j => ending (sumLoop source ts left j)) left i
  /-- Products. -/
  product : Within ts (product source ts i)
  /-- The factors after the first. -/
  productLoop : ∀ left, Rounds ts 0 (OperandRound ts productOperator? (signed source ts))
    (fun left j => ending (productLoop source ts left j)) left i
  /-- Operands with a sign. -/
  signed : Within ts (signed source ts i)
  /-- Operands without a sign. -/
  primary : Within ts (primary source ts i)
  /-- The names after the first name of a field. -/
  names : ∀ last, Rounds ts 0 (NameRound ts) (fun last j => ending (names source ts last j)) last i
  /-- The rest of a call. -/
  call : ∀ name openPos, Within ts (call source ts name openPos i)
  /-- The look-ahead of an aggregate. -/
  scan : Rounds ts 0 (ScanRound ts) (fun _ j => ending (scan ts j)) () i
  /-- The plain argument of an aggregate, if it has one. -/
  bareField : ∃ bare, bareField source ts i = .ok bare ∧ ∀ r ∈ bare, i + 1 ≤ r.next
    ∧ r.next ≤ ts.length
  /-- The arguments of a call. -/
  arguments : Within ts (arguments source ts i)
  /-- The arguments after the first, and the closing parenthesis. -/
  argumentLoop : Rounds ts 1 (ArgumentRound source ts)
    (fun _ j => ending (argumentLoop source ts j)) () i

theorem primary_within (hp : InPlace source ts) (hi : i ≤ ts.length) :
    Within ts (primary source ts i) := by
  rcases look_cases hi rfl with ⟨-, hlook, -⟩ | ⟨t, tail, hcons, -, -, -, -, -⟩
  · rw [primary, hlook]
    exact .inl ⟨_, rfl⟩
  · exact (primary_follows hp hi hcons.symm).within

theorem bareField_within (source : List Char) (hi : i ≤ ts.length) :
    ∃ bare, bareField source ts i = .ok bare ∧ ∀ r ∈ bare, i + 1 ≤ r.next
      ∧ r.next ≤ ts.length := by
  obtain ⟨bare, hbare, hrel⟩ := bareField_follows source hi rfl
  refine ⟨bare, hbare, fun r hr => ⟨r.reached, ?_⟩⟩
  generalize plainField? source (ts.drop i) = plain at hrel
  cases hrel with
  | none => cases hr
  | some h =>
    cases hr
    exact h.2.1

theorem staysWithin (hp : InPlace source ts) (hi : i ≤ ts.length) : StaysWithin source ts i where
  expression := (expression_follows hp hi rfl).within
  sumLoop left := operatorLoop_rounds sumOperator? (sumLoop.eq_1 source ts)
    (fun _ hj => (product_follows hp hj rfl).within) left hi
  product := (product_follows hp hi rfl).within
  productLoop left := operatorLoop_rounds productOperator? (productLoop.eq_1 source ts)
    (fun _ hj => (signed_follows hp hj rfl).within) left hi
  signed := (signed_follows hp hi rfl).within
  primary := primary_within hp hi
  names last := names_rounds source last hi
  call name openPos := (call_follows hp name openPos hi rfl).within
  scan := scan_rounds hi
  bareField := bareField_within source hi
  arguments := (arguments_follows hp hi rfl).within
  argumentLoop := argumentLoop_rounds hp hi

end Cursor

/-- **A text is compiled or refused.**  Reading its characters by their positions and its tokens by
their indices gives what the reader of the token list gives, for the tokens, the expression and the
compiled form: so every text has a result or is refused, and nothing past the end is ever looked at.
On the way each production and each round of a loop, wherever in the tokens it starts, passes at
least one token and not the end mark. -/
theorem compiling_within_bounds (text : String) :
    Cursor.tokens text.toList = (Lexer.tokens text.toList).mapError .refused
    ∧ Cursor.parse text = (Expr.parse text).mapError .refused
    ∧ Cursor.compile text = (Compiled.ofText text).mapError .refused
    ∧ ∀ ts, Lexer.tokens (stripBlanks text.toList) = .ok ts → ∀ i ≤ ts.length,
      Cursor.StaysWithin (stripBlanks text.toList) ts i :=
  ⟨Cursor.tokens_eq _, Cursor.parse_eq _, Cursor.compile_eq _,
    fun _ hts _ hi => Cursor.staysWithin (tokens_slice hts) hi⟩

end MetricLayer
