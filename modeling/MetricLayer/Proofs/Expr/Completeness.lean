import MetricLayer.Proofs.Expr.Grammar

/-!
# The reader of expressions is complete

Whatever tokens derive, the reader reads from them (`derives_isRead`), so that the reader and the
grammar agree.  Sums and products lean to the left, while the reader goes on to the right: a derived
sum is read as far as the summands that follow allow, and that is what `IsRead` says of it.

A name before a name or an opening parenthesis is read further than it was derived, so the tokens
that follow must start with neither (`EndsPrimary`).
-/

namespace MetricLayer.Parser

open MetricLayer.Text

/-! ## Results of the reader -/

variable {α : Type} {source : List Char} {ts us rest left : List Token} {e e' : Expr} {t : Token}

/-- The reading has a value and leaves tokens. -/
def Gives (x : Except ExprFault (Reading α ts)) (a : α) (rest : List Token) : Prop :=
  ∃ r, x = .ok r ∧ r.value = a ∧ r.rest = rest

/-- The continuation has a value and leaves tokens. -/
def GoesOn (x : Except ExprFault (Continuation α ts)) (a : α) (rest : List Token) : Prop :=
  ∃ c, x = .ok c ∧ c.value = a ∧ c.rest = rest

theorem expression_gives (hfirst : Gives (product source ts) e rest)
    (hmore : GoesOn (sumTail source e rest) e' left) : Gives (expression source ts) e' left := by
  obtain ⟨first, hfirst, rfl, rfl⟩ := hfirst
  obtain ⟨whole, hwhole, rfl, rfl⟩ := hmore
  rw [expression, hfirst]
  refine ⟨_, bind_eq_ok.2 ⟨first, rfl, bind_eq_ok.2 ⟨whole, hwhole, rfl⟩⟩, rfl, rfl⟩

theorem product_gives (hfirst : Gives (signed source ts) e rest)
    (hmore : GoesOn (productTail source e rest) e' left) : Gives (product source ts) e' left := by
  obtain ⟨first, hfirst, rfl, rfl⟩ := hfirst
  obtain ⟨whole, hwhole, rfl, rfl⟩ := hmore
  rw [product, hfirst]
  exact ⟨_, bind_eq_ok.2 ⟨first, rfl, bind_eq_ok.2 ⟨whole, hwhole, rfl⟩⟩, rfl, rfl⟩

theorem sumTail_goesOn {l r : Expr} {op : Operator} (hop : sumOperator? t = some op)
    (hright : Gives (product source ts) r rest)
    (hmore : GoesOn (sumTail source (.binary op l r) rest) e left) :
    GoesOn (sumTail source l (t :: ts)) e left := by
  obtain ⟨right, hright, rfl, rfl⟩ := hright
  obtain ⟨whole, hwhole, rfl, rfl⟩ := hmore
  rw [sumTail, hop]
  exact ⟨_, bind_eq_ok.2 ⟨right, hright, bind_eq_ok.2 ⟨whole, hwhole, rfl⟩⟩, rfl, rfl⟩

theorem productTail_goesOn {l r : Expr} {op : Operator} (hop : productOperator? t = some op)
    (hright : Gives (signed source ts) r rest)
    (hmore : GoesOn (productTail source (.binary op l r) rest) e left) :
    GoesOn (productTail source l (t :: ts)) e left := by
  obtain ⟨right, hright, rfl, rfl⟩ := hright
  obtain ⟨whole, hwhole, rfl, rfl⟩ := hmore
  rw [productTail, hop]
  exact ⟨_, bind_eq_ok.2 ⟨right, hright, bind_eq_ok.2 ⟨whole, hwhole, rfl⟩⟩, rfl, rfl⟩

/-- No summand follows. -/
theorem sumTail_ends (h : ∀ t ∈ rest.head?, sumOperator? t = none) :
    GoesOn (sumTail source e rest) e rest := by
  cases rest with
  | nil =>
    rw [sumTail]
    exact ⟨_, rfl, rfl, rfl⟩
  | cons t rest =>
    rw [sumTail, h t rfl]
    exact ⟨_, rfl, rfl, rfl⟩

/-- No factor follows. -/
theorem productTail_ends (h : ∀ t ∈ rest.head?, productOperator? t = none) :
    GoesOn (productTail source e rest) e rest := by
  cases rest with
  | nil =>
    rw [productTail]
    exact ⟨_, rfl, rfl, rfl⟩
  | cons t rest =>
    rw [productTail, h t rfl]
    exact ⟨_, rfl, rfl, rfl⟩

theorem signed_minus (hop : t.isOperator '-' = true) (h : Gives (signed source ts) e rest) :
    Gives (signed source (t :: ts)) (.negate e) rest := by
  obtain ⟨operand, hoperand, rfl, rfl⟩ := h
  rw [signed, if_pos hop]
  exact ⟨_, bind_eq_ok.2 ⟨operand, hoperand, rfl⟩, rfl, rfl⟩

theorem signed_primary (hkind : t.kind ≠ .operator) :
    signed source (t :: ts) = primary source t ts := by
  rw [signed, if_neg fun hop => hkind (isOperator_kind hop)]

/-! ## Where phrases end -/

/-- A name that ends here is not read any further. -/
def EndsPrimary (rest : List Token) : Prop :=
  ∀ t ∈ rest.head?, t.kind ≠ .name ∧ t.kind ≠ .leftParen

/-- A product that ends here is not read any further. -/
def EndsProduct (rest : List Token) : Prop :=
  EndsPrimary rest ∧ ∀ t ∈ rest.head?, productOperator? t = none

theorem endsPrimary_operator (ht : t.kind = .operator) (rest : List Token) :
    EndsPrimary (t :: rest) := by
  intro u hu
  cases hu
  rw [ht]
  decide

theorem operator?_eq_none (ht : t.kind ≠ .operator) :
    sumOperator? t = none ∧ productOperator? t = none := by
  have hno : ∀ c, t.isOperator c = false := by
    intro c
    rw [Token.isOperator, decide_eq_false ht, Bool.false_and]
  simp [sumOperator?, productOperator?, hno]

/-- No operator stands for a sum and for a product. -/
theorem productOperator?_of_sumOperator? {op : Operator} (h : sumOperator? t = some op) :
    productOperator? t = none := by
  have hchars : t.chars = ['+'] ∨ t.chars = ['-'] := by
    unfold sumOperator? at h
    split_ifs at h with hplus hminus
    · exact .inl (isOperator_text hplus)
    · exact .inr (isOperator_text hminus)
  rcases hchars with hchars | hchars <;> simp [productOperator?, Token.isOperator, hchars]

/-- A closing parenthesis or a comma ends every phrase. -/
theorem endsProduct_of_delimiter (ht : t.kind = .rightParen ∨ t.kind = .comma)
    (rest : List Token) : EndsProduct (t :: rest) := by
  constructor <;> intro u hu <;> cases hu
  · rcases ht with ht | ht <;> rw [ht] <;> decide
  · refine (operator?_eq_none ?_).2
    rcases ht with ht | ht <;> rw [ht] <;> decide

theorem sumTail_delimiter (ht : t.kind = .rightParen ∨ t.kind = .comma) (rest : List Token) :
    GoesOn (sumTail source e (t :: rest)) e (t :: rest) := by
  refine sumTail_ends fun u hu => ?_
  cases hu
  refine (operator?_eq_none ?_).1
  rcases ht with ht | ht <;> rw [ht] <;> decide

/-! ## What is read of a phrase -/

/-- The tokens are read as the phrase, as far as what follows them allows. -/
def IsRead (source : List Char) : Phrase → List Token → Prop
  | .sum e, ts => ∀ rest e' left, EndsProduct rest → GoesOn (sumTail source e rest) e' left →
      Gives (expression source (ts ++ rest)) e' left
  | .product e, ts => ∀ rest e' left, EndsPrimary rest →
      GoesOn (productTail source e rest) e' left → Gives (product source (ts ++ rest)) e' left
  | .signed e, ts => ∀ rest, EndsPrimary rest → Gives (signed source (ts ++ rest)) e rest
  | .primary e, ts => ∀ rest, EndsPrimary rest → Gives (signed source (ts ++ rest)) e rest
  | .arguments es, ts => ∀ right rest, right.kind = .rightParen →
      Gives (arguments source (ts ++ right :: rest)) ⟨es, right.pos⟩ rest

/-- A sum before a closing parenthesis or a comma. -/
theorem IsRead.closed (h : IsRead source (.sum e) ts) (ht : t.kind = .rightParen ∨ t.kind = .comma)
    (rest : List Token) : Gives (expression source (ts ++ t :: rest)) e (t :: rest) :=
  h _ _ _ (endsProduct_of_delimiter ht rest) (sumTail_delimiter ht rest)

/-! ## Arguments -/

theorem OpensFirst.head (h : OpensFirst ts) : ∀ t ∈ ts.head?, t.kind ≠ .rightParen := by
  intro t ht
  cases ts with
  | nil => cases ht
  | cons u ts =>
    cases ht
    cases hdelim : t.isDelimiter with
    | false => exact kind_ne_rightParen hdelim
    | true => exact h t (by rw [List.find?_cons_of_pos hdelim]; rfl)

theorem arguments_gives {es : List Expr} {pos : Nat} (hhead : ∀ t ∈ ts.head?, t.kind ≠ .rightParen)
    (hne : ts ≠ []) (hfirst : Gives (expression source ts) e rest)
    (hmore : Gives (argumentTail source rest) ⟨es, pos⟩ left) :
    Gives (arguments source ts) ⟨e :: es, pos⟩ left := by
  cases ts with
  | nil => exact absurd rfl hne
  | cons t ts =>
    obtain ⟨first, hfirst, rfl, rfl⟩ := hfirst
    obtain ⟨more, hmore, hvalue, rfl⟩ := hmore
    rw [arguments, if_neg (hhead t rfl)]
    refine ⟨_, bind_eq_ok.2 ⟨first, hfirst, bind_eq_ok.2 ⟨more, hmore, rfl⟩⟩, ?_, rfl⟩
    rw [hvalue]

theorem argumentTail_close (ht : t.kind = .rightParen) (rest : List Token) :
    Gives (argumentTail source (t :: rest)) ⟨[], t.pos⟩ rest := by
  rw [argumentTail, if_pos ht]
  exact ⟨_, rfl, rfl, rfl⟩

/-- After a comma the arguments are read as at the start. -/
theorem argumentTail_comma {a : Arguments} (ht : t.kind = .comma)
    (hhead : ∀ u ∈ ts.head?, u.kind ≠ .rightParen) (h : Gives (arguments source ts) a rest) :
    Gives (argumentTail source (t :: ts)) a rest := by
  obtain ⟨r, hr, rfl, rfl⟩ := h
  cases ts with
  | nil =>
    rw [arguments] at hr
    cases hr
  | cons u us =>
    rw [arguments, if_neg (hhead u rfl)] at hr
    obtain ⟨first, hfirst, hr⟩ := bind_eq_ok.1 hr
    obtain ⟨more, hmore, hr⟩ := bind_eq_ok.1 hr
    rw [argumentTail, if_neg (by rw [ht]; decide), if_pos ht]
    rw [← pure_eq_ok.1 hr]
    exact ⟨_, bind_eq_ok.2 ⟨first, hfirst, bind_eq_ok.2 ⟨more, hmore, rfl⟩⟩, rfl, rfl⟩

theorem isRead_lastArgument (hopens : OpensFirst ts) (hne : ts ≠ [])
    (h : IsRead source (.sum e) ts) : IsRead source (.arguments [e]) ts := by
  intro right rest hright
  have hhead : ∀ t ∈ (ts ++ right :: rest).head?, t.kind ≠ .rightParen := by
    rw [List.head?_append_of_ne_nil ts hne]
    exact hopens.head
  exact arguments_gives hhead (by simp) (h.closed (.inl hright) rest)
    (argumentTail_close hright rest)

theorem isRead_argument {es : List Expr} (hopens : OpensFirst ts) (hne : ts ≠ [])
    (hopens' : OpensFirst us) (hne' : us ≠ []) (ht : t.kind = .comma)
    (h : IsRead source (.sum e) ts) (hs : IsRead source (.arguments es) us) :
    IsRead source (.arguments (e :: es)) (ts ++ t :: us) := by
  intro right rest hright
  rw [List.append_assoc, List.cons_append]
  have hhead : ∀ {vs}, OpensFirst vs → vs ≠ [] →
      ∀ more, ∀ t ∈ (vs ++ more).head?, t.kind ≠ .rightParen := by
    intro vs hvs hvne more
    rw [List.head?_append_of_ne_nil vs hvne]
    exact hvs.head
  exact arguments_gives (hhead hopens hne _) (by simp) (h.closed (.inr ht) _)
    (argumentTail_comma ht (hhead hopens' hne' _) (hs right rest hright))

/-! ## Calls -/

/-- The tokens of a call after its opening parenthesis are read as the call. -/
def CallGives (source : List Char) (name : Token) (openPos : Nat) (e : Expr) (ts : List Token) :
    Prop :=
  ∀ rest, Gives (call source name openPos (ts ++ rest)) e rest

theorem isRead_call {name opening : Token} (hname : name.kind = .name)
    (hleft : opening.kind = .leftParen) (h : CallGives source name opening.pos e ts) :
    IsRead source (.primary e) (name :: opening :: ts) := by
  intro rest _
  obtain ⟨c, hc, hvalue, hrest⟩ := h rest
  have hkind : name.kind ≠ .operator := by
    rw [hname]
    decide
  rw [List.cons_append, List.cons_append, signed_primary hkind, primary]
  simp only [hname, hleft, if_true]
  exact ⟨_, bind_eq_ok.2 ⟨c, hc, rfl⟩, hvalue, hrest⟩

/-- No star of COUNT leads the arguments. -/
theorem starArgument?_call {name right : Token} (hstar : startsWithStar name ts = false)
    (hright : right.kind = .rightParen) (rest : List Token) :
    (if name.upper = "COUNT" then starArgument? source (ts ++ right :: rest) else none) = none := by
  split
  · next hcount =>
    rw [starArgument?_eq_none]
    cases ts with
    | nil => simp [Token.isOperator, hright]
    | cons t ts => simpa [startsWithStar, hcount] using hstar
  · rfl

theorem callGives_countStar {name star right : Token} (openPos : Nat)
    (hcount : name.upper = "COUNT") (hstar : star.isOperator '*' = true)
    (hright : right.kind = .rightParen) :
    CallGives source name openPos (.aggregate .count .star false) [star, right] := by
  intro rest
  rw [call, if_pos hcount]
  simp only [List.cons_append, List.nil_append, starArgument?, hstar, hright, if_true]
  exact ⟨_, rfl, rfl, rfl⟩

theorem callGives_plainAggregate {name right : Token} {func : Aggregate} {distinct : Bool}
    (openPos : Nat) (hfunc : Aggregate.ofName? name.upper = some func)
    (hstar : startsWithStar name ts = false) (hplain : plainPart? ts = some (distinct, us))
    (hright : right.kind = .rightParen) :
    CallGives source name openPos (.aggregate func (fieldOf source right.pos us) distinct)
      (ts ++ [right]) := by
  intro rest
  obtain ⟨r, hr, hvalue, hrest⟩ := plainField?_complete source rest hplain hright
  rw [List.append_assoc, List.singleton_append, call, starArgument?_call hstar hright]
  simp only [hfunc, hr]
  refine ⟨_, rfl, ?_, hrest⟩
  rw [hvalue]

/-- A DISTINCT closes nothing. -/
theorem opensFirst_dropDistinct (h : OpensFirst (dropDistinct ts).rest) : OpensFirst ts := by
  match ts with
  | [] | [_] => exact h
  | t :: next :: others =>
    simp only [dropDistinct] at h
    split at h
    · next hdistinct =>
      rw [Bool.and_eq_true] at hdistinct
      have hdelim := isDelimiter_of_isDistinct hdistinct.1
      exact opensFirst_cons (kind_ne_rightParen hdelim) fun _ => h
    · exact h

theorem callGives_aggregate {name right : Token} {func : Aggregate} (openPos : Nat)
    (hfunc : Aggregate.ofName? name.upper = some func) (hstar : startsWithStar name ts = false)
    (hplain : plainPart? ts = none) (hopens : OpensFirst (dropDistinct ts).rest)
    (h : IsRead source (.arguments [e]) (dropDistinct ts).rest) (hright : right.kind = .rightParen) :
    CallGives source name openPos (.aggregate func e (dropDistinct ts).value) (ts ++ [right]) := by
  intro rest
  obtain ⟨hvalue, hdrop⟩ := dropDistinct_append (show ts ++ right :: rest = ts ++ right :: rest
    from rfl) hright
  have hgives := h right rest hright
  rw [← hdrop] at hgives
  obtain ⟨given, hgiven, hargs, hrest⟩ := hgives
  have hnone : plainField? source (ts ++ right :: rest) = none :=
    plainField?_eq_none (opensFirst_dropDistinct hopens) hright hplain
  have hcall : callOf source name openPos (dropDistinct (ts ++ right :: rest)).value given.value
      = .ok (.aggregate func e (dropDistinct ts).value) := by
    rw [callOf, (aggregate_exclusive hfunc).1, hfunc, hargs, hvalue]
  rw [List.append_assoc, List.singleton_append, call, starArgument?_call hstar hright]
  simp only [hfunc, hnone]
  exact ⟨_, bind_eq_ok.2 ⟨given, hgiven, bind_eq_ok.2 ⟨_, hcall, rfl⟩⟩, rfl, hrest⟩

/-- The name of a callable function that does not aggregate. -/
theorem callGives_callable {name right : Token} (openPos : Nat) {es : List Expr}
    (hfunc : Aggregate.ofName? name.upper = none) (hcallable : isCallable name.upper = true)
    (h : ∀ rest, Gives (arguments source (ts ++ right :: rest)) ⟨es, right.pos⟩ rest)
    (hcall : callOf source name openPos false ⟨es, right.pos⟩ = .ok e) :
    CallGives source name openPos e (ts ++ [right]) := by
  intro rest
  obtain ⟨given, hgiven, hargs, hrest⟩ := h rest
  have hcount : name.upper ≠ "COUNT" := by
    intro hcount
    rw [hcount] at hfunc
    cases hfunc
  rw [← hargs] at hcall
  rw [List.append_assoc, List.singleton_append, call, if_neg hcount]
  simp only [hfunc, hcallable, if_true]
  exact ⟨_, bind_eq_ok.2 ⟨given, hgiven, bind_eq_ok.2 ⟨_, hcall, rfl⟩⟩, rfl, hrest⟩

/-- A scalar function is neither an aggregate nor a time function. -/
theorem scalar_exclusive {s : String} (h : s ∈ scalarFunctions) :
    Aggregate.ofName? s = none ∧ TimeFunction.ofUpper? s = none := by
  have hall : ∀ s ∈ scalarFunctions,
      Aggregate.ofName? s = none ∧ TimeFunction.ofUpper? s = none := by
    simp only [TimeFunction.ofUpper?, toUpper_eq]
    decide
  exact hall s h

theorem callGives_scalar {name right : Token} (openPos : Nat) {es : List Expr}
    (hfunc : name.upper ∈ scalarFunctions)
    (h : ∀ rest, Gives (arguments source (ts ++ right :: rest)) ⟨es, right.pos⟩ rest) :
    CallGives source name openPos (.call name.text es) (ts ++ [right]) := by
  obtain ⟨hagg, htime⟩ := scalar_exclusive hfunc
  refine callGives_callable openPos hagg (by simp [isCallable, hfunc]) h ?_
  rw [callOf, htime, hagg]

theorem callGives_timeCall {name right : Token} (openPos : Nat) {es : List Expr}
    {func : TimeFunction} (hfunc : TimeFunction.ofUpper? name.upper = some func) (hne : es ≠ [])
    (h : ∀ rest, Gives (arguments source (ts ++ right :: rest)) ⟨es, right.pos⟩ rest) :
    CallGives source name openPos
      (.timeCall func es (String.ofList (stripBlanks (slice source (openPos + 1) right.pos))))
      (ts ++ [right]) := by
  have hagg : Aggregate.ofName? name.upper = none := by
    cases hagg : Aggregate.ofName? name.upper with
    | none => rfl
    | some f =>
      rw [(aggregate_exclusive hagg).1] at hfunc
      cases hfunc
  refine callGives_callable openPos hagg (by simp [isCallable, hfunc]) h ?_
  have hargs : es.isEmpty = false := by simpa using hne
  rw [callOf, hfunc]
  simp only [hargs, Bool.false_eq_true, if_false]

/-! ## Names -/

/-- Names call nothing when none of the tokens after them opens a parenthesis. -/
theorem head_ne_leftParen {names : List Token} (hnames : ∀ t ∈ names, t.kind = .name)
    (hrest : EndsPrimary rest) : ∀ t ∈ (names ++ rest).head?, t.kind ≠ .leftParen := by
  intro t ht
  cases names with
  | nil => exact (hrest t ht).2
  | cons u names =>
    cases ht
    rw [hnames t (by simp)]
    decide

/-- All adjacent names belong to one field. -/
theorem lastName_goesOn {names : List Token} (finish : Nat) (last : Token)
    (hnames : ∀ t ∈ names, t.kind = .name) (hrest : EndsPrimary rest) :
    GoesOn (lastName finish last (names ++ rest)) ((last :: names).getLast (by simp)) rest := by
  induction names generalizing last with
  | nil =>
    cases rest with
    | nil => exact ⟨_, rfl, rfl, rfl⟩
    | cons t rest =>
      rw [List.nil_append]
      unfold lastName
      rw [if_neg (hrest t rfl).1]
      exact ⟨_, rfl, rfl, rfl⟩
  | cons t names ih =>
    obtain ⟨c, hc, hvalue, hleft⟩ := ih t fun u hu => hnames u (List.mem_cons_of_mem _ hu)
    have ht := hnames t (by simp)
    have hnext := head_ne_leftParen (fun u hu => hnames u (List.mem_cons_of_mem _ hu)) hrest
    rw [List.cons_append]
    generalize hmore : names ++ rest = more at *
    cases more with
    | nil =>
      obtain ⟨rfl, rfl⟩ := List.append_eq_nil_iff.1 hmore
      unfold lastName
      rw [if_pos ht]
      exact ⟨_, rfl, rfl, rfl⟩
    | cons next others =>
      unfold lastName
      rw [if_pos ht]
      simp only [hnext next rfl, if_false]
      refine ⟨_, bind_eq_ok.2 ⟨c, hc, rfl⟩, ?_, hleft⟩
      rw [hvalue]
      simp

/-- The field that adjacent names make. -/
theorem isRead_field {first : Token} {names : List Token}
    (hin : slice source first.pos first.stop = first.chars) (hfirst : first.kind = .name)
    (hnames : ∀ t ∈ names, t.kind = .name) :
    IsRead source (.primary (.field (String.ofList
      (slice source first.pos ((first :: names).getLast (by simp)).stop)))) (first :: names) := by
  intro rest hrest
  have hkind : first.kind ≠ .operator := by
    rw [hfirst]
    decide
  have hnext := head_ne_leftParen hnames hrest
  obtain ⟨c, hc, hvalue, hleft⟩ := lastName_goesOn source.length first hnames hrest
  rw [List.cons_append, signed_primary hkind]
  unfold primary
  simp only [hfirst]
  generalize hmore : names ++ rest = more at *
  cases more with
  | nil =>
    obtain ⟨rfl, rfl⟩ := List.append_eq_nil_iff.1 hmore
    refine ⟨_, rfl, ?_, rfl⟩
    rw [List.getLast_singleton, hin]
    rfl
  | cons next others =>
    simp only [hnext next rfl, if_false]
    refine ⟨_, bind_eq_ok.2 ⟨c, hc, rfl⟩, ?_, hleft⟩
    rw [hvalue]

/-! ## The reader is complete -/

theorem isRead_group {opening closing : Token} (hopening : opening.kind = .leftParen)
    (hclosing : closing.kind = .rightParen) (h : IsRead source (.sum e) ts) :
    IsRead source (.primary e) (opening :: (ts ++ [closing])) := by
  intro rest _
  obtain ⟨inside, hinside, hvalue, hrest⟩ := h.closed (.inl hclosing) rest
  have hkind : opening.kind ≠ .operator := by
    rw [hopening]
    decide
  rw [List.cons_append, List.append_assoc, List.singleton_append, signed_primary hkind]
  unfold primary
  simp only [hopening]
  refine ⟨⟨e, rest, by simp; omega⟩, bind_eq_ok.2 ⟨inside, hinside, ?_⟩, rfl, rfl⟩
  split
  · next hnil =>
    rw [hrest] at hnil
    cases hnil
  · next close others hcons =>
    rw [hrest] at hcons
    obtain ⟨rfl, rfl⟩ := List.cons.inj hcons
    rw [if_pos hclosing]
    simp only [hvalue]
    rfl

/-- The kind of a token that is no operator lets the reader see a primary. -/
theorem isRead_token (hkind : t.kind ≠ .operator)
    (h : ∀ rest, EndsPrimary rest → Gives (primary source t rest) e rest) :
    IsRead source (.primary e) [t] := by
  intro rest hrest
  rw [List.singleton_append, signed_primary hkind]
  exact h rest hrest

/-- Derived tokens are read as the phrase, if they stand where their positions say.  The induction is
on the derivation; a sum is read on to the right of the sum that it starts with. -/
theorem derives_isRead {phrase : Phrase} (h : Derives source phrase ts)
    (hin : ∀ t ∈ ts, slice source t.pos t.stop = t.chars) : IsRead source phrase ts := by
  induction h with
  | sum _ ih =>
    intro rest e' left hrest hmore
    exact expression_gives (ih hin rest _ _ hrest.1 (productTail_ends hrest.2)) hmore
  | @addition ls rs l r t op _ hop hright ihl ihr =>
    intro rest e' left hrest hmore
    rw [List.append_assoc, List.cons_append]
    have hends : EndsProduct (t :: (rs ++ rest)) := by
      refine ⟨endsPrimary_operator (sumOperator?_kind hop) _, fun u hu => ?_⟩
      cases hu
      exact productOperator?_of_sumOperator? hop
    have hproduct := ihr (fun u hu => hin u (by simp [hu])) rest r rest hrest.1
      (productTail_ends hrest.2)
    exact ihl (fun u hu => hin u (by simp [hu])) _ _ _ hends (sumTail_goesOn hop hproduct hmore)
  | product _ ih =>
    intro rest e' left hrest hmore
    exact product_gives (ih hin rest hrest) hmore
  | @multiplication ls rs l r t op _ hop hright ihl ihr =>
    intro rest e' left hrest hmore
    rw [List.append_assoc, List.cons_append]
    have hsigned := ihr (fun u hu => hin u (by simp [hu])) rest hrest
    exact ihl (fun u hu => hin u (by simp [hu])) _ _ _
      (endsPrimary_operator (productOperator?_kind hop) _) (productTail_goesOn hop hsigned hmore)
  | signed _ ih => exact ih hin
  | minus hop _ ih =>
    intro rest hrest
    exact signed_minus hop (ih (fun u hu => hin u (by simp [hu])) rest hrest)
  | number ht =>
    refine isRead_token (by rw [ht]; decide) fun rest _ => ?_
    unfold primary
    simp only [ht]
    exact ⟨_, rfl, rfl, rfl⟩
  | string ht =>
    refine isRead_token (by rw [ht]; decide) fun rest _ => ?_
    unfold primary
    simp only [ht]
    exact ⟨_, rfl, rfl, rfl⟩
  | quotedName ht =>
    refine isRead_token (by rw [ht]; decide) fun rest _ => ?_
    unfold primary
    simp only [ht]
    exact ⟨_, rfl, rfl, rfl⟩
  | @loneField t ht =>
    have hnone : ∀ u ∈ ([] : List Token), u.kind = .name := by simp
    have hfield := isRead_field (hin t (by simp)) ht hnone
    rwa [List.getLast_singleton, hin t (by simp)] at hfield
  | field hfirst hnames => exact isRead_field (hin _ (by simp)) hfirst hnames
  | group hleft _ hright ih =>
    exact isRead_group hleft hright (ih fun u hu => hin u (by simp [hu]))
  | countStar hname hcount hleft hstar hright =>
    exact isRead_call hname hleft (callGives_countStar _ hcount hstar hright)
  | plainAggregate hname hfunc hleft hstar hplain hright =>
    exact isRead_call hname hleft (callGives_plainAggregate _ hfunc hstar hplain hright)
  | @aggregate name left right ts func e hname hfunc hleft hstar hplain hsum hright ih =>
    have hopens := derives_opensFirst hsum
    have harguments := isRead_lastArgument hopens (derives_ne_nil hsum)
      (ih fun u hu => hin u (by simp [mem_of_mem_dropDistinct hu]))
    exact isRead_call hname hleft
      (callGives_aggregate _ hfunc hstar hplain hopens harguments hright)
  | @scalar name left right hname hfunc hleft hright =>
    have harguments : ∀ rest, Gives (arguments source ([] ++ right :: rest)) ⟨[], right.pos⟩ rest := by
      intro rest
      rw [List.nil_append, arguments, if_pos hright]
      exact ⟨_, rfl, rfl, rfl⟩
    exact isRead_call hname hleft (callGives_scalar _ hfunc harguments)
  | scalarCall hname hfunc hleft _ hright ih =>
    have harguments := ih fun u hu => hin u (by simp [hu])
    exact isRead_call hname hleft
      (callGives_scalar _ hfunc fun rest => harguments _ rest hright)
  | timeCall hname hfunc hleft hargs hright ih =>
    have harguments := ih fun u hu => hin u (by simp [hu])
    exact isRead_call hname hleft (callGives_timeCall _ hfunc (derives_arguments_ne_nil hargs)
      fun rest => harguments _ rest hright)
  | lastArgument h ih =>
    exact isRead_lastArgument (derives_opensFirst h) (derives_ne_nil h) (ih hin)
  | argument h hcomma hs ihe ihs =>
    exact isRead_argument (derives_opensFirst h) (derives_ne_nil h) (derives_opensFirst hs)
      (derives_ne_nil hs) hcomma (ihe fun u hu => hin u (by simp [hu]))
      (ihs fun u hu => hin u (by simp [hu]))

/-- A source is read as what its tokens derive. -/
theorem parseChars_complete (htokens : Lexer.tokens source = .ok ts)
    (hin : ∀ t ∈ ts, slice source t.pos t.stop = t.chars) (h : Derives source (.sum e) ts) :
    parseChars source = .ok e := by
  have hread := derives_isRead h hin [] e [] ⟨by simp [EndsPrimary], by simp⟩
    (sumTail_ends (by simp))
  rw [List.append_nil] at hread
  obtain ⟨r, hr, rfl, hrest⟩ := hread
  exact parseChars_eq_ok.2 ⟨ts, r, htokens, hr, hrest, rfl⟩

end MetricLayer.Parser
