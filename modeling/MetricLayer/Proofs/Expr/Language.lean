import MetricLayer.Proofs.Expr.Completeness
import MetricLayer.Proofs.Expr.Excerpt
import MetricLayer.Proofs.Expr.Relocation

/-!
# The language of metric expressions

`TokensSpell source phrase ts` is the grammar of the language as its description gives it: sums of
products of signed operands, all leaning to the left, adjacent names that make one field, and calls.
It mentions nothing that the reader does.  An aggregate takes its argument for the text of a field
when it can (`IsFieldText`) and for a sum otherwise, and DISTINCT counts before different tokens in
the two cases (`AfterDistinct`).

`Expr.parse_eq_ok_iff_spells` says that a text is read as an expression exactly when it is not
blank, its parentheses balance and its tokens spell that expression.

A star after `COUNT(` is always that of `COUNT(*)`.  So COUNT refuses fields such as `*x` that the
other aggregates take (`countStarField_refused`).
-/

namespace MetricLayer

open MetricLayer.Parser MetricLayer.Text

/-! ## The grammar -/

/-- The token writes the operator. -/
def Token.Writes (t : Token) (op : Operator) : Prop := t.kind = .operator ∧ t.text = op.sign

/-- The tokens after a leading DISTINCT, and whether there is one: it counts only before a token
whose kind satisfies `counts`. -/
inductive AfterDistinct (counts : TokenKind → Prop) : List Token → Bool → List Token → Prop
  | present {t next : Token} {rest : List Token} (ht : t.isDistinct = true)
      (hnext : counts next.kind) : AfterDistinct counts (t :: next :: rest) true (next :: rest)
  | absent {ts : List Token} (h : ∀ t next rest, ts = t :: next :: rest → t.isDistinct = true →
      ¬counts next.kind) : AfterDistinct counts ts false ts

/-- A DISTINCT before such a token may be followed by the text of a field. -/
def CountsBeforeText (kind : TokenKind) : Prop := kind ≠ .operator ∧ kind ≠ .rightParen

/-- A DISTINCT before such a token may be followed by a sum. -/
def CountsBeforeSum (kind : TokenKind) : Prop := kind = .name ∨ kind = .quotedName

/-- The tokens between two parentheses are the text of a field: there is one, none is a parenthesis
or a comma, a single one is no numeral, text or operator, and of several none is a text or a quoted
name. -/
structure IsFieldText (ts : List Token) : Prop where
  /-- There is a token. -/
  nonempty : ts ≠ []
  /-- The parenthesis that closes the argument is the next parenthesis or comma. -/
  unbroken : ∀ t ∈ ts, t.kind ≠ .leftParen ∧ t.kind ≠ .rightParen ∧ t.kind ≠ .comma
  /-- A single token may be a name, a quoted name or punctuation. -/
  single : ∀ t, ts = [t] → t.kind ≠ .number ∧ t.kind ≠ .string ∧ t.kind ≠ .operator
  /-- Several tokens may be anything unquoted. -/
  several : 1 < ts.length → ∀ t ∈ ts, t.kind ≠ .string ∧ t.kind ≠ .quotedName

/-- The name of the field whose text is these tokens, up to position `stop`. -/
inductive NamesField (source : List Char) (stop : Nat) : List Token → String → Prop
  | quoted {t : Token} {rest : List Token} (ht : t.kind = .quotedName) :
      NamesField source stop (t :: rest) (unquotedName t)
  | verbatim {t : Token} {rest : List Token} (ht : t.kind ≠ .quotedName) :
      NamesField source stop (t :: rest) (String.ofList (stripEnd (slice source t.pos stop)))

/-- The argument of an aggregate is taken for the text of a field: these tokens, after a DISTINCT
or not. -/
def TextArgument (ts : List Token) (distinct : Bool) (us : List Token) : Prop :=
  AfterDistinct CountsBeforeText ts distinct us ∧ IsFieldText us

/-- The arguments start with the star of `COUNT(*)`. -/
def LeadsWithStar (func : Aggregate) (ts : List Token) : Prop :=
  func = .count ∧ ∃ star rest, ts = star :: rest ∧ star.Writes .mul

/-- The tokens spell the phrase. -/
inductive TokensSpell (source : List Char) : Phrase → List Token → Prop
  | term {ts : List Token} {e : Expr} (h : TokensSpell source (.product e) ts) :
      TokensSpell source (.sum e) ts
  | plus {ls rs : List Token} {l r : Expr} {t : Token} {op : Operator}
      (hl : TokensSpell source (.sum l) ls) (hop : op ∈ [.add, .sub]) (ht : t.Writes op)
      (hr : TokensSpell source (.product r) rs) :
      TokensSpell source (.sum (.binary op l r)) (ls ++ t :: rs)
  | factor {ts : List Token} {e : Expr} (h : TokensSpell source (.signed e) ts) :
      TokensSpell source (.product e) ts
  | times {ls rs : List Token} {l r : Expr} {t : Token} {op : Operator}
      (hl : TokensSpell source (.product l) ls) (hop : op ∈ [.mul, .div, .mod]) (ht : t.Writes op)
      (hr : TokensSpell source (.signed r) rs) :
      TokensSpell source (.product (.binary op l r)) (ls ++ t :: rs)
  | unsigned {ts : List Token} {e : Expr} (h : TokensSpell source (.primary e) ts) :
      TokensSpell source (.signed e) ts
  | minus {ts : List Token} {e : Expr} {t : Token} (ht : t.Writes .sub)
      (h : TokensSpell source (.signed e) ts) : TokensSpell source (.signed (.negate e)) (t :: ts)
  | number {t : Token} (ht : t.kind = .number) : TokensSpell source (.primary (.number t.text)) [t]
  | string {t : Token} (ht : t.kind = .string) :
      TokensSpell source (.primary (.string (unquotedText t))) [t]
  | quotedName {t : Token} (ht : t.kind = .quotedName) :
      TokensSpell source (.primary (.field (unquotedName t))) [t]
  | names {first : Token} {names : List Token} (h : ∀ t ∈ first :: names, t.kind = .name) :
      TokensSpell source
        (.primary (.field (String.ofList
          (slice source first.pos ((first :: names).getLast (List.cons_ne_nil _ _)).stop))))
        (first :: names)
  | group {ts : List Token} {e : Expr} {left right : Token} (hleft : left.kind = .leftParen)
      (h : TokensSpell source (.sum e) ts) (hright : right.kind = .rightParen) :
      TokensSpell source (.primary e) (left :: (ts ++ [right]))
  | countStar {name left star right : Token} (hname : name.kind = .name)
      (hfunc : name.upper = Aggregate.count.name) (hleft : left.kind = .leftParen)
      (hstar : star.Writes .mul) (hright : right.kind = .rightParen) :
      TokensSpell source (.primary (.aggregate .count .star false)) [name, left, star, right]
  | textAggregate {name left right : Token} {ts us : List Token} {func : Aggregate}
      {distinct : Bool} {field : String} (hname : name.kind = .name)
      (hfunc : name.upper = func.name) (hleft : left.kind = .leftParen)
      (hstar : ¬LeadsWithStar func ts) (htext : TextArgument ts distinct us)
      (hfield : NamesField source right.pos us field) (hright : right.kind = .rightParen) :
      TokensSpell source (.primary (.aggregate func (.field field) distinct))
        (name :: left :: (ts ++ [right]))
  | sumAggregate {name left right : Token} {ts us : List Token} {func : Aggregate} {e : Expr}
      {distinct : Bool} (hname : name.kind = .name) (hfunc : name.upper = func.name)
      (hleft : left.kind = .leftParen) (hstar : ¬LeadsWithStar func ts)
      (htext : ∀ distinct us, ¬TextArgument ts distinct us)
      (hdistinct : AfterDistinct CountsBeforeSum ts distinct us) (h : TokensSpell source (.sum e) us)
      (hright : right.kind = .rightParen) :
      TokensSpell source (.primary (.aggregate func e distinct)) (name :: left :: (ts ++ [right]))
  | scalar {name left right : Token} (hname : name.kind = .name)
      (hfunc : name.upper ∈ scalarFunctions) (hleft : left.kind = .leftParen)
      (hright : right.kind = .rightParen) :
      TokensSpell source (.primary (.call name.text [])) [name, left, right]
  | scalarCall {name left right : Token} {ts : List Token} {es : List Expr}
      (hname : name.kind = .name) (hfunc : name.upper ∈ scalarFunctions)
      (hleft : left.kind = .leftParen) (h : TokensSpell source (.arguments es) ts)
      (hright : right.kind = .rightParen) :
      TokensSpell source (.primary (.call name.text es)) (name :: left :: (ts ++ [right]))
  | timeCall {name left right : Token} {ts : List Token} {es : List Expr} {func : TimeFunction}
      (hname : name.kind = .name) (hfunc : name.upper = func.name.toUpper)
      (hleft : left.kind = .leftParen) (h : TokensSpell source (.arguments es) ts)
      (hright : right.kind = .rightParen) :
      TokensSpell source
        (.primary (.timeCall func es
          (String.ofList (stripBlanks (slice source (left.pos + 1) right.pos)))))
        (name :: left :: (ts ++ [right]))
  | lastArgument {ts : List Token} {e : Expr} (h : TokensSpell source (.sum e) ts) :
      TokensSpell source (.arguments [e]) ts
  | argument {ts us : List Token} {e : Expr} {es : List Expr} {t : Token}
      (h : TokensSpell source (.sum e) ts) (hcomma : t.kind = .comma)
      (hs : TokensSpell source (.arguments es) us) :
      TokensSpell source (.arguments (e :: es)) (ts ++ t :: us)

/-- No prefix closes more parentheses than it opens, and the whole closes all that it opens. -/
structure MatchedParens (cs : List Char) : Prop where
  /-- The depth never falls below zero. -/
  depth : ∀ n, (cs.take n).count ')' ≤ (cs.take n).count '('
  /-- It is zero at the end. -/
  closed : cs.count ')' = cs.count '('

/-! ## Operators and function names -/

section Words

variable {t : Token} {op : Operator}

theorem writes_iff {c : Char} (hsign : op.sign = String.ofList [c]) :
    t.Writes op ↔ t.isOperator c = true := by
  rw [Token.Writes, Token.isOperator, Token.text, hsign, String.ofList_inj, Bool.and_eq_true,
    decide_eq_true_iff, decide_eq_true_iff]

/-- A token is one operator only. -/
theorem isOperator_ne {c d : Char} (h : t.isOperator c = true) (hne : c ≠ d) :
    ¬t.isOperator d = true := by
  intro hd
  have hchars := (isOperator_text h).symm.trans (isOperator_text hd)
  exact hne (List.cons.inj hchars).1

theorem sumOperator?_eq_some : sumOperator? t = some op ↔ op ∈ [.add, .sub] ∧ t.Writes op := by
  have hadd : t.Writes .add ↔ t.isOperator '+' = true := writes_iff rfl
  have hsub : t.Writes .sub ↔ t.isOperator '-' = true := writes_iff rfl
  unfold sumOperator?
  constructor
  · intro h
    split_ifs at h with hplus hminus <;> cases h
    · exact ⟨by decide, hadd.2 hplus⟩
    · exact ⟨by decide, hsub.2 hminus⟩
  · rintro ⟨hop, ht⟩
    simp only [List.mem_cons, List.not_mem_nil, or_false] at hop
    rcases hop with rfl | rfl
    · rw [if_pos (hadd.1 ht)]
    · rw [if_neg (isOperator_ne (hsub.1 ht) (by decide)), if_pos (hsub.1 ht)]

theorem productOperator?_eq_some :
    productOperator? t = some op ↔ op ∈ [.mul, .div, .mod] ∧ t.Writes op := by
  have hmul : t.Writes .mul ↔ t.isOperator '*' = true := writes_iff rfl
  have hdiv : t.Writes .div ↔ t.isOperator '/' = true := writes_iff rfl
  have hmod : t.Writes .mod ↔ t.isOperator '%' = true := writes_iff rfl
  unfold productOperator?
  constructor
  · intro h
    split_ifs at h with hstar hslash hpercent <;> cases h
    · exact ⟨by decide, hmul.2 hstar⟩
    · exact ⟨by decide, hdiv.2 hslash⟩
    · exact ⟨by decide, hmod.2 hpercent⟩
  · rintro ⟨hop, ht⟩
    simp only [List.mem_cons, List.not_mem_nil, or_false] at hop
    rcases hop with rfl | rfl | rfl
    · rw [if_pos (hmul.1 ht)]
    · rw [if_neg (isOperator_ne (hdiv.1 ht) (by decide)), if_pos (hdiv.1 ht)]
    · rw [if_neg (isOperator_ne (hmod.1 ht) (by decide)),
        if_neg (isOperator_ne (hmod.1 ht) (by decide)), if_pos (hmod.1 ht)]

theorem aggregate_ofName?_eq_some {s : String} {func : Aggregate} :
    Aggregate.ofName? s = some func ↔ s = func.name := by
  constructor
  · intro h
    rw [Aggregate.ofName?] at h
    have hname : func.name = s := by simpa using List.find?_some h
    exact hname.symm
  · rintro rfl
    cases func <;> rfl

theorem ofUpper?_eq_some {s : String} {func : TimeFunction} :
    TimeFunction.ofUpper? s = some func ↔ s = func.name.toUpper := by
  constructor
  · intro h
    rw [TimeFunction.ofUpper?] at h
    have hname : func.name.toUpper = s := by simpa using List.find?_some h
    exact hname.symm
  · rintro rfl
    cases func <;> decide +kernel

theorem leadsWithStar_iff {name : Token} {func : Aggregate} {ts : List Token}
    (hfunc : name.upper = func.name) :
    LeadsWithStar func ts ↔ startsWithStar name ts = true := by
  have hcount : name.upper = "COUNT" ↔ func = .count := by
    rw [hfunc]
    cases func <;> decide
  rw [LeadsWithStar, startsWithStar, Bool.and_eq_true, decide_eq_true_iff, hcount]
  refine and_congr_right' ⟨?_, fun h => ?_⟩
  · rintro ⟨star, rest, rfl, hstar⟩
    exact (writes_iff rfl).1 hstar
  · cases ts with
    | nil => cases h
    | cons star rest => exact ⟨star, rest, rfl, (writes_iff rfl).2 h⟩

end Words

/-! ## Arguments of aggregates -/

section Arguments

variable {ts us : List Token} {distinct : Bool}

/-- The text of a field is what the reader calls plain, without parentheses and commas. -/
theorem isFieldText_iff :
    IsFieldText ts ↔ ts.any (·.isDelimiter) = false ∧ arePlain ts = true := by
  have hunbroken : (∀ t ∈ ts, t.kind ≠ .leftParen ∧ t.kind ≠ .rightParen ∧ t.kind ≠ .comma) ↔
      ts.any (·.isDelimiter) = false := by
    simp [Token.isDelimiter, and_assoc]
  have hplain : arePlain ts = true ↔ ts ≠ []
      ∧ (∀ t, ts = [t] → t.kind ≠ .number ∧ t.kind ≠ .string ∧ t.kind ≠ .operator)
      ∧ (1 < ts.length → ∀ t ∈ ts, t.kind ≠ .string ∧ t.kind ≠ .quotedName) := by
    rcases ts with - | ⟨t, - | ⟨u, ts⟩⟩
    · simp [arePlain]
    · simp [arePlain, and_assoc]
    · simp [arePlain, and_assoc]
  rw [← hunbroken, hplain]
  constructor
  · intro h
    exact ⟨h.unbroken, h.nonempty, h.single, h.several⟩
  · rintro ⟨hunbroken, hne, hsingle, hseveral⟩
    exact ⟨hne, hunbroken, hsingle, hseveral⟩

theorem afterDistinct_cons {counts : TokenKind → Prop} {t next : Token} {rest : List Token} :
    AfterDistinct counts (t :: next :: rest) distinct us ↔
      (t.isDistinct = true ∧ counts next.kind) ∧ distinct = true ∧ us = next :: rest
        ∨ ¬(t.isDistinct = true ∧ counts next.kind) ∧ distinct = false ∧ us = t :: next :: rest := by
  constructor
  · intro h
    cases h with
    | present ht hnext => exact .inl ⟨⟨ht, hnext⟩, rfl, rfl⟩
    | absent h => exact .inr ⟨fun hboth => h _ _ _ rfl hboth.1 hboth.2, rfl, rfl⟩
  · rintro (⟨⟨ht, hnext⟩, rfl, rfl⟩ | ⟨hnot, rfl, rfl⟩)
    · exact .present ht hnext
    · refine .absent fun _ _ _ hcons ht hnext => hnot ?_
      cases hcons
      exact ⟨ht, hnext⟩

/-- A lone token is no leading DISTINCT. -/
theorem afterDistinct_short {counts : TokenKind → Prop} (h : ts.length ≤ 1) :
    AfterDistinct counts ts distinct us ↔ distinct = false ∧ us = ts := by
  constructor
  · intro hafter
    cases hafter with
    | present => simp at h
    | absent => exact ⟨rfl, rfl⟩
  · rintro ⟨rfl, rfl⟩
    refine .absent fun t next rest hcons => ?_
    rw [hcons] at h
    simp at h

theorem afterDistinct_sum_iff : AfterDistinct CountsBeforeSum ts distinct us ↔
    (dropDistinct ts).value = distinct ∧ (dropDistinct ts).rest = us := by
  match ts with
  | [] => exact (afterDistinct_short (by simp)).trans (and_congr eq_comm eq_comm)
  | [t] => exact (afterDistinct_short (by simp)).trans (and_congr eq_comm eq_comm)
  | t :: next :: rest =>
    obtain ⟨hvalue, hrest⟩ := dropDistinct_cons t next rest
    have hcond : (t.isDistinct && (next.kind = .name || next.kind = .quotedName)) = true ↔
        t.isDistinct = true ∧ CountsBeforeSum next.kind := by
      simp [CountsBeforeSum]
    rw [afterDistinct_cons, hvalue, hrest, ← hcond]
    cases t.isDistinct && (next.kind = .name || next.kind = .quotedName) <;>
      simp [eq_comm]

theorem textArgument_iff : TextArgument ts distinct us ↔ plainPart? ts = some (distinct, us) := by
  rw [TextArgument, isFieldText_iff]
  cases hbroken : ts.any (·.isDelimiter) with
  | true =>
    have hus : AfterDistinct CountsBeforeText ts distinct us → us.any (·.isDelimiter) = true := by
      intro h
      cases h with
      | present ht hnext => simpa [isDelimiter_of_isDistinct ht] using hbroken
      | absent => exact hbroken
    have hnone : plainPart? ts = none := by simp [plainPart?, hbroken]
    rw [hnone]
    constructor
    · rintro ⟨hafter, hunbroken, -⟩
      rw [hus hafter] at hunbroken
      cases hunbroken
    · intro h
      cases h
  | false =>
    rcases ts with - | ⟨t, - | ⟨next, rest⟩⟩
    · rw [afterDistinct_short (by simp)]
      simp only [plainPart?, hbroken, Bool.false_eq_true, if_false, reduceCtorEq, iff_false]
      rintro ⟨⟨-, rfl⟩, -, hplain⟩
      cases hplain
    · rw [afterDistinct_short (by simp)]
      simp only [plainPart?, hbroken, List.head?_nil, Option.any_none, Bool.and_false,
        Bool.false_eq_true, if_false]
      constructor
      · rintro ⟨⟨rfl, rfl⟩, -, hplain⟩
        rw [if_pos hplain]
      · intro h
        split_ifs at h with hplain
        cases h
        exact ⟨⟨rfl, rfl⟩, hbroken, hplain⟩
    · have hrest : (next :: rest).any (·.isDelimiter) = false := by
        rw [List.any_cons, Bool.or_eq_false_iff] at hbroken
        exact hbroken.2
      have hnext : next.kind ≠ .rightParen := by
        rw [List.any_cons, Bool.or_eq_false_iff] at hrest
        exact kind_ne_rightParen hrest.1
      have hcond : (t.isDistinct && (next :: rest).head?.any (·.kind ≠ .operator)) = true ↔
          t.isDistinct = true ∧ CountsBeforeText next.kind := by
        simp [CountsBeforeText, hnext]
      rw [afterDistinct_cons, ← hcond]
      simp only [plainPart?, hbroken, Bool.false_eq_true, if_false]
      cases t.isDistinct && (next :: rest).head?.any (·.kind ≠ .operator) with
      | true =>
        constructor
        · rintro ⟨⟨-, rfl, rfl⟩ | ⟨hfalse, -⟩, -, hplain⟩
          · rw [if_pos rfl, if_pos hplain]
          · exact absurd rfl hfalse
        · intro h
          rw [if_pos rfl] at h
          split_ifs at h with hplain
          cases h
          exact ⟨.inl ⟨rfl, rfl, rfl⟩, hrest, hplain⟩
      | false =>
        constructor
        · rintro ⟨⟨hfalse, -⟩ | ⟨-, rfl, rfl⟩, -, hplain⟩
          · cases hfalse
          · rw [if_neg Bool.false_ne_true, if_pos hplain]
        · intro h
          rw [if_neg Bool.false_ne_true] at h
          split_ifs at h with hplain
          cases h
          exact ⟨.inr ⟨Bool.false_ne_true, rfl, rfl⟩, hbroken, hplain⟩

theorem namesField_iff {source : List Char} {stop : Nat} {e : Expr} (hne : us ≠ []) :
    fieldOf source stop us = e ↔ ∃ field, NamesField source stop us field ∧ e = .field field := by
  obtain ⟨t, rest, rfl⟩ := List.exists_cons_of_ne_nil hne
  rw [fieldOf]
  constructor
  · rintro rfl
    split
    · next ht => exact ⟨_, .quoted ht, rfl⟩
    · next ht => exact ⟨_, .verbatim ht, rfl⟩
  · rintro ⟨_, hfield, rfl⟩
    cases hfield with
    | quoted ht => rw [if_pos ht]
    | verbatim ht => rw [if_neg ht]

end Arguments

/-! ## Balance -/

theorem isBalancedFrom_iff {depth : Nat} {cs : List Char} :
    isBalancedFrom depth cs = true ↔
      (∀ n, (cs.take n).count ')' ≤ depth + (cs.take n).count '(')
        ∧ cs.count ')' = depth + cs.count '(' := by
  induction cs generalizing depth with
  | nil => simp [isBalancedFrom, eq_comm]
  | cons c cs ih =>
    have hdepths : (∀ n, ((c :: cs).take n).count ')' ≤ depth + ((c :: cs).take n).count '(') ↔
        ∀ n, (c :: cs.take n).count ')' ≤ depth + (c :: cs.take n).count '(' := by
      refine ⟨fun h n => h (n + 1), fun h n => ?_⟩
      cases n with
      | zero => simp
      | succ n => exact h n
    rw [hdepths, isBalancedFrom.eq_def]
    dsimp only
    by_cases hopen : c = '('
    · subst hopen
      rw [if_pos rfl, ih]
      simp only [List.count_cons_self, List.count_cons_of_ne (show '(' ≠ ')' by decide)]
      simp only [Nat.add_assoc, Nat.add_comm 1]
    · by_cases hclose : c = ')'
      · subst hclose
        rw [if_neg hopen, if_pos rfl]
        simp only [List.count_cons_self, List.count_cons_of_ne (show ')' ≠ '(' by decide)]
        cases depth with
        | zero =>
          simp only [Bool.false_eq_true, false_iff, not_and]
          intro h
          have := h 0
          simp at this
        | succ depth =>
          rw [ih]
          simp only [Nat.add_right_comm depth 1, Nat.add_le_add_iff_right, Nat.add_right_cancel_iff]
      · rw [if_neg hopen, if_neg hclose, ih]
        simp only [List.count_cons_of_ne hopen, List.count_cons_of_ne hclose]

theorem isBalanced_iff {cs : List Char} : isBalanced cs = true ↔ MatchedParens cs := by
  rw [isBalanced, isBalancedFrom_iff]
  simp only [Nat.zero_add]
  exact ⟨fun h => ⟨h.1, h.2⟩, fun h => ⟨h.1, h.2⟩⟩

/-! ## The reader and the grammar -/

section Reader

variable {source : List Char} {phrase : Phrase} {ts : List Token}

theorem startsWithStar_eq_false {name : Token} {func : Aggregate} (hfunc : name.upper = func.name) :
    ¬LeadsWithStar func ts ↔ startsWithStar name ts = false := by
  rw [leadsWithStar_iff hfunc, Bool.not_eq_true]

theorem plainPart?_eq_none :
    plainPart? ts = none ↔ ∀ distinct us, ¬TextArgument ts distinct us := by
  simp only [textArgument_iff, Option.eq_none_iff_forall_ne_some, Prod.forall, ne_eq]

/-- What the tokens spell, they derive. -/
theorem TokensSpell.derives (h : TokensSpell source phrase ts) : Derives source phrase ts := by
  induction h with
  | term h ih => exact .sum ih
  | plus hl hop ht hr ihl ihr => exact .addition ihl (sumOperator?_eq_some.2 ⟨hop, ht⟩) ihr
  | factor h ih => exact .product ih
  | times hl hop ht hr ihl ihr =>
    exact .multiplication ihl (productOperator?_eq_some.2 ⟨hop, ht⟩) ihr
  | unsigned h ih => exact .signed ih
  | minus ht h ih => exact .minus ((writes_iff rfl).1 ht) ih
  | number ht => exact .number ht
  | string ht => exact .string ht
  | quotedName ht => exact .quotedName ht
  | names h =>
    exact .field (h _ List.mem_cons_self) fun t ht => h t (List.mem_cons_of_mem _ ht)
  | group hleft h hright ih => exact .group hleft ih hright
  | countStar hname hfunc hleft hstar hright =>
    exact .countStar hname hfunc hleft ((writes_iff rfl).1 hstar) hright
  | textAggregate hname hfunc hleft hstar htext hfield hright =>
    rw [← (namesField_iff htext.2.nonempty).2 ⟨_, hfield, rfl⟩]
    exact .plainAggregate hname (aggregate_ofName?_eq_some.2 hfunc) hleft
      ((startsWithStar_eq_false hfunc).1 hstar) (textArgument_iff.1 htext) hright
  | sumAggregate hname hfunc hleft hstar htext hdistinct h hright ih =>
    obtain ⟨rfl, rfl⟩ := afterDistinct_sum_iff.1 hdistinct
    exact .aggregate hname (aggregate_ofName?_eq_some.2 hfunc) hleft
      ((startsWithStar_eq_false hfunc).1 hstar) (plainPart?_eq_none.2 htext) ih hright
  | scalar hname hfunc hleft hright => exact .scalar hname hfunc hleft hright
  | scalarCall hname hfunc hleft h hright ih => exact .scalarCall hname hfunc hleft ih hright
  | timeCall hname hfunc hleft h hright ih =>
    exact .timeCall hname (ofUpper?_eq_some.2 hfunc) hleft ih hright
  | lastArgument h ih => exact .lastArgument ih
  | argument h hcomma hs ih ihs => exact .argument ih hcomma ihs

/-- What tokens derive that stand in the source, they spell. -/
theorem Derives.spells (h : Derives source phrase ts)
    (hin : ∀ t ∈ ts, slice source t.pos t.stop = t.chars) : TokensSpell source phrase ts := by
  induction h with
  | sum h ih => exact .term (ih hin)
  | addition hl hop hr ihl ihr =>
    obtain ⟨hop, ht⟩ := sumOperator?_eq_some.1 hop
    exact .plus (ihl fun t ht => hin t (by simp [ht])) hop ht
      (ihr fun t ht => hin t (by simp [ht]))
  | product h ih => exact .factor (ih hin)
  | multiplication hl hop hr ihl ihr =>
    obtain ⟨hop, ht⟩ := productOperator?_eq_some.1 hop
    exact .times (ihl fun t ht => hin t (by simp [ht])) hop ht
      (ihr fun t ht => hin t (by simp [ht]))
  | signed h ih => exact .unsigned (ih hin)
  | minus hop h ih => exact .minus ((writes_iff rfl).2 hop) (ih fun t ht => hin t (by simp [ht]))
  | number ht => exact .number ht
  | string ht => exact .string ht
  | quotedName ht => exact .quotedName ht
  | @loneField t ht =>
    have hnames : ∀ u ∈ [t], u.kind = .name := by simpa using ht
    have htext : String.ofList (slice source t.pos t.stop) = t.text :=
      congrArg String.ofList (hin t List.mem_cons_self)
    exact htext ▸ .names hnames
  | field hfirst hnames => exact .names (List.forall_mem_cons.2 ⟨hfirst, hnames⟩)
  | group hleft h hright ih => exact .group hleft (ih fun t ht => hin t (by simp [ht])) hright
  | countStar hname hcount hleft hstar hright =>
    exact .countStar hname hcount hleft ((writes_iff rfl).2 hstar) hright
  | @plainAggregate name left right ts us func distinct hname hfunc hleft hstar hplain hright =>
    have hfunc' := aggregate_ofName?_eq_some.1 hfunc
    have htext := textArgument_iff.2 hplain
    obtain ⟨field, hfield, hvalue⟩ := (namesField_iff htext.2.nonempty).1 rfl
    rw [hvalue]
    exact .textAggregate hname hfunc' hleft ((startsWithStar_eq_false hfunc').2 hstar) htext hfield
      hright
  | aggregate hname hfunc hleft hstar hplain h hright ih =>
    have hfunc' := aggregate_ofName?_eq_some.1 hfunc
    exact .sumAggregate hname hfunc' hleft ((startsWithStar_eq_false hfunc').2 hstar)
      (plainPart?_eq_none.1 hplain) (afterDistinct_sum_iff.2 ⟨rfl, rfl⟩)
      (ih fun t ht => hin t (by simp [mem_of_mem_dropDistinct ht])) hright
  | scalar hname hfunc hleft hright => exact .scalar hname hfunc hleft hright
  | scalarCall hname hfunc hleft h hright ih =>
    exact .scalarCall hname hfunc hleft (ih fun t ht => hin t (by simp [ht])) hright
  | timeCall hname hfunc hleft h hright ih =>
    exact .timeCall hname (ofUpper?_eq_some.1 hfunc) hleft
      (ih fun t ht => hin t (by simp [ht])) hright
  | lastArgument h ih => exact .lastArgument (ih hin)
  | argument h hcomma hs ih ihs =>
    exact .argument (ih fun t ht => hin t (by simp [ht])) hcomma
      (ihs fun t ht => hin t (by simp [ht]))

end Reader

/-- The tokens of a source stand in it where they say. -/
theorem tokens_slice {source : List Char} {ts : List Token} (h : Lexer.tokens source = .ok ts) :
    ∀ t ∈ ts, slice source t.pos t.stop = t.chars := fun t ht =>
  (Lexer.tokensFrom_slice (rfl : ([] : List Char).length = 0) h t ht).2.2

/-- A text is read as an expression exactly when it is not blank, its parentheses balance and the
tokens between its outer blanks spell the expression. -/
theorem Expr.parse_eq_ok_iff_spells (text : String) (e : Expr) :
    Expr.parse text = .ok e ↔
      (∃ c ∈ text.toList, isBlank c = false) ∧ MatchedParens text.toList
        ∧ ∃ ts, Lexer.tokens (stripBlanks text.toList) = .ok ts
          ∧ TokensSpell (stripBlanks text.toList) (.sum e) ts := by
  have hblank : isBlankText text = false ↔ ∃ c ∈ text.toList, isBlank c = false := by
    simp [isBlankText]
  rw [← hblank, ← isBalanced_iff]
  constructor
  · intro h
    obtain ⟨hnot, hbalanced, -⟩ := Expr.parse_eq_ok.1 h
    obtain ⟨ts, hts, hsum⟩ := Expr.parse_sound h
    exact ⟨hnot, hbalanced, ts, hts, hsum.spells (tokens_slice hts)⟩
  · rintro ⟨hnot, hbalanced, ts, hts, hspells⟩
    exact Expr.parse_eq_ok.2
      ⟨hnot, hbalanced, parseChars_complete hts (tokens_slice hts) hspells.derives⟩

/-! ## A star that is no argument -/

/-- The tokens of `COUNT(*x)`. -/
def countStarField : List Token :=
  [⟨.name, "COUNT".toList, 0⟩, ⟨.leftParen, ['('], 5⟩, ⟨.operator, ['*'], 6⟩, ⟨.name, ['x'], 7⟩,
    ⟨.rightParen, [')'], 8⟩]

theorem tokens_countStarField : Lexer.tokens "COUNT(*x)".toList = .ok countStarField := by
  have hfield : Lexer.tokensFrom 7 "x)".toList
      = .ok [⟨.name, ['x'], 7⟩, ⟨.rightParen, [')'], 8⟩] := by
    rw [show "x)".toList = 'x' :: ([] ++ [')']) from rfl,
      Lexer.tokensFrom_name 7 (by decide) (by simp) (by rintro d ⟨⟩; decide),
      Lexer.tokensFrom_rightParen]
    rfl
  have hsign : Lexer.lexemeLength? '*' "x)".toList = some (some .operator, 0) := by decide
  have hstar : Lexer.tokensFrom 6 "*x)".toList
      = .ok [⟨.operator, ['*'], 6⟩, ⟨.name, ['x'], 7⟩, ⟨.rightParen, [')'], 8⟩] := by
    rw [show "*x)".toList = '*' :: "x)".toList from rfl, Lexer.tokensFrom_lexeme 6 hsign,
      List.drop_zero, hfield]
    rfl
  rw [show "COUNT(*x)".toList = 'C' :: ("OUNT".toList ++ '(' :: "*x)".toList) from rfl,
    Lexer.tokens,
    Lexer.tokensFrom_name 0 (by decide) (List.all_eq_true.1 (by decide)) (by rintro d ⟨⟩; decide),
    Lexer.tokensFrom_leftParen, show 0 + ('C' :: "OUNT".toList).length + 1 = 6 from rfl, hstar]
  rfl

/-- The argument of `COUNT(*x)` is the text of the field `*x`, but COUNT takes the star for that of
`COUNT(*)` and refuses the rest. -/
theorem countStarField_refused :
    MatchedParens "COUNT(*x)".toList ∧ Lexer.tokens "COUNT(*x)".toList = .ok countStarField
      ∧ TextArgument ((countStarField.drop 2).take 2) false ((countStarField.drop 2).take 2)
      ∧ NamesField "COUNT(*x)".toList 8 ((countStarField.drop 2).take 2) "*x"
      ∧ Expr.parse "COUNT(*x)" = .error (.unexpectedToken .rightParen "x" 7) := by
  refine ⟨isBalanced_iff.1 (by decide), tokens_countStarField, textArgument_iff.2 (by decide),
    .verbatim (by decide), ?_⟩
  have hnotBlank : isBlankText "COUNT(*x)" = false := by decide
  have hbalanced : isBalanced "COUNT(*x)".toList = true := by decide
  have hstripped : stripBlanks "COUNT(*x)".toList = "COUNT(*x)".toList := by decide
  have hcount : (⟨.name, "COUNT".toList, 0⟩ : Token).upper = "COUNT" := by decide
  simp only [Expr.parse, requireBalanced, hnotBlank, hbalanced, hstripped, parseChars,
    tokens_countStarField, countStarField, bind, Except.bind, expression, product, signed, primary,
    call, hcount, starArgument?, Token.isOperator]
  rfl

end MetricLayer
