import MetricLayer.Proofs.Metric.AggregateCall

/-!
# Aggregates over unquoted fields

Between the parentheses of an aggregate, a text without parentheses, commas and quotes is the name of
a field, whatever names, numerals, operators and signs it is made of (`verbatimField_compiles`).  It
is taken from the source and not from its tokens, so the blanks inside it are kept, and those around
it are not.  `IsVerbatimField` lists what is no name: a lone numeral or operator, a text that DISTINCT
leads, and for COUNT one that a star leads.
-/

namespace MetricLayer

open MetricLayer.Parser MetricLayer.Text

/-! ## Tokens of a text without quotes and delimiters -/

/-- The character that no token of the kind is without. -/
def TokenKind.mark? : TokenKind → Option Char
  | .string => some '\''
  | .quotedName => some '"'
  | .leftParen => some '('
  | .rightParen => some ')'
  | .comma => some ','
  | _ => none

theorem Lexer.mark?_mem_of_lexeme {c : Char} {cs : List Char} {kind : TokenKind} {n : Nat}
    (h : lexemeLength? c cs = some (some kind, n)) : ∀ m ∈ kind.mark?, m ∈ c :: cs := by
  intro m hm
  cases isLexeme_of_eq_some h with
  | number | name | operator | punctuation => cases hm
  | string hclosing =>
    cases hm
    by_contra hnone
    rw [List.mem_cons, not_or] at hnone
    rw [closingLength?_eq_none hnone.2] at hclosing
    cases hclosing
  | quotedName hclosing =>
    cases hm
    by_contra hnone
    rw [List.mem_cons, not_or] at hnone
    have hempty := closingLengthNonempty?_append [] hnone.2
    rw [List.nil_append, hclosing] at hempty
    cases hempty
  | leftParen hc | rightParen hc | comma hc =>
    cases hm
    rw [hc]
    exact List.mem_cons_self

/-- A text holds the marks of its tokens. -/
theorem Lexer.mark?_mem {pos : Nat} {cs : List Char} {ts : List Token}
    (h : tokensFrom pos cs = .ok ts) : ∀ t ∈ ts, ∀ m ∈ t.kind.mark?, m ∈ cs := by
  fun_induction tokensFrom pos cs generalizing ts with
  | case1 =>
    cases h
    simp
  | case2 => cases h
  | case3 pos c cs kind? more hlength ih =>
    obtain ⟨rest, hrest, h⟩ := bind_eq_ok.1 h
    have hothers : ∀ t ∈ rest, ∀ m ∈ t.kind.mark?, m ∈ c :: cs := fun t ht m hm =>
      List.mem_cons_of_mem _ (List.mem_of_mem_drop (ih hrest t ht m hm))
    cases kind? with
    | none =>
      rw [← pure_eq_ok.1 h]
      exact hothers
    | some kind =>
      rw [← pure_eq_ok.1 h]
      intro t ht
      rcases List.mem_cons.1 ht with rfl | ht
      · exact mark?_mem_of_lexeme hlength
      · exact hothers t ht

/-! ## Fields without quotes -/

/-- The text `h` with the tokens `ts` names a field between the parentheses of the aggregate. -/
structure IsVerbatimField (func : Aggregate) (h : String) (ts : List Token) : Prop where
  /-- No blanks stand around the text. -/
  stripped : IsStripped h.toList
  /-- No parenthesis, comma or quote stands in it. -/
  unbroken : ∀ c ∈ h.toList, c ≠ '(' ∧ c ≠ ')' ∧ c ≠ ',' ∧ c ≠ '\'' ∧ c ≠ '"'
  /-- It is cut into the tokens. -/
  tokens : Lexer.tokens h.toList = .ok ts
  /-- There is a token. -/
  nonempty : ts ≠ []
  /-- It is no lone numeral or operator. -/
  single : ∀ t, ts = [t] → t.kind ≠ .number ∧ t.kind ≠ .operator
  /-- No DISTINCT leads it. -/
  distinct : ∀ t ∈ ts.head?, t.isDistinct = false
  /-- No star leads it, if the aggregate is COUNT. -/
  star : func = .count → h.toList.head? ≠ some '*'

section Field

variable {name h before after : String} {func : Aggregate} {ts : List Token}

theorem IsVerbatimField.kind_ne (hfield : IsVerbatimField func h ts) :
    ∀ t ∈ ts, t.isDelimiter = false ∧ t.kind ≠ .string ∧ t.kind ≠ .quotedName := by
  intro t ht
  have hmark := Lexer.mark?_mem hfield.tokens t ht
  have hnone : ∀ m ∈ t.kind.mark?, False := by
    intro m hm
    have hunbroken := hfield.unbroken m (hmark m hm)
    cases hkind : t.kind <;> rw [hkind] at hm <;> cases hm <;> simp at hunbroken
  cases hkind : t.kind <;> rw [hkind] at hnone <;>
    first | exact absurd rfl (hnone _) | simp [Token.isDelimiter, hkind]

/-- The tokens are plain, and no DISTINCT is taken from them. -/
theorem IsVerbatimField.plainPart?_eq (hfield : IsVerbatimField func h ts) :
    plainPart? ts = some (false, ts) := by
  have hkinds := hfield.kind_ne
  have hdelim : ts.any (·.isDelimiter) = false := by
    rw [List.any_eq_false]
    intro t ht
    rw [(hkinds t ht).1]
    decide
  have hplain : arePlain ts = true := by
    refine (isFieldText_iff.1 ⟨hfield.nonempty, ?_, ?_, ?_⟩).2
    · intro t ht
      have := (hkinds t ht).1
      simpa [Token.isDelimiter, and_assoc] using this
    · intro t ht
      obtain ⟨hnumber, hoperator⟩ := hfield.single t ht
      exact ⟨hnumber, (hkinds t (by rw [ht]; exact List.mem_cons_self)).2.1, hoperator⟩
    · exact fun _ t ht => (hkinds t ht).2
  obtain ⟨t, rest, rfl⟩ := List.exists_cons_of_ne_nil hfield.nonempty
  have hdistinct := hfield.distinct t rfl
  simp only [plainPart?, hdelim, hdistinct, hplain, Bool.false_eq_true, if_false, if_true,
    Bool.false_and]

theorem IsVerbatimField.startsWithStar_eq (hfield : IsVerbatimField func h ts) {t : Token}
    (ht : t.upper = func.name) : startsWithStar t ts = false := by
  rw [← startsWithStar_eq_false ht]
  rintro ⟨hcount, star, rest, rfl, hstar⟩
  obtain ⟨-, more, hchars, -⟩ := Lexer.tokens_cons hfield.stripped hfield.tokens
  have hstar : star.chars = ['*'] := isOperator_text ((writes_iff rfl).1 hstar)
  rw [hstar] at hchars
  exact hfield.star hcount (by rw [hchars]; rfl)

theorem stripEnd_append_blanks (cs : List Char) {blanks : List Char}
    (hblanks : ∀ c ∈ blanks, isBlank c = true) : stripEnd (cs ++ blanks) = stripEnd cs := by
  have hreverse : ∀ c ∈ blanks.reverse, isBlank c = true :=
    fun c hc => hblanks c (List.mem_reverse.1 hc)
  rw [stripEnd, stripEnd, List.reverse_append, List.dropWhile_append_of_pos hreverse]

/-- The text between the parentheses, without the blanks around it, names the field. -/
theorem IsVerbatimField.fieldOf_eq (hfield : IsVerbatimField func h ts)
    (hafter : isBlankText after = true) {source outer rest : List Char}
    (hsource : source = outer ++ (h.toList ++ after.toList ++ rest)) :
    fieldOf source (outer.length + (h.toList ++ after.toList).length)
      (ts.map (Lexer.moved 0 outer.length)) = .field h := by
  obtain ⟨t, ts, rfl⟩ := List.exists_cons_of_ne_nil hfield.nonempty
  obtain ⟨hpos, -⟩ := Lexer.tokens_cons hfield.stripped hfield.tokens
  have hquoted : (Lexer.moved 0 outer.length t).kind ≠ .quotedName :=
    (hfield.kind_ne t List.mem_cons_self).2.2
  have hstart : (Lexer.moved 0 outer.length t).pos = outer.length + 0 := by
    simp [Lexer.moved, hpos]
  have hslice : slice source (outer.length + 0) (outer.length + (h.toList ++ after.toList).length)
      = h.toList ++ after.toList := by
    rw [hsource, Lexer.slice_append, slice, List.drop_zero, List.take_left]
  have hblanks : ∀ c ∈ after.toList, isBlank c = true := List.all_eq_true.1 hafter
  rw [List.map_cons, fieldOf, if_neg hquoted, hstart, hslice, stripEnd_append_blanks _ hblanks,
    stripEnd_eq_self hfield.stripped.last, String.ofList_toList]

/-- The parentheses of the call are the only ones. -/
theorem IsVerbatimField.isBalanced (hfield : IsVerbatimField func h ts)
    (hbefore : isBlankText before = true) (hafter : isBlankText after = true) :
    isBalanced ('(' :: ((before ++ h ++ after).toList ++ [')'])) = true := by
  have hblank : ∀ s : String, isBlankText s = true → ∀ c ∈ s.toList, c ≠ '(' ∧ c ≠ ')' :=
    fun s hs c hc => notParen_of_isBlank (List.all_eq_true.1 hs c hc)
  have hinside : ∀ c ∈ (before ++ h ++ after).toList, c ≠ '(' ∧ c ≠ ')' := by
    intro c hc
    rw [String.toList_append, String.toList_append, List.mem_append, List.mem_append] at hc
    rcases hc with (hc | hc) | hc
    · exact hblank before hbefore c hc
    · exact ⟨(hfield.unbroken c hc).1, (hfield.unbroken c hc).2.1⟩
    · exact hblank after hafter c hc
  show isBalancedFrom 1 _ = true
  rw [isBalancedFrom_append hinside]
  decide

/-- Between a name, an opening and a closing parenthesis the tokens make the aggregate over the
field. -/
theorem IsVerbatimField.derives (hfield : IsVerbatimField func h ts)
    (hafter : isBlankText after = true) {source outer rest : List Char} {t left right : Token}
    (hsource : source = outer ++ (h.toList ++ after.toList ++ rest)) (ht : t.kind = .name)
    (hupper : t.upper = func.name) (hleft : left.kind = .leftParen)
    (hright : right.kind = .rightParen)
    (hpos : right.pos = outer.length + (h.toList ++ after.toList).length) :
    Derives source (.primary (.aggregate func (.field h) false))
      (t :: left :: (ts.map (Lexer.moved 0 outer.length) ++ [right])) := by
  have hstar : startsWithStar t (ts.map (Lexer.moved 0 outer.length)) = false := by
    rw [← hfield.startsWithStar_eq hupper]
    exact @startsWithStar_moved 0 outer.length t ts
  have hplain : plainPart? (ts.map (Lexer.moved 0 outer.length))
      = some (false, ts.map (Lexer.moved 0 outer.length)) := by
    rw [plainPart?_moved, hfield.plainPart?_eq]
    rfl
  rw [← hfield.fieldOf_eq hafter hsource, ← hpos]
  exact .plainAggregate ht (aggregate_ofName?_eq_some.2 hupper) hleft hstar hplain hright

/-- **An aggregate over an unquoted field.**  In any case of its name and with any blanks inside its
parentheses, the aggregate is compiled to itself over the field whose name is the text between
them, character for character. -/
theorem verbatimField_compiles (hname : name.toUpper = func.name)
    (hbefore : isBlankText before = true) (hafter : isBlankText after = true)
    (hfield : IsVerbatimField func h ts) :
    Compiled.ofText (callText name (before ++ h ++ after)) = .ok (.aggregation func h) := by
  have hinside : (before ++ h ++ after).toList = before.toList ++ (h.toList ++ after.toList) := by
    simp
  obtain ⟨outer, houter⟩ : ∃ outer, outer = name.toList ++ '(' :: before.toList := ⟨_, rfl⟩
  have hlength : outer.length = name.toList.length + 1 + before.toList.length := by
    rw [houter, List.length_append, List.length_cons]
    omega
  have htokens : Lexer.tokensFrom (name.toList.length + 1) (before ++ h ++ after).toList
      = .ok (ts.map (Lexer.moved 0 outer.length)) := by
    have hmoved := Lexer.tokensFrom_moved outer.length (Nat.le_refl 0) hfield.tokens
    rw [Nat.sub_self, Nat.zero_add] at hmoved
    rw [hinside, Lexer.tokensFrom_trimmed _ (List.all_eq_true.1 hbefore)
      (List.all_eq_true.1 hafter), ← hlength, hmoved]
  have hsource : (callText name (before ++ h ++ after)).toList
      = outer ++ (h.toList ++ after.toList ++ [')']) := by
    rw [toList_callText, hinside, houter]
    simp
  have hright : name.toList.length + 1 + (before ++ h ++ after).toList.length
      = outer.length + (h.toList ++ after.toList).length := by
    rw [hinside, hlength, List.length_append]
    omega
  have hcall : Derives (callText name (before ++ h ++ after)).toList
      (.primary (.aggregate func (.field h) false))
      (callTokens name (before ++ h ++ after) (ts.map (Lexer.moved 0 outer.length))) :=
    hfield.derives hafter hsource rfl ((toUpper_eq name).symm.trans hname) rfl rfl hright
  have hparse := parse_callText (aggregateName_spelled hname)
    (hfield.isBalanced hbefore hafter) htokens hcall
  rw [ofText_callText hname hparse]
  rfl

end Field

/-- A field whose name starts with a numeral and holds an operator, two blanks and a sign. -/
theorem verbatimVisits_compiles :
    "cOunT".toUpper = Aggregate.count.name ∧ isBlankText "\t" = true ∧ isBlankText "  " = true
      ∧ IsVerbatimField .count "2nd  * Visit #"
        [⟨.number, ['2'], 0⟩, ⟨.name, ['n', 'd'], 1⟩, ⟨.operator, ['*'], 5⟩,
          ⟨.name, "Visit".toList, 7⟩, ⟨.punctuation, ['#'], 13⟩]
      ∧ Compiled.ofText "cOunT(\t2nd  * Visit #  )" = .ok (.aggregation .count "2nd  * Visit #") := by
  have hname : "cOunT".toUpper = Aggregate.count.name := by
    rw [toUpper_eq]
    decide
  have hfield : IsVerbatimField .count "2nd  * Visit #"
      [⟨.number, ['2'], 0⟩, ⟨.name, ['n', 'd'], 1⟩, ⟨.operator, ['*'], 5⟩,
        ⟨.name, "Visit".toList, 7⟩, ⟨.punctuation, ['#'], 13⟩] := by
    refine ⟨⟨?_, ?_⟩, by simp, by cbv, by simp, by simp, ?_, fun _ => by decide⟩
    all_goals
      rintro c ⟨⟩
      decide
  have htext : callText "cOunT" ("\t" ++ "2nd  * Visit #" ++ "  ") = "cOunT(\t2nd  * Visit #  )" := by
    decide
  exact ⟨hname, by decide, by decide, hfield,
    htext ▸ verbatimField_compiles hname (by decide) (by decide) hfield⟩

end MetricLayer
