import MetricLayer.Metric.Compile
import MetricLayer.Proofs.Expr.CallText
import MetricLayer.Proofs.Metric.LeadingCall
import MetricLayer.Proofs.Sql.MetricText

/-!
# The stored form of a metric

A compiled metric keeps the text of its expression, not the expression.  The stored form is read back
as it was written (`read_toValue`), and what a query later makes of it is what the expression itself
means (`ofText_means`): a formula is parsed again from its stripped text (`parse_strip`), and a time
function from its name and the text between its parentheses (`parse_storedText`).

The text between the parentheses is a part of the source of which both the tokens and the phrases are
known from reading the whole; in the rebuilt call they only stand elsewhere.
-/

namespace MetricLayer

open MetricLayer.Parser MetricLayer.Text MetricLayer.Lexer

/-! ## Writing and reading -/

theorem Aggregate.ofName?_name (func : Aggregate) : Aggregate.ofName? func.name = some func := by
  cases func <;> decide

theorem TimeFunction.ofName?_name (func : TimeFunction) :
    TimeFunction.ofName? func.name = some func := by
  cases func <;> decide

theorem items_text (i : Nat) (names : List String) :
    Reader.items Reader.text i (names.map .text) = .valid names := by
  induction names generalizing i with
  | nil => rfl
  | cons name names ih =>
    rw [List.map_cons, Reader.items, ih]
    rfl

theorem optional_textList {fs : Fields} {name : String} {names : List String}
    (h : fs.get? name = some (Compiled.textList names)) :
    Reader.optional fs name [] (Reader.listOf Reader.text) = .valid names := by
  have hread : Reader.listOf Reader.text (Compiled.textList names) = .valid names :=
    items_text 0 names
  rw [Reader.optional, h]
  simp only [hread]
  rfl

/-- The stored form of a metric is read as the metric. -/
theorem Compiled.read_toValue (c : Compiled) : Compiled.read c.toValue = .valid c := by
  cases c with
  | aggregation func field => cases func <;> rfl
  | formula text dependencies =>
    have hlist : Reader.optional [("kind", .text "formula"), ("formula", .text text),
        ("dependencies", textList dependencies)] "dependencies" []
        (Reader.listOf Reader.text) = .valid dependencies := optional_textList rfl
    simp only [Compiled.toValue, Compiled.read]
    show Checked.under _ (_ <*> Reader.optional _ _ _ _) = _
    rw [hlist]
    rfl
  | timeIntel func text dependencies =>
    have hlist : Reader.optional [("kind", .text "time_intel"), ("time_func", .text func.name),
        ("formula", .text text), ("dependencies", textList dependencies)] "dependencies" []
        (Reader.listOf Reader.text) = .valid dependencies := optional_textList rfl
    simp only [Compiled.toValue, Compiled.read]
    show Checked.under _ (_ <*> Reader.optional _ _ _ _) = _
    rw [hlist]
    cases func <;> rfl

/-! ## Stripped texts -/

variable {source : List Char}

theorem all_isBlank_stripBlanks (cs : List Char) :
    (stripBlanks cs).all isBlank = cs.all isBlank := by
  obtain ⟨before, after, hsplit, hbefore, hafter⟩ := stripBlanks_split cs
  have hbefore : before.all isBlank = true := List.all_eq_true.2 hbefore
  have hafter : after.all isBlank = true := List.all_eq_true.2 hafter
  conv_rhs => rw [hsplit, List.all_append, List.all_append, hbefore, hafter, Bool.true_and,
    Bool.and_true]

/-- Blanks around a text do not matter to the expression that it spells. -/
theorem Expr.parse_strip (text : String) : Expr.parse (strip text) = Expr.parse text := by
  have hlist : (strip text).toList = stripBlanks text.toList := String.toList_ofList
  unfold Expr.parse requireBalanced isBlankText
  rw [hlist, all_isBlank_stripBlanks, isBalanced_stripBlanks, stripBlanks_idem]

/-! ## The call of a time function in its source -/

variable {func : TimeFunction} {args : List Expr} {argsText : String}

/-- A time function that no parenthesis opens is a call of its own. -/
theorem derives_timeCall {ts : List Token}
    (h : Derives source (.sum (.timeCall func args argsText)) ts)
    (hfirst : ∀ t ∈ ts.head?, t.kind ≠ .leftParen) :
    ∃ name left right us, ts = name :: left :: (us ++ [right]) ∧ name.kind = .name
      ∧ left.kind = .leftParen ∧ right.kind = .rightParen ∧ Derives source (.arguments args) us
      ∧ argsText = String.ofList (stripBlanks (slice source (left.pos + 1) right.pos)) := by
  cases h with
  | sum h => cases h with
    | product h => cases h with
      | signed h => cases h with
        | group hleft _ _ => exact absurd hleft (hfirst _ rfl)
        | timeCall hname _ hleft hargs hright =>
          exact ⟨_, _, _, _, rfl, hname, hleft, hright, hargs, rfl⟩

/-- Where the text between the parentheses of a call stands, and what it derives.  In `outer` no
parenthesis stands, and `inner` is the text as it is kept, between blanks. -/
structure CallSource (source : List Char) (args : List Expr) (argsText : String) where
  /-- The source before the text. -/
  outer : List Char
  /-- The blanks before the text. -/
  before : List Char
  /-- The blanks after the text. -/
  after : List Char
  /-- The blanks after the call. -/
  tail : List Char
  /-- The tokens of the text. -/
  tokens : List Token
  no_parens : ∀ c ∈ outer, c ≠ '(' ∧ c ≠ ')'
  blank_before : ∀ c ∈ before, isBlank c = true
  blank_after : ∀ c ∈ after, isBlank c = true
  blank_tail : ∀ c ∈ tail, isBlank c = true
  stripped : IsStripped argsText.toList
  source_eq : source = outer ++ '(' :: (before ++ (argsText.toList ++ (after ++ ')' :: tail)))
  tokens_eq : tokensFrom (outer.length + 1 + before.length) argsText.toList = .ok tokens
  derived : Derives source (.arguments args) tokens

/-- A text that starts with a name does not open a parenthesis first. -/
theorem head?_ne_leftParen {ts : List Token} (htokens : tokens source = .ok ts)
    (hfirst : ∀ c ∈ source.head?, isNameStart c = true) : ∀ t ∈ ts.head?, t.kind ≠ .leftParen := by
  intro t ht hkind
  cases ts with
  | nil => cases ht
  | cons u us =>
    cases ht
    have hspelled := tokensFrom_spelled htokens t (by simp)
    rw [hkind] at hspelled
    have hchars : t.chars = ['('] := hspelled
    obtain ⟨blanks, rest, rfl, hblanks, -, -⟩ := tokensFrom_cons htokens
    cases blanks with
    | nil =>
      rw [hchars] at hfirst
      exact absurd (hfirst '(' rfl) (by decide)
    | cons b blanks =>
      have hstart := toNat_of_isNameStart (hfirst b rfl)
      have hblank := toNat_of_isBlank (hblanks b (by simp))
      omega

/-- The tokens of a text before a closing parenthesis and blanks. -/
theorem tokensFrom_closed {pos : Nat} {cs tail : List Char} {ts : List Token} {right : Token}
    (htail : ∀ c ∈ tail, isBlank c = true)
    (h : tokensFrom pos (cs ++ ')' :: tail) = .ok (ts ++ [right])) : tokensFrom pos cs = .ok ts := by
  have hclose : tokensFrom (pos + cs.length) (')' :: tail)
      = .ok [⟨.rightParen, [')'], pos + cs.length⟩] := by
    have hnil : tokensFrom (pos + cs.length + 1) tail = .ok [] := by
      have := tokensFrom_blanks (pos + cs.length + 1) htail []
      rw [List.append_nil] at this
      rw [this, tokensFrom]
    have happend := tokensFrom_append (pos + cs.length) [')'] (.of_blanks htail)
    rw [tokensFrom_rightParen, List.length_singleton, hnil] at happend
    exact happend
  have hclosing : IsClosing (')' :: tail) := isClosing_rightParen.append (.of_blanks htail)
  rw [tokensFrom_append pos cs hclosing, hclose] at h
  obtain ⟨us, hus, h⟩ := bind_eq_ok.1 h
  have happend : us ++ [⟨.rightParen, [')'], pos + cs.length⟩] = ts ++ [right] := by
    exact pure_eq_ok.1 h
  rw [hus, (List.append_inj' happend rfl).1]

/-- A call of a time function at the start of a source. -/
theorem callSource_of_derives {ts : List Token} (htokens : tokens source = .ok ts)
    (h : Derives source (.sum (.timeCall func args argsText)) ts)
    (hfirst : ∀ c ∈ source.head?, isNameStart c = true) :
    Nonempty (CallSource source args argsText) := by
  have hspelled := tokensFrom_spelled htokens
  obtain ⟨name, left, right, us, rfl, hname, hleft, hright, hargs, hargsText⟩ :=
    derives_timeCall h (head?_ne_leftParen htokens hfirst)
  have hnameChars := isNameChar_of_spelled (hname ▸ hspelled name (by simp))
  have hleftChars : left.chars = ['('] := by
    have := hspelled left (by simp)
    rwa [hleft] at this
  have hrightChars : right.chars = [')'] := by
    have := hspelled right (by simp)
    rwa [hright] at this
  obtain ⟨blanks, rest, hsource, hblanks, hnamePos, hrest⟩ := tokensFrom_cons htokens
  obtain ⟨gap, inside, rfl, hgap, hleftPos, hinside⟩ := tokensFrom_cons hrest
  obtain ⟨front, tail, rfl, htail, hrightPos⟩ := tokensFrom_concat hinside
  rw [hleftChars, hrightChars] at hsource
  rw [hrightChars] at hinside
  have houter : left.pos = (blanks ++ (name.chars ++ gap)).length := by
    rw [hleftPos, Token.stop, hnamePos, List.length_append, List.length_append]
    omega
  have hstop : left.stop = left.pos + 1 := by rw [Token.stop, hleftChars]; rfl
  have hsource' : source = (blanks ++ (name.chars ++ gap)) ++ '(' :: (front ++ ')' :: tail) := by
    rw [hsource]
    simp only [List.append_assoc, List.singleton_append]
  have hslice : slice source (left.pos + 1) right.pos = front := by
    have hpart := slice_part (blanks ++ (name.chars ++ gap) ++ ['(']) front (')' :: tail)
    rw [List.append_assoc _ ['('], List.singleton_append, ← hsource', List.length_append,
      ← houter] at hpart
    rw [hrightPos, hstop]
    exact hpart
  obtain ⟨before, after, hfront, hbefore, hafter⟩ := stripBlanks_split front
  have hlist : argsText.toList = stripBlanks front := by
    rw [hargsText, hslice, String.toList_ofList]
  rw [← hlist] at hfront
  have htokensFront := tokensFrom_closed htail hinside
  rw [hfront, tokensFrom_trimmed _ hbefore hafter, hstop, houter] at htokensFront
  refine ⟨⟨blanks ++ (name.chars ++ gap), before, after, tail, us, ?_, hbefore, hafter, htail,
    ?_, ?_, htokensFront, hargs⟩⟩
  · intro c hc
    rw [List.mem_append, List.mem_append] at hc
    rcases hc with hc | hc | hc
    · exact notParen_of_isBlank (hblanks c hc)
    · exact notParen_of_isNameChar (hnameChars c hc)
    · exact notParen_of_isBlank (hgap c hc)
  · rw [hlist]
    exact isStripped_stripBlanks front
  · conv_lhs => rw [hsource', hfront]
    simp only [List.append_assoc]

/-! ## The call that is rebuilt -/

theorem TimeFunction.name_spelled (func : TimeFunction) : Spelled .name func.name.toList := by
  cases func <;> exact ⟨_, _, rfl, by decide, List.all_eq_true.1 (by decide)⟩

/-- The characters of a rebuilt call. -/
def callChars (func : TimeFunction) (argsText : String) : List Char :=
  func.name.toList ++ '(' :: (argsText.toList ++ [')'])

/-- The text that a stored time function is read from. -/
def storedText (func : TimeFunction) (argsText : String) : String :=
  func.name ++ "(" ++ argsText ++ ")"

theorem storedText_eq (func : TimeFunction) (argsText : String) :
    storedText func argsText = callText func.name argsText := rfl

/-- The tokens of a rebuilt call, with those between its parentheses where they stand now. -/
def CallSource.moved (func : TimeFunction) (s : CallSource source args argsText) : List Token :=
  s.tokens.map (Lexer.moved (s.outer.length + 1 + s.before.length) (func.name.toList.length + 1))

theorem CallSource.tokensFrom_moved (func : TimeFunction) (s : CallSource source args argsText) :
    tokensFrom (func.name.toList.length + 1) argsText.toList = .ok (s.moved func) := by
  have hmoved := Lexer.tokensFrom_moved (func.name.toList.length + 1) (Nat.le_refl _) s.tokens_eq
  rwa [Nat.sub_self, Nat.zero_add] at hmoved

/-- A rebuilt call derives what the call in its source does. -/
theorem derives_callChars (func : TimeFunction) (s : CallSource source args argsText) :
    Derives (callChars func argsText) (.primary (.timeCall func args argsText))
      (callTokens func.name argsText (s.moved func)) := by
  have houter : (s.outer ++ '(' :: s.before).length = s.outer.length + 1 + s.before.length := by
    rw [List.length_append, List.length_cons]
    omega
  have hname : (func.name.toList ++ ['(']).length = func.name.toList.length + 1 :=
    List.length_append
  have hin : Between (s.outer.length + 1 + s.before.length)
      (s.outer.length + 1 + s.before.length + argsText.toList.length) s.tokens := fun t ht =>
    have hplace := tokensFrom_slice houter s.tokens_eq t ht
    ⟨hplace.1, hplace.2.1⟩
  have hsame : SameBetween source (callChars func argsText)
      (s.outer.length + 1 + s.before.length) (func.name.toList.length + 1)
      (s.outer.length + 1 + s.before.length + argsText.toList.length) := by
    have hpart : SameBetween
        (s.outer ++ '(' :: s.before ++ (argsText.toList ++ (s.after ++ ')' :: s.tail)))
        (func.name.toList ++ ['('] ++ (argsText.toList ++ [')'])) _ _ _ :=
      sameBetween_part houter hname
    rw [List.append_assoc, List.cons_append, List.append_assoc, List.singleton_append,
      ← s.source_eq] at hpart
    exact hpart
  have hslice : slice (callChars func argsText) (func.name.toList.length + 1)
      (func.name.toList.length + 1 + argsText.toList.length) = argsText.toList := by
    have hpart := slice_part (func.name.toList ++ ['(']) argsText.toList [')']
    rwa [List.append_assoc, List.singleton_append, hname] at hpart
  have hfunc : TimeFunction.ofUpper? (⟨.name, func.name.toList, 0⟩ : Token).upper = some func :=
    ofUpper?_eq_some.2 (toUpper_eq func.name).symm
  have hderived := @Derives.timeCall (callChars func argsText) ⟨.name, func.name.toList, 0⟩
    ⟨.leftParen, ['('], func.name.toList.length⟩
    ⟨.rightParen, [')'], func.name.toList.length + 1 + argsText.toList.length⟩ (s.moved func) args func
    rfl hfunc rfl (derives_moved s.derived hsame hin) rfl
  rw [hslice, s.stripped.stripBlanks_eq, String.ofList_toList] at hderived
  exact hderived

/-- The parentheses of a rebuilt call match when those of the source of the call did. -/
theorem CallSource.isBalanced (s : CallSource source args argsText)
    (h : Parser.isBalanced source = true) :
    Parser.isBalanced ('(' :: (argsText.toList ++ [')'])) = true := by
  have hclose : ∀ depth, isBalancedFrom depth (s.after ++ ')' :: s.tail)
      = isBalancedFrom depth [')'] := by
    intro depth
    have htail := isBalancedFrom_append fun d hd => notParen_of_isBlank (s.blank_tail d hd)
    rw [isBalancedFrom_append fun d hd => notParen_of_isBlank (s.blank_after d hd)]
    cases depth with
    | zero => rfl
    | succ depth =>
      have := htail depth []
      rw [List.append_nil] at this
      exact this
  rw [Parser.isBalanced, s.source_eq, isBalancedFrom_append s.no_parens] at h
  have hopen : isBalancedFrom 1 (s.before ++ (argsText.toList ++ (s.after ++ ')' :: s.tail))) = true :=
    h
  rw [isBalancedFrom_append fun d hd => notParen_of_isBlank (s.blank_before d hd),
    isBalancedFrom_congr hclose] at hopen
  exact hopen

/-- A time function is read again from its name and the text of its arguments. -/
theorem parse_storedText (s : CallSource source args argsText) (h : isBalanced source = true) :
    Expr.parse (storedText func argsText) = .ok (.timeCall func args argsText) := by
  have hderived := derives_callChars func s
  rw [callChars, ← toList_callText] at hderived
  rw [storedText_eq]
  exact parse_callText func.name_spelled (s.isBalanced h) (s.tokensFrom_moved func) hderived

/-! ## What the stored form means -/

/-- What is made of a stored metric is what the expression means: an aggregate and a formula have the
SQL of the expression or fail as it does, and the text of a time function is read as the call. -/
def Compiled.Means (c : Compiled) (e : Expr) : Prop :=
  match c with
  | aggregation _ _ => c.selectExpression = e.render
  | formula _ _ => c.selectExpression = e.render.map fun sql => "(" ++ sql ++ ")"
  | timeIntel func argsText _ => ∃ args, e = .timeCall func args argsText
      ∧ Expr.parse (storedText func argsText) = .ok e ∧ storedCall func argsText = .ok args

theorem leadingTimeCall?_start {cs : List Char} {name : String}
    (h : Compiled.leadingTimeCall? cs = some name) : ∀ c ∈ cs.head?, isNameStart c = true := by
  obtain ⟨call, hcall, -⟩ := Option.bind_eq_some_iff.1 h
  obtain ⟨gap, rest, rfl, ⟨c, cs, rfl, hc, -⟩, -⟩ := Compiled.leadingCall?_eq_some.1 hcall
  rintro d ⟨⟩
  exact hc

theorem ofTimeCall_means {text name : String} {e : Expr} {c : Compiled}
    (hparse : Expr.parse text = .ok e)
    (hleading : Compiled.leadingTimeCall? (stripBlanks text.toList) = some name)
    (h : Compiled.ofTimeCall name e = .ok c) : c.Means e := by
  cases e with
  | timeCall func args argsText =>
    simp only [Compiled.ofTimeCall] at h
    split at h
    · cases h
    · cases h
      obtain ⟨ts, htokens, hderives⟩ := Expr.parse_sound hparse
      obtain ⟨s⟩ := callSource_of_derives htokens hderives (leadingTimeCall?_start hleading)
      have hbalanced := (Expr.parse_eq_ok.1 hparse).2.1
      rw [← isBalanced_stripBlanks] at hbalanced
      have hstored : Expr.parse (storedText func argsText) = .ok (.timeCall func args argsText) :=
        parse_storedText s hbalanced
      refine ⟨args, rfl, hstored, ?_⟩
      rw [storedCall, ← storedText, hstored]
      rfl
  | _ => cases h

theorem ofOrdinary_means {text : String} {e : Expr} {c : Compiled}
    (hparse : Expr.parse text = .ok e) (h : Compiled.ofOrdinary (strip text) e = .ok c) :
    c.Means e := by
  unfold Compiled.ofOrdinary at h
  split at h
  · next func name =>
    cases h
    show aggregateOf func name = Expr.render (.aggregate func (.field name) false)
    rw [aggregateOf, Expr.render, Expr.render]
    cases sqlName name with
    | error failure => rfl
    | ok sql => simp [bind, Except.bind, pure, Except.pure]
  · split at h
    · cases h
    · cases h
      have hsql : formulaSql (strip text) = e.render := by
        rw [formulaSql, Expr.parse_strip, hparse]
        rfl
      show (do return "(" ++ (← formulaSql (strip text)) ++ ")") = e.render.map _
      rw [hsql]
      cases e.render <;> rfl

/-- A text that compiles is read as an expression that the metric means. -/
theorem ofText_means {text : String} {c : Compiled} (h : Compiled.ofText text = .ok c) :
    ∃ e, Expr.parse text = .ok e ∧ c.Means e := by
  obtain ⟨e, hparse, hcompiled⟩ := bind_eq_ok.1 h
  refine ⟨e, hparse, ?_⟩
  have hsource : (strip text).toList = stripBlanks text.toList := String.toList_ofList
  dsimp only at hcompiled
  split at hcompiled
  · next name hleading =>
    rw [hsource] at hleading
    exact ofTimeCall_means hparse hleading hcompiled
  · exact ofOrdinary_means hparse hcompiled

/-- The stored form of a metric reads back as it was written, and a query makes of it what the
expression of the metric means. -/
theorem stored_form_means {text : String} {c : Compiled} (h : Compiled.ofText text = .ok c) :
    ∃ e, Expr.parse text = .ok e ∧ Compiled.read c.toValue = .valid c ∧ c.Means e := by
  obtain ⟨e, hparse, hmeans⟩ := ofText_means h
  exact ⟨e, hparse, c.read_toValue, hmeans⟩

/-- A time function with blanks around every token, over a text literal that holds parentheses and
a doubled quote. -/
def quotedParentheses : String := " Ytd ( Net , 'it''s )(' ) "

/-- The tokens of `quotedParentheses` without its outer blanks. -/
def quotedParenthesesTokens : List Token :=
  [⟨.name, "Ytd".toList, 0⟩, ⟨.leftParen, ['('], 4⟩, ⟨.name, "Net".toList, 6⟩, ⟨.comma, [','], 10⟩,
    ⟨.string, "'it''s )('".toList, 12⟩, ⟨.rightParen, [')'], 23⟩]

/-- A lexeme that a blank follows is cut off with the blank. -/
theorem tokensFrom_lexeme_blank {c : Char} {rest : List Char} {kind : TokenKind} {pos : Nat}
    {ts : List Token} (cs : List Char) (h : lexemeLength? c (cs ++ ' ' :: rest) = some (some kind, cs.length))
    (hrest : tokensFrom (pos + cs.length + 2) rest = .ok ts) :
    tokensFrom pos (c :: (cs ++ ' ' :: rest)) = .ok (⟨kind, c :: cs, pos⟩ :: ts) := by
  rw [tokensFrom_lexeme pos h, List.drop_left, List.take_left, tokensFrom_blank _ (by decide)]
  rw [show pos + 1 + cs.length + 1 = pos + cs.length + 2 by omega, hrest]
  rfl

theorem tokens_quotedParentheses :
    tokens (stripBlanks quotedParentheses.toList) = .ok quotedParenthesesTokens := by
  have hstripped : stripBlanks quotedParentheses.toList = "Ytd ( Net , 'it''s )(' )".toList := by
    decide
  rw [hstripped, tokens]
  have hliteral : tokensFrom 12 "'it''s )(' )".toList
      = .ok [⟨.string, "'it''s )('".toList, 12⟩, ⟨.rightParen, [')'], 23⟩] :=
    tokensFrom_lexeme_blank "it''s )('".toList (by decide) (tokensFrom_rightParen 23)
  have hcomma : tokensFrom 10 ", 'it''s )(' )".toList = .ok (⟨.comma, [','], 10⟩ :: _) :=
    tokensFrom_lexeme_blank [] (by decide) hliteral
  have hfield : tokensFrom 6 "Net , 'it''s )(' )".toList = .ok (⟨.name, "Net".toList, 6⟩ :: _) :=
    tokensFrom_lexeme_blank "et".toList (by decide) hcomma
  have hopening : tokensFrom 4 "( Net , 'it''s )(' )".toList = .ok (⟨.leftParen, ['('], 4⟩ :: _) :=
    tokensFrom_lexeme_blank [] (by decide) hfield
  exact tokensFrom_lexeme_blank "td".toList (by decide) hopening

theorem parse_quotedParentheses :
    Expr.parse quotedParentheses
      = .ok (.timeCall .ytd [.field "Net", .string "it's )("] "Net , 'it''s )('") := by
  refine Expr.parse_eq_ok.2 ⟨by decide, by decide, ?_⟩
  refine parseChars_complete tokens_quotedParentheses (by decide) ?_
  have hfield : Derives (stripBlanks quotedParentheses.toList) (.primary (.field "Net"))
      [⟨.name, "Net".toList, 6⟩] := by
    have hname : (⟨.name, "Net".toList, 6⟩ : Token).text = "Net" := by cbv
    exact hname ▸ .loneField rfl
  have hliteral : Derives (stripBlanks quotedParentheses.toList) (.primary (.string "it's )("))
      [⟨.string, "'it''s )('".toList, 12⟩] := by
    have hvalue : unquotedText ⟨.string, "'it''s )('".toList, 12⟩ = "it's )(" := by cbv
    exact hvalue ▸ .string rfl
  have hargs := Derives.argument (.sum (.product (.signed hfield)))
    (show (⟨.comma, [','], 10⟩ : Token).kind = .comma from rfl)
    (.lastArgument (.sum (.product (.signed hliteral))))
  have hytd : TimeFunction.ofUpper? (⟨.name, "Ytd".toList, 0⟩ : Token).upper = some .ytd := by cbv
  have hcall := Derives.timeCall rfl hytd (show (⟨.leftParen, ['('], 4⟩ : Token).kind = _ from rfl)
    hargs (show (⟨.rightParen, [')'], 23⟩ : Token).kind = _ from rfl)
  exact .sum (.product (.signed hcall))

theorem compiled_quotedParentheses :
    Compiled.ofText quotedParentheses = .ok (.timeIntel .ytd "Net , 'it''s )('" ["Net"]) := by
  have hleading : Compiled.leadingTimeCall? (strip quotedParentheses).toList = some "Ytd" := by
    cbv
  rw [Compiled.ofText_timeCall parse_quotedParentheses hleading]
  decide

theorem quotedParentheses_means :
    Compiled.ofText quotedParentheses = .ok (.timeIntel .ytd "Net , 'it''s )('" ["Net"])
      ∧ ∃ e, Expr.parse quotedParentheses = .ok e
        ∧ Compiled.read (Compiled.timeIntel .ytd "Net , 'it''s )('" ["Net"]).toValue
          = .valid (.timeIntel .ytd "Net , 'it''s )('" ["Net"])
        ∧ Compiled.Means (.timeIntel .ytd "Net , 'it''s )('" ["Net"]) e :=
  ⟨compiled_quotedParentheses, stored_form_means compiled_quotedParentheses⟩

end MetricLayer
