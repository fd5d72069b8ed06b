import MetricLayer.Proofs.Expr.Numerals
import MetricLayer.Proofs.Text.Enclosed

/-!
# The lexical classes of the expression language

`Lexical` says which texts are blanks and which are lexemes of which class, without saying how a
reader finds them.  What the reader finds at the head of a text is one of these
(`lexical_of_lexemeLength?`), and no other one at that head is as long (`lexemeLength?_reaches`).  So
nothing is found only where none of them starts, and what is found does not depend on the text after
it (`lexemeLength?_take`).
-/

namespace MetricLayer.Lexer

open MetricLayer.Text

/-- The blanks, of no class, and the lexemes of each class. -/
inductive Lexical : Option TokenKind → List Char → Prop
  | blanks {cs : List Char} (hne : cs ≠ []) (h : ∀ c ∈ cs, isBlank c = true) : Lexical none cs
  | number {cs : List Char} (h : IsScriptNumeral cs) : Lexical (some .number) cs
  | string (inner : List Char) :
      Lexical (some .string) ('\'' :: (double '\'' inner ++ ['\'']))
  | quotedName {inner : List Char} (hne : inner ≠ []) :
      Lexical (some .quotedName) ('"' :: (double '"' inner ++ ['"']))
  | name {c : Char} {cs : List Char} (hc : isNameStart c = true)
      (h : ∀ d ∈ cs, isNameChar d = true) : Lexical (some .name) (c :: cs)
  | operator {c : Char} (hc : c ∈ "-+*/%".toList) : Lexical (some .operator) [c]
  | punctuation {c : Char} (hc : c ∈ "$#.&@?!".toList) : Lexical (some .punctuation) [c]
  | leftParen : Lexical (some .leftParen) ['(']
  | rightParen : Lexical (some .rightParen) [')']
  | comma : Lexical (some .comma) [',']

variable {c : Char} {cs : List Char}

/-! ## What is found -/

/-- A text in quotes ends with the quote that closes it, and those inside it are doubled. -/
theorem closingLength?_take {q : Char} {n : Nat} (h : closingLength? q cs = some n) :
    ∃ inner, cs.take n = double q inner ++ [q] := by
  fun_induction closingLength? q cs generalizing n with
  | case1 => cases h
  | case2 =>
    cases h
    exact ⟨[], rfl⟩
  | case3 => cases h
  | case4 cs m hm ih =>
    cases h
    obtain ⟨inner, hinner⟩ := ih hm
    refine ⟨q :: inner, ?_⟩
    rw [List.take_succ_cons, List.take_succ_cons, hinner, double_cons_self]
    rfl
  | case5 | case6 =>
    cases h
    exact ⟨[], rfl⟩
  | case7 c d cs hc ih =>
    obtain ⟨m, hm, rfl⟩ := Option.map_eq_some_iff.1 h
    obtain ⟨inner, hinner⟩ := ih hm
    refine ⟨c :: inner, ?_⟩
    rw [List.take_succ_cons, hinner, double_cons_of_ne hc]
    rfl

theorem closingLengthNonempty?_take {q : Char} {n : Nat}
    (h : closingLengthNonempty? q cs = some n) :
    ∃ inner, inner ≠ [] ∧ cs.take n = double q inner ++ [q] := by
  match cs with
  | [] | [_] => cases h
  | c :: d :: cs =>
    rw [closingLengthNonempty?] at h
    split_ifs at h with hc hd
    · obtain ⟨m, hm, rfl⟩ := Option.map_eq_some_iff.1 h
      obtain ⟨inner, hinner⟩ := closingLength?_take hm
      refine ⟨q :: inner, List.cons_ne_nil q inner, ?_⟩
      rw [hc, hd, List.take_succ_cons, List.take_succ_cons, hinner, double_cons_self]
      rfl
    · obtain ⟨inner, hinner⟩ := closingLength?_take h
      refine ⟨inner, ?_, hinner⟩
      rintro rfl
      cases n with
      | zero => cases hinner
      | succ n => exact hc (List.cons.inj hinner).1

/-- The characters that lexemes in quotes and signs of field names start with. -/
theorem head_of_lexemeLength? {kind : TokenKind} {n : Nat}
    (h : lexemeLength? c cs = some (some kind, n)) :
    (kind = .string → c = '\'') ∧ (kind = .quotedName → c = '"')
      ∧ (kind = .punctuation → c ∈ "$#.&@?!".toList) := by
  unfold lexemeLength? at h
  split_ifs at h with hblank hnumber hsingle hdouble hname hoperator hpunctuation
  · cases h
  · cases h
    exact ⟨nofun, nofun, nofun⟩
  · obtain ⟨m, -, hkind⟩ := Option.map_eq_some_iff.1 h
    cases hkind
    exact ⟨fun _ => hsingle, nofun, nofun⟩
  · obtain ⟨m, -, hkind⟩ := Option.map_eq_some_iff.1 h
    cases hkind
    exact ⟨nofun, fun _ => hdouble, nofun⟩
  · cases h
    exact ⟨nofun, nofun, nofun⟩
  · cases h
    exact ⟨nofun, nofun, nofun⟩
  · cases h
    exact ⟨nofun, nofun, fun _ => List.contains_iff_mem.1 hpunctuation⟩
  all_goals
    cases h
    exact ⟨nofun, nofun, nofun⟩

/-- What is found at the head of a text is a run of blanks or a lexeme of its class. -/
theorem lexical_of_lexemeLength? {kind? : Option TokenKind} {n : Nat}
    (h : lexemeLength? c cs = some (kind?, n)) : Lexical kind? (c :: cs.take n) := by
  cases isLexeme_of_eq_some h with
  | blanks => exact .blanks (List.cons_ne_nil _ _) (blank_of_lexemeLength? h)
  | number => exact .number (lexemeLength?_number h)
  | string hclosing =>
    obtain ⟨inner, hinner⟩ := closingLength?_take hclosing
    rw [hinner, (head_of_lexemeLength? h).1 rfl]
    exact .string inner
  | quotedName hclosing =>
    obtain ⟨inner, hne, hinner⟩ := closingLengthNonempty?_take hclosing
    rw [hinner, (head_of_lexemeLength? h).2.1 rfl]
    exact .quotedName hne
  | name hc =>
    refine .name hc fun d hd => ?_
    rw [take_length_takeWhile] at hd
    exact List.mem_takeWhile_imp hd
  | operator hc => exact .operator hc
  | punctuation => exact .punctuation ((head_of_lexemeLength? h).2.2 rfl)
  | leftParen hc => exact hc ▸ .leftParen
  | rightParen hc => exact hc ▸ .rightParen
  | comma hc => exact hc ▸ .comma

/-! ## How far it reaches -/

theorem le_digitRun_append {ds : List Char} (h : ∀ c ∈ ds, isDigit c = true) (rest : List Char) :
    ds.length ≤ digitRun (ds ++ rest) := by
  rw [digitRun, List.takeWhile_append_of_pos h, List.length_append]
  exact Nat.le_add_right _ _

theorem digitRun_append_stop {ds rest : List Char} (h : ∀ c ∈ ds, isDigit c = true)
    (hrest : ∀ c ∈ rest.head?, isDigit c = false) : digitRun (ds ++ rest) = ds.length := by
  rw [digitRun, (takeWhile_append_stop ds hrest).1, List.takeWhile_eq_self_iff.2 h]

theorem le_exponentLength {x : List Char} (hx : IsExponentText x) (rest : List Char) :
    x.length ≤ exponentLength (x ++ rest) := by
  cases hx with
  | absent => exact Nat.zero_le _
  | @power e sign digits he hsign hne hdigits =>
    obtain ⟨d, ds, rfl⟩ := List.exists_cons_of_ne_nil hne
    have hd := hdigits d List.mem_cons_self
    have hlength : signLength (sign ++ (d :: ds ++ rest)) = sign.length := by
      unfold signLength
      rcases hsign with rfl | rfl | rfl
      · have hplus : d ≠ '+' := by
          rintro rfl
          exact absurd hd (by decide)
        have hminus : d ≠ '-' := by
          rintro rfl
          exact absurd hd (by decide)
        simp [hplus, hminus]
      · rfl
      · rfl
    have hrun := le_digitRun_append hdigits rest
    have he : (e = 'e' || e = 'E') = true := by simpa using he
    rw [List.cons_append, List.append_assoc, exponentLength_cons, if_pos he, hlength,
      List.drop_left]
    rw [List.length_cons] at hrun
    rw [if_neg (by omega), List.length_cons, List.length_append, List.length_cons]
    omega

/-- The length of a mantissa, in terms of the runs of digits before and after its point. -/
theorem mantissaLength_point {ws : List Char} (hws : ∀ c ∈ ws, isDigit c = true)
    (rest : List Char) : mantissaLength (ws ++ '.' :: rest)
      = if ws.length + digitRun rest = 0 then 0 else ws.length + 1 + digitRun rest := by
  have hrun : digitRun (ws ++ '.' :: rest) = ws.length :=
    digitRun_append_stop hws fun c hc => by
      cases hc
      decide
  rw [mantissaLength_eq, hrun, List.drop_left, List.head?_cons, if_pos rfl, List.tail_cons]

theorem le_mantissaLength {m : List Char} (hm : IsScriptMantissa m) (rest : List Char) :
    m.length ≤ mantissaLength (m ++ rest) := by
  cases hm with
  | whole hne h =>
    have hrun := le_digitRun_append h rest
    have hpos := List.length_pos_of_ne_nil hne
    rw [mantissaLength_eq]
    split_ifs <;> omega
  | @point ws fs hne h =>
    rw [List.forall_mem_append] at h
    have hpos := List.length_pos_of_ne_nil hne
    have hrun := le_digitRun_append h.2 rest
    rw [List.length_append] at hpos
    rw [List.append_assoc, List.cons_append, mantissaLength_point h.1, if_neg (by omega),
      List.length_append, List.length_cons]
    omega

/-- A mantissa ends where no digit and no point follows. -/
theorem mantissaLength_append_stop {m rest : List Char} (hm : IsScriptMantissa m)
    (hrest : ∀ c ∈ rest.head?, isDigit c = false ∧ c ≠ '.') :
    mantissaLength (m ++ rest) = m.length := by
  have hdigit : ∀ c ∈ rest.head?, isDigit c = false := fun c hc => (hrest c hc).1
  cases hm with
  | whole hne h =>
    have hpoint : rest.head? ≠ some '.' := fun hhead => (hrest '.' hhead).2 rfl
    rw [mantissaLength_eq, digitRun_append_stop h hdigit, List.drop_left, if_neg hpoint]
  | @point ws fs hne h =>
    rw [List.forall_mem_append] at h
    have hpos := List.length_pos_of_ne_nil hne
    rw [List.length_append] at hpos
    rw [List.append_assoc, List.cons_append, mantissaLength_point h.1,
      digitRun_append_stop h.2 hdigit, if_neg (by omega), List.length_append, List.length_cons]
    omega

theorem le_numberLength {lexeme : List Char} (h : IsScriptNumeral lexeme) (rest : List Char) :
    lexeme.length ≤ numberLength (lexeme ++ rest) := by
  obtain ⟨m, x, hm, hx, rfl⟩ := h
  have hpos : 0 < m.length := by
    cases hm with
    | whole hne => exact List.length_pos_of_ne_nil hne
    | point => simp
  cases hx with
  | absent =>
    have hmantissa := le_mantissaLength hm rest
    rw [List.append_nil, numberLength, if_neg (by omega)]
    omega
  | @power e sign digits he hsign hne hdigits =>
    have hstop : ∀ c ∈ (e :: (sign ++ digits) ++ rest).head?, isDigit c = false ∧ c ≠ '.' := by
      intro c hc
      cases hc
      rcases he with rfl | rfl <;> decide
    have hexponent := le_exponentLength (.power he hsign hne hdigits) rest
    rw [List.append_assoc, numberLength, mantissaLength_append_stop hm hstop, if_neg (by omega),
      List.drop_left, List.length_append]
    omega

/-- The quote that closes a text in quotes is found, if not a later one. -/
theorem le_closingLength? (q : Char) (inner rest : List Char) :
    ∃ n, closingLength? q (double q inner ++ q :: rest) = some n
      ∧ (double q inner).length + 1 ≤ n := by
  induction inner with
  | nil =>
    cases rest with
    | nil => exact ⟨1, by simp [double, replaceChar, closingLength?], Nat.le_refl 1⟩
    | cons d rest =>
      show ∃ n, closingLength? q (q :: d :: rest) = some n ∧ 1 ≤ n
      rw [closingLength?, if_pos rfl]
      split_ifs
      · cases closingLength? q rest with
        | none => exact ⟨1, rfl, Nat.le_refl 1⟩
        | some n => exact ⟨n + 2, rfl, by omega⟩
      · exact ⟨1, rfl, Nat.le_refl 1⟩
  | cons c inner ih =>
    obtain ⟨n, hn, hle⟩ := ih
    by_cases hc : c = q
    · subst hc
      rw [double_cons_self, List.cons_append, List.cons_append, closingLength?, if_pos rfl,
        if_pos rfl, hn]
      exact ⟨n + 2, rfl, by simp only [List.length_cons]; omega⟩
    · obtain ⟨d, ds, hd⟩ : ∃ d ds, double q inner ++ q :: rest = d :: ds := by
        cases double q inner <;> exact ⟨_, _, rfl⟩
      rw [double_cons_of_ne hc, List.cons_append, hd, closingLength?, if_neg hc, ← hd, hn]
      exact ⟨n + 1, rfl, by rw [List.length_cons]; omega⟩

theorem le_closingLengthNonempty? (q : Char) {inner : List Char} (hne : inner ≠ [])
    (rest : List Char) : ∃ n, closingLengthNonempty? q (double q inner ++ q :: rest) = some n
      ∧ (double q inner).length + 1 ≤ n := by
  obtain ⟨c, inner, rfl⟩ := List.exists_cons_of_ne_nil hne
  by_cases hc : c = q
  · subst hc
    obtain ⟨n, hn, hle⟩ := le_closingLength? c inner rest
    rw [double_cons_self, List.cons_append, List.cons_append, closingLengthNonempty?, if_pos rfl,
      if_pos rfl, hn]
    exact ⟨n + 2, rfl, by simp only [List.length_cons]; omega⟩
  · obtain ⟨n, hn, hle⟩ := le_closingLength? q (c :: inner) rest
    obtain ⟨d, ds, hd⟩ : ∃ d ds, double q inner ++ q :: rest = d :: ds := by
      cases double q inner <;> exact ⟨_, _, rfl⟩
    rw [double_cons_of_ne hc, List.cons_append, hd] at hn ⊢
    rw [double_cons_of_ne hc] at hle
    exact ⟨n, by rw [closingLengthNonempty?, if_neg hc, hn], hle⟩

theorem IsScriptNumeral.head {lexeme : List Char} (h : IsScriptNumeral lexeme) :
    ∃ c rest, lexeme = c :: rest ∧ (isDigit c = true ∨ c = '.') := by
  obtain ⟨m, x, hm, -, rfl⟩ := h
  cases hm with
  | whole hne h =>
    obtain ⟨d, ds, rfl⟩ := List.exists_cons_of_ne_nil hne
    exact ⟨d, ds ++ x, rfl, .inl (h d List.mem_cons_self)⟩
  | @point ws fs hne h =>
    cases ws with
    | nil => exact ⟨'.', fs ++ x, rfl, .inr rfl⟩
    | cons w ws => exact ⟨w, ws ++ '.' :: fs ++ x, rfl, .inl (h w List.mem_cons_self)⟩

theorem lexemeLength?_numeral (hc : isDigit c = true ∨ c = '.') (h : 0 < numberLength (c :: cs)) :
    lexemeLength? c cs = some (some .number, numberLength (c :: cs) - 1) := by
  have hblank : isBlank c = false := by
    rw [← Bool.not_eq_true]
    intro hblank
    rcases hc with hc | rfl
    · rw [isDigit_of_isBlank hblank] at hc
      cases hc
    · exact absurd hblank (by decide)
  rw [lexemeLength?, hblank, if_pos h]
  rfl

/-- A sign of a field name is found, or a numeral that starts with it. -/
theorem lexemeLength?_punctuation (hc : c ∈ "$#.&@?!".toList) (cs : List Char) :
    lexemeLength? c cs = some (some .punctuation, 0)
      ∨ ∃ n, lexemeLength? c cs = some (some .number, n + 1) := by
  by_cases hpoint : c = '.'
  · subst hpoint
    have hwhole : ∀ c ∈ ([] : List Char), isDigit c = true := fun _ h => absurd h List.not_mem_nil
    have hmantissa := mantissaLength_point hwhole cs
    rw [List.nil_append, List.length_nil, Nat.zero_add, Nat.zero_add] at hmantissa
    by_cases hrun : digitRun cs = 0
    · have hnumber : numberLength ('.' :: cs) = 0 := by
        rw [numberLength, hmantissa, if_pos hrun]
        rfl
      left
      rw [lexemeLength?, hnumber]
      rfl
    · have hnumber : 1 + digitRun cs ≤ numberLength ('.' :: cs) := by
        rw [numberLength, hmantissa, if_neg hrun, if_neg (by omega)]
        omega
      right
      refine ⟨numberLength ('.' :: cs) - 2, ?_⟩
      rw [lexemeLength?_numeral (.inr rfl) (by omega)]
      congr 2
      omega
  · have hc : c ∈ ['$', '#', '.', '&', '@', '?', '!'] := hc
    simp only [List.mem_cons, List.not_mem_nil, or_false, hpoint, false_or] at hc
    left
    rcases hc with rfl | rfl | rfl | rfl | rfl | rfl
    all_goals
      rw [lexemeLength?, numberLength_eq_zero (by decide) (by decide)]
      rfl

theorem lexemeLength?_operator (hc : c ∈ "-+*/%".toList) :
    lexemeLength? c cs = some (some .operator, 0) := by
  have hc : c ∈ ['-', '+', '*', '/', '%'] := hc
  simp only [List.mem_cons, List.not_mem_nil, or_false] at hc
  rcases hc with rfl | rfl | rfl | rfl | rfl
  all_goals
    rw [lexemeLength?, numberLength_eq_zero (by decide) (by decide)]
    rfl

/-- A lexeme at the head of a text is found, or a longer one. -/
theorem lexemeLength?_reaches {kind? : Option TokenKind} {lexeme : List Char}
    (h : Lexical kind? lexeme) (hstarts : lexeme <+: c :: cs) :
    ∃ found n, lexemeLength? c cs = some (found, n)
      ∧ lexeme.length ≤ n + 1 ∧ (lexeme.length = n + 1 → found = kind?) := by
  obtain ⟨rest, hrest⟩ := hstarts
  cases h with
  | blanks hne h =>
    obtain ⟨b, bs, rfl⟩ := List.exists_cons_of_ne_nil hne
    rw [List.forall_mem_cons] at h
    rw [List.cons_append] at hrest
    obtain ⟨rfl, rfl⟩ := List.cons.inj hrest
    refine ⟨none, _, by rw [lexemeLength?, if_pos h.1], ?_, fun _ => rfl⟩
    rw [List.takeWhile_append_of_pos h.2, List.length_append, List.length_cons]
    omega
  | number h =>
    obtain ⟨d, ds, rfl, hd⟩ := h.head
    have hle := le_numberLength h rest
    rw [hrest, List.length_cons] at hle
    rw [List.cons_append] at hrest
    obtain ⟨rfl, -⟩ := List.cons.inj hrest
    refine ⟨_, _, lexemeLength?_numeral hd (by omega), ?_, fun _ => rfl⟩
    rw [List.length_cons]
    omega
  | string inner =>
    rw [List.cons_append, List.append_assoc] at hrest
    obtain ⟨rfl, rfl⟩ := List.cons.inj hrest
    obtain ⟨n, hn, hle⟩ := le_closingLength? '\'' inner rest
    refine ⟨some .string, n, ?_, ?_, fun _ => rfl⟩
    · rw [lexemeLength?, numberLength_eq_zero (by decide) (by decide)]
      exact congrArg (Option.map fun n => (some TokenKind.string, n)) hn
    · rw [List.length_cons, List.length_append, List.length_singleton]
      omega
  | @quotedName inner hne =>
    rw [List.cons_append, List.append_assoc] at hrest
    obtain ⟨rfl, rfl⟩ := List.cons.inj hrest
    obtain ⟨n, hn, hle⟩ := le_closingLengthNonempty? '"' hne rest
    refine ⟨some .quotedName, n, ?_, ?_, fun _ => rfl⟩
    · rw [lexemeLength?, numberLength_eq_zero (by decide) (by decide)]
      exact congrArg (Option.map fun n => (some TokenKind.quotedName, n)) hn
    · rw [List.length_cons, List.length_append, List.length_singleton]
      omega
  | name hc h =>
    rw [List.cons_append] at hrest
    obtain ⟨rfl, rfl⟩ := List.cons.inj hrest
    refine ⟨_, _, lexemeLength?_name hc _, ?_, fun _ => rfl⟩
    rw [List.takeWhile_append_of_pos h, List.length_append, List.length_cons]
    omega
  | operator hc =>
    obtain ⟨rfl, -⟩ := List.cons.inj hrest
    exact ⟨_, _, lexemeLength?_operator hc, Nat.le_refl 1, fun _ => rfl⟩
  | punctuation hc =>
    obtain ⟨rfl, -⟩ := List.cons.inj hrest
    rcases lexemeLength?_punctuation hc cs with hfound | ⟨n, hfound⟩
    · exact ⟨_, _, hfound, Nat.le_refl 1, fun _ => rfl⟩
    · exact ⟨_, _, hfound, by simp, by simp⟩
  | leftParen | rightParen | comma =>
    obtain ⟨rfl, -⟩ := List.cons.inj hrest
    refine ⟨_, 0, ?_, Nat.le_refl 1, fun _ => rfl⟩
    rw [lexemeLength?, numberLength_eq_zero (by decide) (by decide)]
    rfl

/-! ## What it does not depend on -/

/-- What is found at the head of a text is found without what stands after it. -/
theorem lexemeLength?_take {kind? : Option TokenKind} {n j : Nat}
    (h : lexemeLength? c cs = some (kind?, n)) (hj : n ≤ j) :
    lexemeLength? c (cs.take j) = some (kind?, n) := by
  have hn := lexemeLength?_le h
  -- the lexeme stands at the head of the shorter text, too, and what is found there at the head of
  -- the longer one
  have hshort : c :: cs.take n <+: c :: cs.take j :=
    List.cons_prefix_cons.2 ⟨rfl, List.take_prefix_take_left hj⟩
  obtain ⟨found, m, hfound, hle, hkind⟩ :=
    lexemeLength?_reaches (lexical_of_lexemeLength? h) hshort
  have hm := lexemeLength?_le hfound
  have hlong : c :: (cs.take j).take m <+: c :: cs :=
    List.cons_prefix_cons.2 ⟨rfl, (List.take_prefix m _).trans (List.take_prefix j cs)⟩
  obtain ⟨found', m', hfound', hle', -⟩ :=
    lexemeLength?_reaches (lexical_of_lexemeLength? hfound) hlong
  rw [h] at hfound'
  cases hfound'
  rw [List.length_cons, List.length_take, Nat.min_eq_left hn] at hle hkind
  rw [List.length_cons, List.length_take, Nat.min_eq_left hm] at hle'
  obtain rfl : m = n := by omega
  rw [hfound, hkind rfl]

end MetricLayer.Lexer
