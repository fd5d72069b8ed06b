import MetricLayer.Proofs.Expr.LexicalClasses

/-!
# Nothing is lost in tokens

The tokens of a text stand in it at their positions, one after another, and between them there are
blanks only (`Lossless`).  Each is the longest lexeme that starts where it stands, so it is read
alone as it is read there.  A text that has no tokens is refused at the first position at which
neither a lexeme nor a run of blanks starts (`items_lossless`).
-/

namespace MetricLayer.Lexer

open MetricLayer.Text

variable {cs : List Char} {c : Char} {pos : Nat} {ts : List Token}

/-- Nothing is found only where no lexeme and no blank starts. -/
theorem lexemeLength?_eq_none_iff : lexemeLength? c cs = none
    ↔ ∀ kind? lexeme, Lexical kind? lexeme → ¬lexeme <+: c :: cs := by
  constructor
  · intro hnone kind? lexeme hlexical hstarts
    obtain ⟨found, n, hfound, -⟩ := lexemeLength?_reaches hlexical hstarts
    rw [hnone] at hfound
    cases hfound
  · intro hnone
    cases hfound : lexemeLength? c cs with
    | none => rfl
    | some found =>
      obtain ⟨kind?, n⟩ := found
      exact absurd (List.cons_prefix_cons.2 ⟨rfl, List.take_prefix n cs⟩)
        (hnone kind? _ (lexical_of_lexemeLength? hfound))

/-- Each token was found where it stands. -/
theorem tokensFrom_found (h : tokensFrom pos cs = .ok ts) :
    ∀ t ∈ ts, pos ≤ t.pos ∧ ∃ c rest n, cs.drop (t.pos - pos) = c :: rest
      ∧ lexemeLength? c rest = some (some t.kind, n) ∧ t.chars = c :: rest.take n := by
  fun_induction tokensFrom pos cs generalizing ts with
  | case1 =>
    cases h
    exact fun _ ht => absurd ht List.not_mem_nil
  | case2 => cases h
  | case3 pos c cs kind? more hlength ih =>
    obtain ⟨rest, hrest, h⟩ := bind_eq_ok.1 h
    have hothers : ∀ t ∈ rest, pos ≤ t.pos ∧ ∃ d after n,
        (c :: cs).drop (t.pos - pos) = d :: after
          ∧ lexemeLength? d after = some (some t.kind, n) ∧ t.chars = d :: after.take n := by
      intro t ht
      obtain ⟨hlow, d, after, n, hdrop, hfound⟩ := ih hrest t ht
      have hplace : t.pos - pos = (more + (t.pos - (pos + 1 + more))) + 1 := by omega
      refine ⟨by omega, d, after, n, ?_, hfound⟩
      rw [hplace, List.drop_succ_cons, ← List.drop_drop, hdrop]
    cases kind? with
    | none =>
      rw [← pure_eq_ok.1 h]
      exact hothers
    | some kind =>
      rw [← pure_eq_ok.1 h]
      refine List.forall_mem_cons.2 ⟨⟨Nat.le_refl _, c, cs, more, ?_, hlength, rfl⟩, hothers⟩
      rw [Nat.sub_self, List.drop_zero]

/-- Each token ends before the next one starts. -/
theorem tokensFrom_apart (h : tokensFrom pos cs = .ok ts) :
    (∀ t ∈ ts, pos ≤ t.pos) ∧ ts.Pairwise fun t u => t.stop ≤ u.pos := by
  induction ts generalizing pos cs with
  | nil => exact ⟨fun _ ht => absurd ht List.not_mem_nil, .nil⟩
  | cons t ts ih =>
    obtain ⟨blanks, rest, -, -, hpos, hrest⟩ := tokensFrom_cons h
    obtain ⟨hlow, hpairs⟩ := ih hrest
    refine ⟨List.forall_mem_cons.2 ⟨by omega, fun u hu => ?_⟩, List.pairwise_cons.2 ⟨hlow, hpairs⟩⟩
    have := hlow u hu
    rw [Token.stop] at this
    omega

/-- What is in no token is blank. -/
theorem tokensFrom_gaps (h : tokensFrom pos cs = .ok ts) {i : Nat} (hc : cs[i]? = some c)
    (hgap : ∀ t ∈ ts, ¬(t.pos ≤ pos + i ∧ pos + i < t.stop)) : isBlank c = true := by
  induction ts generalizing pos cs i with
  | nil => exact blank_of_tokensFrom_nil h c (List.mem_of_getElem? hc)
  | cons t ts ih =>
    obtain ⟨blanks, rest, rfl, hblanks, hpos, hrest⟩ := tokensFrom_cons h
    rw [List.forall_mem_cons] at hgap
    rcases Nat.lt_or_ge i blanks.length with hbefore | hbefore
    · rw [List.getElem?_append_left hbefore] at hc
      exact hblanks c (List.mem_of_getElem? hc)
    · have hafter : t.chars.length ≤ i - blanks.length := by
        by_contra hinside
        exact hgap.1 ⟨by omega, by rw [Token.stop]; omega⟩
      rw [List.getElem?_append_right hbefore, List.getElem?_append_right hafter] at hc
      refine ih hrest hc fun u hu => ?_
      have hsame : t.stop + (i - blanks.length - t.chars.length) = pos + i := by
        rw [Token.stop]
        omega
      rw [hsame]
      exact hgap.2 u hu

/-- A token is read alone as it is read in the text. -/
theorem tokens_alone {n : Nat} {kind : TokenKind}
    (h : lexemeLength? c cs = some (some kind, n)) :
    tokens (c :: cs.take n) = .ok [⟨kind, c :: cs.take n, 0⟩] := by
  have hdrop : (cs.take n).drop n = [] := by rw [List.drop_take, Nat.sub_self, List.take_zero]
  rw [tokens, tokensFrom_lexeme 0 (lexemeLength?_take h (Nat.le_refl n)), hdrop, tokensFrom,
    List.take_take, Nat.min_self]
  rfl

/-- A text without tokens has them up to a character at which nothing is found. -/
theorem tokensFrom_until {fault : ExprFault} (h : tokensFrom pos cs = .error fault) :
    ∃ c rest n ts, fault = .unexpectedCharacter c (pos + n) ∧ cs.drop n = c :: rest
      ∧ lexemeLength? c rest = none ∧ tokensFrom pos (cs.take n) = .ok ts := by
  fun_induction tokensFrom pos cs with
  | case1 => cases h
  | case2 pos c cs hnone =>
    cases h
    exact ⟨c, cs, 0, [], rfl, rfl, hnone, by rw [List.take_zero, tokensFrom]⟩
  | case3 pos c cs kind? more hlength ih =>
    rcases bind_eq_error.1 h with h | ⟨rest, -, h⟩
    · obtain ⟨d, rest, n, ts, hfault, hdrop, hnone, hts⟩ := ih h
      have hfirst := lexemeLength?_take hlength (Nat.le_add_right more n)
      have hthen : (cs.take (more + n)).drop more = (cs.drop more).take n := by
        rw [List.drop_take, Nat.add_sub_cancel_left]
      obtain ⟨us, hus⟩ : ∃ us, tokensFrom pos ((c :: cs).take (more + n + 1)) = .ok us := by
        rw [List.take_succ_cons, tokensFrom_lexeme pos hfirst, hthen, hts]
        cases kind? <;> exact ⟨_, rfl⟩
      refine ⟨d, rest, more + n + 1, us, ?_, ?_, hnone, hus⟩
      · rw [hfault]
        congr 1
        omega
      · rw [List.drop_succ_cons, ← List.drop_drop, hdrop]
    · cases kind? <;> cases h

/-! ## The law -/

/-- The tokens stand in the source one after another, with nothing but blanks beside them. -/
structure Lossless (source : List Char) (ts : List Token) : Prop where
  /-- No token is empty. -/
  nonempty : ∀ t ∈ ts, t.chars ≠ []
  /-- Each token is the part of the source at its position. -/
  placed : ∀ t ∈ ts, t.stop ≤ source.length ∧ slice source t.pos t.stop = t.chars
  /-- Positions increase, and each token ends before the next one starts. -/
  apart : ts.Pairwise fun t u => t.pos < u.pos ∧ t.stop ≤ u.pos
  /-- A character that is in no token is blank. -/
  gaps : ∀ i c, source[i]? = some c → (∀ t ∈ ts, ¬(t.pos ≤ i ∧ i < t.stop)) → isBlank c = true
  /-- Each token is a lexeme of its kind. -/
  lexical : ∀ t ∈ ts, Lexical (some t.kind) t.chars
  /-- No longer lexeme starts where a token stands. -/
  longest : ∀ t ∈ ts, ∀ kind? lexeme, Lexical kind? lexeme → lexeme <+: source.drop t.pos →
    lexeme.length ≤ t.chars.length
  /-- Each token is the only one of its characters. -/
  alone : ∀ t ∈ ts, tokens t.chars = .ok [{ t with pos := 0 }]

theorem lossless_of_tokens {source : List Char} (h : tokens source = .ok ts) :
    Lossless source ts := by
  have hslice := tokensFrom_slice (show ([] : List Char).length = 0 from rfl) h
  have hfound : ∀ t ∈ ts, ∃ c rest n, source.drop t.pos = c :: rest
      ∧ lexemeLength? c rest = some (some t.kind, n) ∧ t.chars = c :: rest.take n :=
    fun t ht => (tokensFrom_found h t ht).2
  have hnonempty : ∀ t ∈ ts, t.chars ≠ [] := by
    intro t ht
    obtain ⟨c, rest, n, -, -, hchars⟩ := hfound t ht
    rw [hchars]
    exact List.cons_ne_nil _ _
  refine ⟨hnonempty, fun t ht => ?_, ?_, fun i c hc hgap => ?_, fun t ht => ?_,
    fun t ht kind? lexeme hlexical hstarts => ?_, fun t ht => ?_⟩
  · obtain ⟨-, hstop, hplace⟩ := hslice t ht
    exact ⟨by rwa [Nat.zero_add] at hstop, hplace⟩
  · refine (tokensFrom_apart h).2.imp_of_mem fun {t u} ht _ hstop => ⟨?_, hstop⟩
    have hpos := List.length_pos_of_ne_nil (hnonempty t ht)
    rw [Token.stop] at hstop
    omega
  · exact tokensFrom_gaps h hc (by simpa only [Nat.zero_add] using hgap)
  · obtain ⟨c, rest, n, -, hlength, hchars⟩ := hfound t ht
    rw [hchars]
    exact lexical_of_lexemeLength? hlength
  · obtain ⟨c, rest, n, hdrop, hlength, hchars⟩ := hfound t ht
    rw [hdrop] at hstarts
    obtain ⟨found, m, hm, hle, -⟩ := lexemeLength?_reaches hlexical hstarts
    rw [hlength] at hm
    cases hm
    rw [hchars, List.length_cons, List.length_take, Nat.min_eq_left (lexemeLength?_le hlength)]
    exact hle
  · obtain ⟨c, rest, n, -, hlength, hchars⟩ := hfound t ht
    rw [hchars, tokens_alone hlength]

/-- Where a source is cut, each position is that of a token or a blank, or inside a token. -/
theorem Lossless.starts {source front : List Char} (h : Lossless front ts)
    (hfront : front <+: source) {m : Nat} (hm : m < front.length) :
    (∃ kind? lexeme, Lexical kind? lexeme ∧ lexeme <+: source.drop m)
      ∨ ∃ t ∈ ts, t.pos < m ∧ m < t.stop := by
  by_cases hgap : ∀ t ∈ ts, ¬(t.pos ≤ m ∧ m < t.stop)
  · have hblank := h.gaps m front[m] (List.getElem?_eq_getElem hm) hgap
    refine .inl ⟨none, [front[m]], .blanks (List.cons_ne_nil _ _) (by simpa using hblank), ?_⟩
    refine List.IsPrefix.trans ?_ (hfront.drop m)
    rw [List.drop_eq_getElem_cons hm]
    exact List.prefix_append [front[m]] _
  · push Not at hgap
    obtain ⟨t, ht, hlow, hhigh⟩ := hgap
    rcases Nat.eq_or_lt_of_le hlow with hsame | hinside
    · have hplaced := (h.placed t ht).2
      refine .inl ⟨some t.kind, t.chars, h.lexical t ht, ?_⟩
      rw [← hplaced, slice, ← hsame, List.drop_take]
      exact (List.take_prefix _ _).trans (hfront.drop t.pos)
    · exact .inr ⟨t, ht, hinside, hhigh⟩

/-- A source is cut without loss, and the mark of its end stands at its length.  Or it is refused for
a character at which nothing starts, while at each position before it a lexeme or a blank starts,
unless the position is inside a token. -/
theorem items_lossless (source : List Char) :
    match items source with
    | .ok found => ∃ ts, found = ts.map .token ++ [.finish source.length] ∧ Lossless source ts
    | .error fault => ∃ c n ts, fault = .unexpectedCharacter c n ∧ source[n]? = some c
      ∧ (∀ kind? lexeme, Lexical kind? lexeme → ¬lexeme <+: source.drop n)
      ∧ tokens (source.take n) = .ok ts ∧ Lossless (source.take n) ts
      ∧ ∀ m < n, (∃ kind? lexeme, Lexical kind? lexeme ∧ lexeme <+: source.drop m)
        ∨ ∃ t ∈ ts, t.pos < m ∧ m < t.stop := by
  cases htokens : tokens source with
  | ok ts =>
    have hitems : items source = .ok (ts.map .token ++ [.finish source.length]) := by
      rw [items, htokens]
      rfl
    rw [hitems]
    exact ⟨ts, rfl, lossless_of_tokens htokens⟩
  | error fault =>
    have hitems : items source = .error fault := by
      rw [items, htokens]
      rfl
    rw [hitems]
    obtain ⟨c, rest, n, ts, hfault, hdrop, hnone, hts⟩ := tokensFrom_until htokens
    have hlossless := lossless_of_tokens hts
    have hn : n < source.length := by
      by_contra hlong
      rw [List.drop_eq_nil_of_le (Nat.le_of_not_lt hlong)] at hdrop
      cases hdrop
    refine ⟨c, n, ts, by rw [hfault, Nat.zero_add], ?_, ?_, hts, hlossless, fun m hm => ?_⟩
    · rw [← List.head?_drop, hdrop, List.head?_cons]
    · rw [hdrop]
      exact lexemeLength?_eq_none_iff.1 hnone
    · refine hlossless.starts (List.take_prefix n source) ?_
      rw [List.length_take]
      omega

end MetricLayer.Lexer
