import MetricLayer.Proofs.Expr.Tokens
import MetricLayer.Text.Search
import Mathlib

/-!
# Parts of the source of an expression

A part of a source that only blanks and closing parentheses follow can be read on its own.  Its
tokens are the same as in the source, at other positions (`tokensFrom_append`, `tokensFrom_blanks`,
`tokensFrom_moved`).  No quote may follow it, since a quote can move the end of a text in quotes.

In the other direction, the first and the last token of a source divide it (`tokensFrom_cons`,
`tokensFrom_concat`).
-/

namespace MetricLayer.Lexer

open MetricLayer.Text

/-! ## What may follow a part -/

/-- The text holds blanks and closing parentheses only. -/
def IsClosing (rest : List Char) : Prop := ∀ c ∈ rest, isBlank c = true ∨ c = ')'

variable {cs rest : List Char} {c : Char}

theorem ne_of_closing (hc : isBlank c = true ∨ c = ')') {d : Char}
    (hd : 0x20 < d.toNat ∧ d.toNat < 0x80 ∧ d ≠ ')') : c ≠ d := by
  rintro rfl
  rcases hc with hc | rfl
  · have := toNat_of_isBlank hc
    omega
  · exact hd.2.2 rfl

theorem toNat_of_isNameChar (h : isNameChar c = true) : 0x30 ≤ c.toNat ∧ c.toNat ≤ 0x7A := by
  have hval : c.toNat = c.val.toNat := rfl
  simp only [isNameChar, Char.isAlphanum, Char.isAlpha, Char.isUpper, Char.isLower, Char.isDigit,
    Bool.or_eq_true, Bool.and_eq_true, decide_eq_true_eq, ge_iff_le, UInt32.le_iff_toNat_le] at h
  rcases h with ((h | h) | h) | rfl
  · exact ⟨Nat.le_trans (by decide) h.1, Nat.le_trans h.2 (by decide)⟩
  · exact ⟨Nat.le_trans (by decide) h.1, Nat.le_trans h.2 (by decide)⟩
  · exact ⟨Nat.le_trans (by decide) h.1, Nat.le_trans h.2 (by decide)⟩
  · decide

theorem isNameChar_of_closing (hc : isBlank c = true ∨ c = ')') : isNameChar c = false := by
  rw [← Bool.not_eq_true]
  intro hname
  have hrange := toNat_of_isNameChar hname
  rcases hc with hc | rfl
  · have := toNat_of_isBlank hc
    omega
  · exact absurd hname (by decide)

theorem isDigit_of_closing (hc : isBlank c = true ∨ c = ')') : isDigit c = false := by
  rcases hc with hc | rfl
  · exact isDigit_of_isBlank hc
  · decide

theorem IsClosing.head (h : IsClosing rest) : ∀ c ∈ rest.head?, isBlank c = true ∨ c = ')' :=
  fun c hc => h c (List.mem_of_mem_head? hc)

theorem IsClosing.of_blanks (h : ∀ c ∈ rest, isBlank c = true) : IsClosing rest :=
  fun c hc => .inl (h c hc)

theorem IsClosing.append (hcs : IsClosing cs) (hrest : IsClosing rest) : IsClosing (cs ++ rest) :=
  fun c hc => (List.mem_append.1 hc).elim (hcs c) (hrest c)

theorem isClosing_rightParen : IsClosing [')'] := by simp [IsClosing]

/-! ## Lexemes before closing parentheses -/

theorem digitRun_append (cs : List Char) (h : IsClosing rest) :
    digitRun (cs ++ rest) = digitRun cs := by
  rw [digitRun, (takeWhile_append_stop cs fun c hc => isDigit_of_closing (h.head c hc)).1, digitRun]

theorem digitRun_le (cs : List Char) : digitRun cs ≤ cs.length :=
  (List.takeWhile_sublist _).length_le

/-- The length of the sign of an exponent. -/
def signLength (cs : List Char) : Nat := if cs.head? = some '+' ∨ cs.head? = some '-' then 1 else 0

theorem signLength_le (cs : List Char) : signLength cs ≤ cs.length := by
  cases cs with
  | nil => exact Nat.le_refl 0
  | cons c cs =>
    unfold signLength
    split <;> simp

theorem exponentLength_cons (e : Char) (cs : List Char) :
    exponentLength (e :: cs) = if e = 'e' || e = 'E' then
      if digitRun (cs.drop (signLength cs)) = 0 then 0
      else 1 + signLength cs + digitRun (cs.drop (signLength cs))
    else 0 := by
  cases cs with
  | nil => rfl
  | cons d cs =>
    by_cases hplus : d = '+'
    · subst hplus
      rfl
    · by_cases hminus : d = '-'
      · subst hminus
        rfl
      · simp [exponentLength, signLength, hplus, hminus]

theorem head?_append_closing (cs : List Char) (h : IsClosing rest) {d : Char}
    (hd : 0x20 < d.toNat ∧ d.toNat < 0x80 ∧ d ≠ ')') :
    (cs ++ rest).head? = some d ↔ cs.head? = some d := by
  cases cs with
  | nil =>
    rw [List.nil_append]
    refine ⟨fun hhead => absurd rfl (ne_of_closing (h.head d hhead) hd), fun hnil => ?_⟩
    cases hnil
  | cons c cs => exact Iff.rfl

theorem exponentLength_append (cs : List Char) (h : IsClosing rest) :
    exponentLength (cs ++ rest) = exponentLength cs := by
  cases cs with
  | nil =>
    cases rest with
    | nil => rfl
    | cons c rest =>
      have he : c ≠ 'e' := ne_of_closing (h c (by simp)) (by decide)
      have hE : c ≠ 'E' := ne_of_closing (h c (by simp)) (by decide)
      simp [exponentLength, he, hE]
  | cons e cs =>
    have hsign : signLength (cs ++ rest) = signLength cs := by
      simp only [signLength, head?_append_closing cs h (show 0x20 < '+'.toNat ∧ _ by decide),
        head?_append_closing cs h (show 0x20 < '-'.toNat ∧ _ by decide)]
    rw [List.cons_append, exponentLength_cons, exponentLength_cons, hsign,
      List.drop_append_of_le_length (signLength_le cs), digitRun_append _ h]

/-- The length of a mantissa, by what stands after its first digits. -/
theorem mantissaLength_eq (cs : List Char) :
    mantissaLength cs = if (cs.drop (digitRun cs)).head? = some '.' then
      (if digitRun cs + digitRun (cs.drop (digitRun cs)).tail = 0 then 0
        else digitRun cs + 1 + digitRun (cs.drop (digitRun cs)).tail)
    else digitRun cs := by
  simp only [mantissaLength]
  generalize cs.drop (digitRun cs) = tail
  cases tail with
  | nil => rfl
  | cons c tail =>
    by_cases hpoint : c = '.'
    · subst hpoint
      rfl
    · simp [hpoint]

theorem mantissaLength_append (cs : List Char) (h : IsClosing rest) :
    mantissaLength (cs ++ rest) = mantissaLength cs := by
  have hdrop : (cs ++ rest).drop (digitRun cs) = cs.drop (digitRun cs) ++ rest :=
    List.drop_append_of_le_length (digitRun_le cs)
  rw [mantissaLength_eq, mantissaLength_eq, digitRun_append cs h, hdrop]
  have hpoint := head?_append_closing (cs.drop (digitRun cs)) h (show 0x20 < '.'.toNat ∧ _ by decide)
  generalize cs.drop (digitRun cs) = tail at hpoint
  cases tail with
  | nil => simp only [hpoint, List.head?_nil, reduceCtorEq, if_false]
  | cons c tail => simp [digitRun_append tail h]

theorem exponentLength_le (cs : List Char) : exponentLength cs ≤ cs.length := by
  cases cs with
  | nil => exact Nat.le_refl 0
  | cons e cs =>
    have hsign := signLength_le cs
    have hrun := digitRun_le (cs.drop (signLength cs))
    rw [List.length_drop] at hrun
    rw [exponentLength_cons, List.length_cons]
    split_ifs <;> omega

theorem mantissaLength_le (cs : List Char) : mantissaLength cs ≤ cs.length := by
  have hwhole := digitRun_le cs
  have hrun := digitRun_le (cs.drop (digitRun cs)).tail
  rw [List.length_tail, List.length_drop] at hrun
  rw [mantissaLength_eq]
  split
  · next hpoint =>
    have hlong : digitRun cs < cs.length := by
      by_contra hshort
      rw [List.drop_eq_nil_of_le (Nat.le_of_not_lt hshort)] at hpoint
      cases hpoint
    split <;> omega
  · exact hwhole

theorem numberLength_append (cs : List Char) (h : IsClosing rest) :
    numberLength (cs ++ rest) = numberLength cs := by
  simp only [numberLength]
  rw [mantissaLength_append cs h, List.drop_append_of_le_length (mantissaLength_le cs),
    exponentLength_append _ h]

theorem numberLength_le (cs : List Char) : numberLength cs ≤ cs.length := by
  have hmantissa := mantissaLength_le cs
  have hexponent := exponentLength_le (cs.drop (mantissaLength cs))
  rw [List.length_drop] at hexponent
  simp only [numberLength]
  split <;> omega

/-- A text in quotes does not close where no quote stands. -/
theorem closingLength?_eq_none {q : Char} (h : q ∉ rest) : closingLength? q rest = none := by
  induction rest with
  | nil => rfl
  | cons c rest ih =>
    rw [List.mem_cons, not_or] at h
    have hc : c ≠ q := Ne.symm h.1
    cases rest with
    | nil => simp [closingLength?, hc]
    | cons d rest =>
      rw [closingLength?, if_neg hc, ih h.2]
      rfl

/-- Where a text in quotes closes does not depend on what follows without a quote. -/
theorem closingLength?_append {q : Char} (cs : List Char) (h : q ∉ rest) :
    closingLength? q (cs ++ rest) = closingLength? q cs := by
  fun_induction closingLength? q cs with
  | case1 => exact closingLength?_eq_none h
  | case2 =>
    cases rest with
    | nil => simp [closingLength?]
    | cons d rest =>
      rw [List.mem_cons, not_or] at h
      simp [closingLength?, Ne.symm h.1]
  | case3 c hc =>
    cases rest with
    | nil => simp [closingLength?, hc]
    | cons d rest =>
      rw [List.cons_append, List.nil_append, closingLength?, if_neg hc, closingLength?_eq_none h]
      rfl
  | case4 cs n hn ih =>
    rw [List.cons_append, List.cons_append, closingLength?, if_pos rfl, if_pos rfl, ih, hn]
  | case5 cs hn ih =>
    rw [List.cons_append, List.cons_append, closingLength?, if_pos rfl, if_pos rfl, ih, hn]
  | case6 d cs hd =>
    rw [List.cons_append, List.cons_append, closingLength?, if_pos rfl, if_neg hd]
  | case7 c d cs hc ih =>
    rw [List.cons_append, List.cons_append, closingLength?, if_neg hc, ← List.cons_append, ih]

theorem closingLengthNonempty?_append {q : Char} (cs : List Char) (h : q ∉ rest) :
    closingLengthNonempty? q (cs ++ rest) = closingLengthNonempty? q cs := by
  have hnone := closingLength?_eq_none h
  match cs, rest with
  | [], [] => rfl
  | [], [_] => rfl
  | [], c :: d :: rest =>
    rw [List.mem_cons, not_or] at h
    show closingLengthNonempty? q (c :: d :: rest) = none
    rw [closingLengthNonempty?, if_neg (Ne.symm h.1), hnone]
  | [c], [] => rfl
  | [c], d :: rest =>
    have happend := closingLength?_append [c] h
    rw [List.mem_cons, not_or] at h
    show closingLengthNonempty? q (c :: d :: rest) = none
    rw [List.cons_append, List.nil_append] at happend
    rw [closingLengthNonempty?, if_neg (Ne.symm h.1), happend]
    split_ifs with hc
    · rfl
    · simp [closingLength?, hc]
  | c :: d :: cs, rest =>
    have happend := closingLength?_append (c :: d :: cs) h
    rw [List.cons_append, List.cons_append] at happend ⊢
    rw [closingLengthNonempty?, closingLengthNonempty?, closingLength?_append cs h, happend]

theorem closingLength?_le {q : Char} {cs : List Char} {n : Nat} (h : closingLength? q cs = some n) :
    n ≤ cs.length := by
  fun_induction closingLength? q cs generalizing n with
  | case1 => cases h
  | case2 =>
    cases h
    exact Nat.le_refl 1
  | case3 => cases h
  | case4 cs m hm ih =>
    cases h
    have := ih hm
    simp only [List.length_cons]
    omega
  | case5 | case6 =>
    cases h
    simp only [List.length_cons]
    omega
  | case7 c d cs hc ih =>
    obtain ⟨m, hm, rfl⟩ := Option.map_eq_some_iff.1 h
    have := ih hm
    simp only [List.length_cons] at this ⊢
    omega

theorem closingLengthNonempty?_le {q : Char} {cs : List Char} {n : Nat}
    (h : closingLengthNonempty? q cs = some n) : n ≤ cs.length := by
  match cs with
  | [] | [_] => cases h
  | c :: d :: cs =>
    rw [closingLengthNonempty?] at h
    split_ifs at h with hc hd
    · obtain ⟨m, hm, rfl⟩ := Option.map_eq_some_iff.1 h
      have := closingLength?_le hm
      simp only [List.length_cons]
      omega
    · exact closingLength?_le h

/-- A lexeme that is no run of blanks does not reach over what follows a part. -/
theorem lexemeLength?_append (c : Char) (cs : List Char) (hc : isBlank c = false)
    (h : IsClosing rest) : lexemeLength? c (cs ++ rest) = lexemeLength? c cs := by
  have hsingle : '\'' ∉ rest := fun hq => ne_of_closing (h _ hq) (by decide) rfl
  have hdouble : '"' ∉ rest := fun hq => ne_of_closing (h _ hq) (by decide) rfl
  have hname := (takeWhile_append_stop (p := isNameChar) cs
    fun d hd => isNameChar_of_closing (h.head d hd)).1
  have hnumber := numberLength_append (c :: cs) h
  rw [List.cons_append] at hnumber
  simp only [lexemeLength?, hc, Bool.false_eq_true, if_false, hnumber, hname,
    closingLength?_append cs hsingle, closingLengthNonempty?_append cs hdouble]

theorem lexemeLength?_le {c : Char} {cs : List Char} {kind? : Option TokenKind} {n : Nat}
    (h : lexemeLength? c cs = some (kind?, n)) : n ≤ cs.length := by
  cases isLexeme_of_eq_some h with
  | blanks | name => exact (List.takeWhile_sublist _).length_le
  | number =>
    have hlength := numberLength_le (c :: cs)
    rw [List.length_cons] at hlength
    omega
  | string h => exact closingLength?_le h
  | quotedName h => exact closingLengthNonempty?_le h
  | _ => exact Nat.zero_le _

/-- A lexeme that is no token is a run of blanks. -/
theorem blank_of_lexemeLength? {n : Nat} (h : lexemeLength? c cs = some (none, n)) :
    ∀ d ∈ c :: cs.take n, isBlank d = true := by
  cases isLexeme_of_eq_some h with
  | blanks hblank =>
    rw [take_length_takeWhile]
    intro d hd
    rcases List.mem_cons.1 hd with rfl | hd
    · exact hblank
    · exact List.mem_takeWhile_imp hd

/-! ## Tokens of a part -/

theorem tokensFrom_lexeme {kind? : Option TokenKind} {n : Nat} (pos : Nat)
    (h : lexemeLength? c cs = some (kind?, n)) :
    tokensFrom pos (c :: cs) = do
      let ts ← tokensFrom (pos + 1 + n) (cs.drop n)
      match kind? with
      | none => return ts
      | some kind => return ⟨kind, c :: cs.take n, pos⟩ :: ts := by
  rw [tokensFrom]
  exact h ▸ rfl

theorem tokensFrom_blankRun (pos : Nat) (hc : isBlank c = true) (cs : List Char) :
    tokensFrom pos (c :: cs)
      = tokensFrom (pos + 1 + (cs.takeWhile isBlank).length) (cs.dropWhile isBlank) := by
  have hlength : lexemeLength? c cs = some (none, (cs.takeWhile isBlank).length) := by
    rw [lexemeLength?, if_pos hc]
  rw [tokensFrom_lexeme pos hlength, drop_length_takeWhile]
  exact bind_pure _

/-- A blank is passed over. -/
theorem tokensFrom_blank (pos : Nat) (hc : isBlank c = true) (cs : List Char) :
    tokensFrom pos (c :: cs) = tokensFrom (pos + 1) cs := by
  rw [tokensFrom_blankRun pos hc]
  cases cs with
  | nil => rfl
  | cons d cs =>
    cases hd : isBlank d with
    | true =>
      rw [tokensFrom_blankRun (pos + 1) hd, List.takeWhile_cons_of_pos hd,
        List.dropWhile_cons_of_pos hd, List.length_cons]
      congr 1
      omega
    | false =>
      rw [List.takeWhile_cons_of_neg (by rw [hd]; decide),
        List.dropWhile_cons_of_neg (by rw [hd]; decide)]
      rfl

/-- Blanks at the front only move the tokens. -/
theorem tokensFrom_blanks (pos : Nat) {blanks : List Char} (h : ∀ c ∈ blanks, isBlank c = true)
    (cs : List Char) : tokensFrom pos (blanks ++ cs) = tokensFrom (pos + blanks.length) cs := by
  induction blanks generalizing pos with
  | nil => rfl
  | cons c blanks ih =>
    rw [List.cons_append, tokensFrom_blank pos (h c (by simp)),
      ih (pos + 1) fun d hd => h d (List.mem_cons_of_mem _ hd), List.length_cons]
    congr 1
    omega

/-- The tokens of a text stand before those of the closing parentheses after it. -/
theorem tokensFrom_append (pos : Nat) (cs : List Char) (h : IsClosing rest) :
    tokensFrom pos (cs ++ rest) = do
      let ts ← tokensFrom pos cs
      let us ← tokensFrom (pos + cs.length) rest
      return ts ++ us := by
  fun_induction tokensFrom pos cs with
  | case1 pos =>
    rw [List.nil_append, List.length_nil, Nat.add_zero]
    exact (bind_pure _).symm
  | case2 pos c cs hnone =>
    have hc : isBlank c = false := by
      by_contra hblank
      rw [Bool.not_eq_false] at hblank
      rw [lexemeLength?, if_pos hblank] at hnone
      cases hnone
    rw [List.cons_append, tokensFrom, lexemeLength?_append c cs hc h, hnone]
    rfl
  | case3 pos c cs kind? more hlength ih =>
    have hmore := lexemeLength?_le hlength
    have hpos : pos + (c :: cs).length = pos + 1 + more + (cs.drop more).length := by
      rw [List.length_cons, List.length_drop]
      omega
    rw [hpos]
    cases hc : isBlank c with
    | true =>
      rw [lexemeLength?, if_pos hc] at hlength
      cases hlength
      have hrun : tokensFrom pos (c :: (cs ++ rest))
          = tokensFrom (pos + 1 + (cs.takeWhile isBlank).length)
            (cs.dropWhile isBlank ++ rest) := by
        have hblanks : ∀ d ∈ c :: cs.takeWhile isBlank, isBlank d = true := by
          intro d hd
          rcases List.mem_cons.1 hd with rfl | hd
          · exact hc
          · exact List.mem_takeWhile_imp hd
        have hsplit : c :: (cs ++ rest)
            = (c :: cs.takeWhile isBlank) ++ (cs.dropWhile isBlank ++ rest) := by
          rw [List.cons_append, ← List.append_assoc, List.takeWhile_append_dropWhile]
        rw [hsplit, tokensFrom_blanks pos hblanks, List.length_cons]
        congr 1
        omega
      rw [drop_length_takeWhile] at ih ⊢
      rw [List.cons_append, hrun, ih]
      simp only [bind_assoc, pure_bind]
    | false =>
      have happend := lexemeLength?_append c cs hc h
      rw [hlength] at happend
      rw [List.cons_append, tokensFrom_lexeme pos happend, List.drop_append_of_le_length hmore,
        List.take_append_of_le_length hmore, ih]
      cases kind? <;> simp only [bind_assoc, pure_bind, List.cons_append]

/-- The token as it stands in a text that starts at `stop` instead of `start`. -/
def moved (start stop : Nat) (t : Token) : Token := { t with pos := t.pos - start + stop }

/-- At another position a text has the same tokens, moved. -/
theorem tokensFrom_moved {start pos : Nat} {ts : List Token} (stop : Nat) (hpos : start ≤ pos)
    (h : tokensFrom pos cs = .ok ts) :
    tokensFrom (pos - start + stop) cs = .ok (ts.map (moved start stop)) := by
  fun_induction tokensFrom pos cs generalizing ts with
  | case1 pos =>
    cases h
    rw [tokensFrom]
    rfl
  | case2 => cases h
  | case3 pos c cs kind? more hlength ih =>
    obtain ⟨rest, hrest, h⟩ := bind_eq_ok.1 h
    have hnext : pos - start + stop + 1 + more = pos + 1 + more - start + stop := by omega
    rw [tokensFrom_lexeme _ hlength, hnext, ih (by omega) hrest]
    cases kind? with
    | none =>
      rw [← pure_eq_ok.1 h]
      rfl
    | some kind =>
      rw [← pure_eq_ok.1 h]
      rfl

/-! ## Slices of a part -/

theorem slice_append (before cs : List Char) (start stop : Nat) :
    slice (before ++ cs) (before.length + start) (before.length + stop) = slice cs start stop := by
  rw [slice, slice, List.take_length_add_append, List.drop_length_add_append]

/-- What stands between two positions of a text is found in a part that reaches over them. -/
theorem slice_between {before : List Char} {start a b : Nat} (after : List Char)
    (hstart : before.length = start) (ha : start ≤ a) (hb : b ≤ start + cs.length) :
    slice (before ++ (cs ++ after)) a b = slice cs (a - start) (b - start) := by
  have hbefore : (before.take b).drop a = [] := by
    refine List.drop_eq_nil_of_le ?_
    rw [List.length_take]
    omega
  have hinside : (cs ++ after).take (b - start) = cs.take (b - start) :=
    List.take_append_of_le_length (by omega)
  rw [slice, slice, List.take_append, List.drop_append, hbefore, hstart, hinside,
    List.nil_append, List.length_take]
  rcases Nat.le_total start b with hle | hle
  · rw [hstart, Nat.min_eq_right hle]
  · rw [Nat.sub_eq_zero_of_le hle]
    simp

/-- What stands between the ends of a part is the part. -/
theorem slice_part (before cs after : List Char) :
    slice (before ++ (cs ++ after)) before.length (before.length + cs.length) = cs := by
  rw [slice_between after rfl (Nat.le_refl _) (Nat.le_refl _), Nat.sub_self, Nat.add_sub_cancel_left,
    slice, List.take_length, List.drop_zero]

/-- Tokens stand where their positions say. -/
theorem tokensFrom_slice {pos : Nat} {before : List Char} {ts : List Token}
    (hpos : before.length = pos) (h : tokensFrom pos cs = .ok ts) :
    ∀ t ∈ ts, pos ≤ t.pos ∧ t.stop ≤ pos + cs.length
      ∧ slice (before ++ cs) t.pos t.stop = t.chars := by
  fun_induction tokensFrom pos cs generalizing before ts with
  | case1 =>
    cases h
    simp
  | case2 => cases h
  | case3 pos c cs kind? more hlength ih =>
    obtain ⟨rest, hrest, h⟩ := bind_eq_ok.1 h
    have hmore := lexemeLength?_le hlength
    have hothers : ∀ t ∈ rest, pos ≤ t.pos ∧ t.stop ≤ pos + (c :: cs).length
        ∧ slice (before ++ c :: cs) t.pos t.stop = t.chars := by
      intro t ht
      have hlonger : (before ++ c :: cs.take more).length = pos + 1 + more := by
        rw [List.length_append, List.length_cons, List.length_take, Nat.min_eq_left hmore, hpos]
        omega
      obtain ⟨hlow, hhigh, hslice⟩ := ih hlonger hrest t ht
      rw [List.length_drop] at hhigh
      rw [List.append_assoc, List.cons_append, List.take_append_drop] at hslice
      rw [List.length_cons]
      exact ⟨by omega, by omega, hslice⟩
    cases kind? with
    | none =>
      rw [← pure_eq_ok.1 h]
      exact hothers
    | some kind =>
      rw [← pure_eq_ok.1 h]
      intro t ht
      rcases List.mem_cons.1 ht with rfl | ht
      · have hlen : (c :: cs.take more).length = 1 + more := by
          rw [List.length_cons, List.length_take, Nat.min_eq_left hmore]
          omega
        refine ⟨Nat.le_refl _, ?_, ?_⟩
        · simp only [Token.stop, hlen, List.length_cons]
          omega
        · have hslice := slice_append before (c :: cs) 0 (more + 1)
          rw [Nat.add_zero, hpos] at hslice
          show slice (before ++ c :: cs) pos (pos + (c :: cs.take more).length) = _
          rw [hlen, Nat.add_comm 1, hslice]
          rfl
      · exact hothers t ht

/-- Blanks around a text only move its tokens. -/
theorem tokensFrom_trimmed (pos : Nat) {front back : List Char}
    (hfront : ∀ c ∈ front, isBlank c = true) (hback : ∀ c ∈ back, isBlank c = true)
    (cs : List Char) :
    tokensFrom pos (front ++ (cs ++ back)) = tokensFrom (pos + front.length) cs := by
  have hnone : ∀ p, tokensFrom p back = .ok [] := by
    intro p
    have := tokensFrom_blanks p hback []
    rw [List.append_nil] at this
    rw [this, tokensFrom]
  rw [tokensFrom_blanks pos hfront, tokensFrom_append _ cs (.of_blanks hback), hnone]
  cases tokensFrom (pos + front.length) cs with
  | error fault => rfl
  | ok ts => exact congrArg Except.ok (List.append_nil ts)

/-! ## Names and parentheses -/

theorem numberLength_eq_zero {c : Char} (hdigit : isDigit c = false) (hpoint : c ≠ '.')
    (cs : List Char) : numberLength (c :: cs) = 0 := by
  have hrun : digitRun (c :: cs) = 0 := by
    rw [digitRun, List.takeWhile_cons_of_neg (by rw [hdigit]; decide)]
    rfl
  have hmantissa : mantissaLength (c :: cs) = 0 := by
    rw [mantissaLength_eq, hrun, List.drop_zero, List.head?_cons, if_neg (by simpa using hpoint)]
  rw [numberLength, hmantissa]
  rfl

theorem toNat_of_isNameStart (h : isNameStart c = true) : 0x41 ≤ c.toNat ∧ c.toNat ≤ 0x7A := by
  simp only [isNameStart, Char.isAlpha, Char.isUpper, Char.isLower, Bool.or_eq_true,
    Bool.and_eq_true, decide_eq_true_eq, ge_iff_le, UInt32.le_iff_toNat_le] at h
  rcases h with (h | h) | rfl
  · exact ⟨h.1, Nat.le_trans h.2 (by decide)⟩
  · exact ⟨Nat.le_trans (by decide) h.1, h.2⟩
  · decide

/-- What starts like a name is one, up to where the name ends. -/
theorem lexemeLength?_name (hc : isNameStart c = true) (cs : List Char) :
    lexemeLength? c cs = some (some .name, (cs.takeWhile isNameChar).length) := by
  have hrange := toNat_of_isNameStart hc
  have hblank : isBlank c = false := by
    rw [← Bool.not_eq_true]
    intro hblank
    have := toNat_of_isBlank hblank
    omega
  have hdigit : isDigit c = false := by
    rw [← Bool.not_eq_true]
    intro hdigit
    rcases isDigit_cases hdigit with hdigit | hlarge
    · rw [Char.isDigit, Bool.and_eq_true, decide_eq_true_eq, decide_eq_true_eq] at hdigit
      have : c.toNat ≤ 0x39 := UInt32.le_iff_toNat_le.1 hdigit.2
      omega
    · omega
  have hne : ∀ {d : Char}, d.toNat < 0x41 → c ≠ d := by
    rintro d hd rfl
    omega
  rw [lexemeLength?, hblank, numberLength_eq_zero hdigit (hne (by decide))]
  simp [hne (show '\''.toNat < 0x41 by decide), hne (show '"'.toNat < 0x41 by decide), hc]

/-- A name is a token of its own. -/
theorem tokensFrom_name (pos : Nat) {rest : List Char} (hc : isNameStart c = true)
    (hcs : ∀ d ∈ cs, isNameChar d = true) (hrest : ∀ d ∈ rest.head?, isNameChar d = false) :
    tokensFrom pos (c :: (cs ++ rest)) = do
      let ts ← tokensFrom (pos + (c :: cs).length) rest
      return ⟨.name, c :: cs, pos⟩ :: ts := by
  have hlength := lexemeLength?_name hc (cs ++ rest)
  rw [(takeWhile_append_stop (p := isNameChar) cs hrest).1, List.takeWhile_eq_self_iff.2 hcs]
    at hlength
  rw [tokensFrom_lexeme pos hlength, List.drop_left, List.take_left, List.length_cons,
    Nat.add_assoc, Nat.add_comm 1]

theorem tokensFrom_leftParen (pos : Nat) (cs : List Char) :
    tokensFrom pos ('(' :: cs) = do
      let ts ← tokensFrom (pos + 1) cs
      return ⟨.leftParen, ['('], pos⟩ :: ts := by
  have hnumber := numberLength_eq_zero (show isDigit '(' = false by decide) (by decide) cs
  have hlength : lexemeLength? '(' cs = some (some .leftParen, 0) := by
    rw [lexemeLength?, hnumber]
    rfl
  rw [tokensFrom_lexeme pos hlength]
  rfl

theorem tokensFrom_rightParen (pos : Nat) :
    tokensFrom pos [')'] = .ok [⟨.rightParen, [')'], pos⟩] := by
  have hnumber := numberLength_eq_zero (show isDigit ')' = false by decide) (by decide) []
  have hlength : lexemeLength? ')' [] = some (some .rightParen, 0) := by
    rw [lexemeLength?, hnumber]
    rfl
  rw [tokensFrom_lexeme pos hlength, List.drop_nil, tokensFrom]
  rfl

/-! ## Dividing a source at a token -/

/-- A text without tokens is blank. -/
theorem blank_of_tokensFrom_nil {pos : Nat} (h : tokensFrom pos cs = .ok []) :
    ∀ c ∈ cs, isBlank c = true := by
  fun_induction tokensFrom pos cs with
  | case1 => simp
  | case2 => cases h
  | case3 pos c cs kind? more hlength ih =>
    obtain ⟨rest, hrest, h⟩ := bind_eq_ok.1 h
    cases kind? with
    | none =>
      have hblanks := blank_of_lexemeLength? hlength
      cases pure_eq_ok.1 h
      intro d hd
      rw [← List.take_append_drop more cs, ← List.cons_append, List.mem_append] at hd
      exact hd.elim (hblanks d) (ih hrest d)
    | some kind => cases pure_eq_ok.1 h

/-- Before the first token stand blanks, and the other tokens are those of the text after it. -/
theorem tokensFrom_cons {pos : Nat} {t : Token} {ts : List Token}
    (h : tokensFrom pos cs = .ok (t :: ts)) :
    ∃ blanks rest, cs = blanks ++ (t.chars ++ rest) ∧ (∀ c ∈ blanks, isBlank c = true)
      ∧ t.pos = pos + blanks.length ∧ tokensFrom t.stop rest = .ok ts := by
  fun_induction tokensFrom pos cs with
  | case1 => cases h
  | case2 => cases h
  | case3 pos c cs kind? more hlength ih =>
    obtain ⟨us, hus, h⟩ := bind_eq_ok.1 h
    have hmore := lexemeLength?_le hlength
    have hlen : (c :: cs.take more).length = 1 + more := by
      rw [List.length_cons, List.length_take, Nat.min_eq_left hmore]
      omega
    cases kind? with
    | none =>
      rw [pure_eq_ok.1 h] at hus
      obtain ⟨blanks, rest, hsplit, hblanks, hpos, hrest⟩ := ih hus
      refine ⟨c :: cs.take more ++ blanks, rest, ?_, fun d hd => ?_, ?_, hrest⟩
      · rw [List.append_assoc, ← hsplit, List.cons_append, List.take_append_drop]
      · exact (List.mem_append.1 hd).elim (blank_of_lexemeLength? hlength d) (hblanks d)
      · rw [hpos, List.length_append, hlen]
        omega
    | some kind =>
      obtain ⟨rfl, rfl⟩ := List.cons.inj (pure_eq_ok.1 h)
      refine ⟨[], cs.drop more, ?_, by simp, rfl, ?_⟩
      · rw [List.nil_append, List.cons_append, List.take_append_drop]
      · rw [Token.stop, hlen, ← Nat.add_assoc]
        exact hus

/-- The first token of a stripped text stands at its start. -/
theorem tokens_cons {t : Token} {ts : List Token} (hcs : IsStripped cs)
    (h : tokens cs = .ok (t :: ts)) :
    t.pos = 0 ∧ ∃ rest, cs = t.chars ++ rest ∧ tokensFrom t.stop rest = .ok ts := by
  obtain ⟨blanks, rest, hsplit, hblanks, hpos, hrest⟩ := tokensFrom_cons h
  cases blanks with
  | nil => exact ⟨hpos, rest, hsplit, hrest⟩
  | cons b blanks =>
    have hb := hcs.head b (by rw [hsplit]; rfl)
    rw [hblanks b List.mem_cons_self] at hb
    cases hb

/-- After the last token stand blanks. -/
theorem tokensFrom_concat {pos : Nat} {ts : List Token} {t : Token}
    (h : tokensFrom pos cs = .ok (ts ++ [t])) :
    ∃ front blanks, cs = front ++ (t.chars ++ blanks) ∧ (∀ c ∈ blanks, isBlank c = true)
      ∧ t.pos = pos + front.length := by
  induction ts generalizing pos cs with
  | nil =>
    obtain ⟨front, rest, hsplit, -, hpos, hrest⟩ := tokensFrom_cons h
    exact ⟨front, rest, hsplit, blank_of_tokensFrom_nil hrest, hpos⟩
  | cons u ts ih =>
    obtain ⟨blanks, rest, hsplit, -, hpos, hrest⟩ := tokensFrom_cons h
    obtain ⟨front, after, hrest, hafter, hlast⟩ := ih hrest
    refine ⟨blanks ++ (u.chars ++ front), after, ?_, hafter, ?_⟩
    · rw [hsplit, hrest, List.append_assoc, List.append_assoc]
    · rw [hlast, Token.stop, hpos, List.length_append, List.length_append]
      omega

end MetricLayer.Lexer
