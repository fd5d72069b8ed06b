import MetricLayer.Proofs.Sql.Lexing
import Mathlib.Data.List.TakeWhile

/-!
# Comment marks outside quotes

`hasCommentMark` looks for the two marks that start a comment in the part of a text that stands
outside quotes, character by character and without any lexeme.  A text whose lexemes hold no comment
has no such mark (`hasCommentMark_eq_false`).
-/

namespace MetricLayer.Sql

/-- A mark that starts a comment stands outside quotes, given the quote that is open. -/
def hasCommentMark (quote : Option Char) : List Char → Bool
  | [] => false
  | c :: cs =>
    match quote with
    | some q => hasCommentMark (if c = q then none else some q) cs
    | none =>
      startsLineComment c cs || startsBlockComment c cs
        || hasCommentMark (if c = '\'' || c = '"' then some c else none) cs

/-! ## One character -/

/-- A character that starts neither a comment nor a quote is passed over. -/
theorem hasCommentMark_cons {c : Char} {cs : List Char} (hl : startsLineComment c cs = false)
    (hb : startsBlockComment c cs = false) (hq : c ≠ '\'') (hqq : c ≠ '"') :
    hasCommentMark none (c :: cs) = hasCommentMark none cs := by
  simp [hasCommentMark, hl, hb, hq, hqq]

/-- The character is none that a comment or a quote starts with. -/
def isInert (c : Char) : Bool := c ≠ '-' && c ≠ '/' && c ≠ '\'' && c ≠ '"'

theorem hasCommentMark_inert {c : Char} (h : isInert c = true) (cs : List Char) :
    hasCommentMark none (c :: cs) = hasCommentMark none cs := by
  simp only [isInert, Bool.and_eq_true, and_assoc, ne_eq, decide_not,
    Bool.not_eq_true', decide_eq_false_iff_not] at h
  obtain ⟨hminus, hslash, hq, hqq⟩ := h
  exact hasCommentMark_cons (by simp [startsLineComment, hminus])
    (by simp [startsBlockComment, hslash]) hq hqq

theorem hasCommentMark_append {cs : List Char} (h : ∀ c ∈ cs, isInert c = true)
    (rest : List Char) : hasCommentMark none (cs ++ rest) = hasCommentMark none rest := by
  induction cs with
  | nil => rfl
  | cons c cs ih =>
    rw [List.cons_append, hasCommentMark_inert (h c (by simp)),
      ih fun d hd => h d (List.mem_cons_of_mem _ hd)]

theorem isInert_of_not {p : Char → Bool} {c : Char} (hc : p c = true)
    (hp : ∀ d ∈ "-/'\"".toList, p d = false) : isInert c = true := by
  have key : ∀ d ∈ "-/'\"".toList, c ≠ d := by
    rintro d hd rfl
    rw [hp _ hd] at hc
    cases hc
  simp [isInert, key '-' (by decide), key '/' (by decide), key '\'' (by decide),
    key '"' (by decide)]

/-- A run of characters without marks is passed over. -/
theorem hasCommentMark_dropWhile {p : Char → Bool} (hp : ∀ d ∈ "-/'\"".toList, p d = false)
    (cs : List Char) : hasCommentMark none (cs.dropWhile p) = hasCommentMark none cs := by
  have hrun : ∀ c ∈ cs.takeWhile p, isInert c = true := fun c hc =>
    isInert_of_not (List.mem_takeWhile_imp hc) hp
  have happend := hasCommentMark_append hrun (cs.dropWhile p)
  rw [List.takeWhile_append_dropWhile] at happend
  exact happend.symm

/-! ## One lexeme -/

/-- The reader of a quoted text and the search leave the quotes at the same place. -/
theorem hasCommentMark_readQuoted {q : Char} (hq : q = '\'' ∨ q = '"') {cs : List Char}
    {r : List Char × List Char} (h : readQuoted q cs = some r) :
    hasCommentMark (some q) cs = hasCommentMark none r.2 := by
  have hopen : ∀ ds, hasCommentMark none (q :: ds) = hasCommentMark (some q) ds := by
    intro ds
    rcases hq with rfl | rfl <;> simp [hasCommentMark, startsLineComment, startsBlockComment]
  fun_induction readQuoted q cs generalizing r with
  | case1 | case3 => simp at h
  | case2 =>
    cases h
    simp [hasCommentMark]
  | case4 rest ih =>
    obtain ⟨r', hr', rfl⟩ := Option.map_eq_some_iff.1 h
    rw [hasCommentMark]
    simp only [if_true]
    rw [hopen, ih hr']
  | case5 =>
    cases h
    simp [hasCommentMark]
  | case6 c d rest hc ih =>
    obtain ⟨r', hr', rfl⟩ := Option.map_eq_some_iff.1 h
    rw [hasCommentMark]
    simp only [if_neg hc]
    exact ih hr'

theorem hasCommentMark_quote {q : Char} (hq : q = '\'' ∨ q = '"') {cs : List Char}
    {r : List Char × List Char} (h : readQuoted q cs = some r) :
    hasCommentMark none (q :: cs) = hasCommentMark none r.2 := by
  rw [← hasCommentMark_readQuoted hq h]
  rcases hq with rfl | rfl <;> simp [hasCommentMark, startsLineComment, startsBlockComment]

theorem isInert_of_isDigit {c : Char} (h : c.isDigit = true) : isInert c = true :=
  isInert_of_not h (List.all_iff_forall_prop.1 (by decide))

theorem hasCommentMark_mantissa {m : List Char} (h : IsMantissa m) (rest : List Char) :
    hasCommentMark none (m ++ rest) = hasCommentMark none rest := by
  refine hasCommentMark_append (fun c hc => ?_) rest
  cases h with
  | whole h => exact isInert_of_isDigit (h.2 c hc)
  | point ws fs h =>
    rcases List.mem_append.1 hc with hc | hc
    · exact isInert_of_isDigit (h.2 c (List.mem_append_left _ hc))
    · rcases List.mem_cons.1 hc with rfl | hc
      · decide
      · exact isInert_of_isDigit (h.2 c (List.mem_append_right _ hc))

/-- The sign of an exponent stands before a digit, so it starts no comment. -/
theorem hasCommentMark_exponent {x : List Char} (h : IsExponent x) (rest : List Char) :
    hasCommentMark none (x ++ rest) = hasCommentMark none rest := by
  cases h with
  | absent => rfl
  | @power e sign ds he hsign hds =>
    have hdigits : hasCommentMark none (ds ++ rest) = hasCommentMark none rest :=
      hasCommentMark_append (fun c hc => isInert_of_isDigit (hds.2 c hc)) rest
    have hinert : isInert e = true := by rcases he with rfl | rfl <;> decide
    rw [List.cons_append, hasCommentMark_inert hinert, List.append_assoc]
    rcases hsign with rfl | rfl | rfl
    · exact hdigits
    · rw [List.singleton_append, hasCommentMark_inert (by decide), hdigits]
    · obtain ⟨d, ds, rfl⟩ := List.exists_cons_of_ne_nil hds.1
      have hd : d ≠ '-' := by
        rintro rfl
        exact absurd (hds.2 '-' (by simp)) (by decide)
      rw [List.singleton_append, hasCommentMark_cons _ (by rfl) (by decide) (by decide), hdigits]
      simp [startsLineComment, hd]

theorem hasCommentMark_numeral {cs : List Char} (h : IsNumeral cs) (rest : List Char) :
    hasCommentMark none (cs ++ rest) = hasCommentMark none rest := by
  obtain ⟨m, x, hm, hx, rfl⟩ := h
  rw [List.append_assoc, hasCommentMark_mantissa hm, hasCommentMark_exponent hx]

/-- A run of operator characters stops before a comment. -/
theorem hasCommentMark_operatorRun {cs : List Char} {k : Nat} (h : k ≤ (operatorRun cs).length) :
    hasCommentMark none (cs.drop k) = hasCommentMark none cs := by
  induction k generalizing cs with
  | zero => rfl
  | succ k ih =>
    cases cs with
    | nil => rfl
    | cons c cs =>
      rw [operatorRun] at h
      split at h
      · next hc =>
        simp only [Bool.and_eq_true, Bool.not_eq_true'] at hc
        obtain ⟨⟨hoperator, hline⟩, hblock⟩ := hc
        obtain ⟨-, -, hq, hqq, -, -, -⟩ := isOperatorChar_exclusive hoperator
        rw [List.drop_succ_cons, ih (Nat.le_of_succ_le_succ h),
          hasCommentMark_cons hline hblock hq hqq]
      · simp at h

theorem operatorAt_length_le (cs : List Char) :
    (operatorAt cs).length ≤ (operatorRun cs).length := by
  simp only [operatorAt]
  split
  · exact Nat.le_refl _
  · have hdrop := (((operatorRun cs).drop 1).reverse.dropWhile_sublist
      fun c => c = '+' || c = '-').length_le
    simp only [List.length_append, List.length_take, List.length_reverse, List.length_drop]
      at hdrop ⊢
    omega

theorem operatorAt_length_pos {cs : List Char} (h : operatorRun cs ≠ []) :
    0 < (operatorAt cs).length := by
  obtain ⟨d, ds, hrun⟩ := List.exists_cons_of_ne_nil h
  simp only [operatorAt, hrun]
  split
  · simp
  · simp

/-! ## Numerals that are read -/

theorem take_digitRun (cs : List Char) : cs.take (digitRun cs) = cs.takeWhile Char.isDigit := by
  calc cs.take (digitRun cs)
      = (cs.takeWhile Char.isDigit ++ cs.dropWhile Char.isDigit).take (digitRun cs) := by
        rw [List.takeWhile_append_dropWhile]
    _ = cs.takeWhile Char.isDigit := List.take_left

theorem isDigit_of_mem_take {cs : List Char} {c : Char} (h : c ∈ cs.take (digitRun cs)) :
    c.isDigit = true := by
  rw [take_digitRun] at h
  exact List.mem_takeWhile_imp h

theorem take_digitRun_length (cs : List Char) : (cs.take (digitRun cs)).length = digitRun cs := by
  rw [take_digitRun, digitRun]

/-- What is read as an exponent is one. -/
theorem isExponent_take (cs : List Char) : IsExponent (cs.take (exponentRun cs)) := by
  cases cs with
  | nil => exact .absent
  | cons e rest =>
    by_cases he : (e = 'e' || e = 'E') = true
    · obtain ⟨k, hk, hsign⟩ : ∃ k, k = (if rest.head? = some '+' || rest.head? = some '-' then 1
          else 0) ∧ (rest.take k = [] ∨ rest.take k = ['+'] ∨ rest.take k = ['-']) := by
        refine ⟨_, rfl, ?_⟩
        split
        · next h =>
          cases rest with
          | nil => simp at h
          | cons c rest => simpa using h
        · simp
      rw [exponentRun, if_pos he, ← hk]
      by_cases hrun : digitRun (rest.drop k) = 0
      · simpa [hrun] using IsExponent.absent
      · have hlen : 1 + k + digitRun (rest.drop k) = (k + digitRun (rest.drop k)) + 1 := by omega
        simp only [if_neg hrun]
        rw [hlen, List.take_succ_cons, List.take_add]
        refine .power (by simpa using he) hsign ⟨fun hnil => hrun ?_, fun c => isDigit_of_mem_take⟩
        rw [← take_digitRun_length, hnil]
        rfl
    · rw [exponentRun, if_neg he]
      exact .absent

/-- What is read as the digits and the point of a numeral is that, if anything is. -/
theorem isMantissa_take {cs : List Char} (h : mantissaRun cs ≠ 0) :
    IsMantissa (cs.take (mantissaRun cs)) := by
  by_cases hdot : (cs.drop (digitRun cs)).head? = some '.'
  · obtain ⟨tail, htail⟩ : ∃ tail, cs.drop (digitRun cs) = '.' :: tail := by
      cases hd : cs.drop (digitRun cs) with
      | nil => simp [hd] at hdot
      | cons d tail => exact ⟨tail, by rw [hd] at hdot; cases hdot; rfl⟩
    simp only [mantissaRun, htail, List.head?_cons, if_true, List.drop_succ_cons, List.drop_zero]
      at h ⊢
    have hne : digitRun cs + digitRun tail ≠ 0 := fun hzero => h (if_pos hzero)
    have hdigits : IsDigits (cs.take (digitRun cs) ++ tail.take (digitRun tail)) := by
      refine ⟨fun hnil => hne ?_, fun c hc => ?_⟩
      · have hlen := congrArg List.length hnil
        rwa [List.length_append, take_digitRun_length, take_digitRun_length] at hlen
      · exact (List.mem_append.1 hc).elim isDigit_of_mem_take isDigit_of_mem_take
    rw [if_neg hne, Nat.add_assoc, List.take_add, htail, Nat.add_comm 1, List.take_succ_cons]
    exact .point _ _ hdigits
  · simp only [mantissaRun, if_neg hdot] at h ⊢
    refine .whole ⟨fun hnil => h ?_, fun c => isDigit_of_mem_take⟩
    rw [← take_digitRun_length, hnil]
    rfl

/-- What is read as a numeral is one. -/
theorem isNumeral_take {cs : List Char} (h : numeralRun cs ≠ 0) :
    IsNumeral (cs.take (numeralRun cs)) := by
  have hm : mantissaRun cs ≠ 0 := fun hzero => h (by simp [numeralRun, hzero])
  have hrun : numeralRun cs = mantissaRun cs + exponentRun (cs.drop (mantissaRun cs)) := by
    simp only [numeralRun, if_neg hm]
  exact ⟨_, _, isMantissa_take hm, isExponent_take _, by rw [hrun, List.take_add]⟩

/-! ## A whole text -/

theorem hasCommentMark_wordAt {c : Char} {cs : List Char} {r : Head} (hc : isWordStart c = true)
    (h : wordAt c cs = some r) : hasCommentMark none (c :: cs) = hasCommentMark none r.2 := by
  unfold wordAt at h
  split at h
  · cases h
  · cases h
    rw [hasCommentMark_inert (isInert_of_not hc (List.all_iff_forall_prop.1 (by decide))),
      hasCommentMark_dropWhile (List.all_iff_forall_prop.1 (by decide)) cs]

theorem hasCommentMark_numberAt {c : Char} {cs : List Char} {r : Head}
    (h : numberAt c cs = some r) : hasCommentMark none (c :: cs) = hasCommentMark none r.2 := by
  unfold numberAt at h
  split at h
  · split at h
    · next hdot =>
      cases h
      exact hasCommentMark_inert (by rw [hdot]; decide) cs
    · cases h
  · next more hrun =>
    cases h
    have hnumeral : IsNumeral ((c :: cs).take (numeralRun (c :: cs))) :=
      isNumeral_take (by rw [hrun]; exact Nat.succ_ne_zero more)
    have hsplit := List.take_append_drop (numeralRun (c :: cs)) (c :: cs)
    rw [← hsplit, hasCommentMark_numeral hnumeral, hrun, List.drop_succ_cons]

theorem hasCommentMark_symbolAt {c : Char} {cs : List Char} {r : Head}
    (hc : isOperatorChar c = true) (h : symbolAt c cs = some r) (hr : r.1 ≠ some .comment) :
    hasCommentMark none (c :: cs) = hasCommentMark none r.2 := by
  unfold symbolAt at h
  split_ifs at h with hline hblock
  · cases h
    exact absurd rfl hr
  · obtain ⟨rest, -, rfl⟩ := Option.map_eq_some_iff.1 h
    exact absurd rfl hr
  · cases h
    have hrun : operatorRun (c :: cs) ≠ [] := by
      simp [operatorRun, hc, hline, hblock]
    obtain ⟨k, hk⟩ := Nat.exists_eq_add_one.2 (operatorAt_length_pos hrun)
    rw [← hasCommentMark_operatorRun (operatorAt_length_le (c :: cs))]
    simp only [hk, List.drop_succ_cons, Nat.add_sub_cancel]

/-- What a lexeme that is no comment takes from a text holds no mark. -/
theorem hasCommentMark_lexemeAt {c : Char} {cs : List Char} {r : Head}
    (h : lexemeAt c cs = some r) (hr : r.1 ≠ some .comment) :
    hasCommentMark none (c :: cs) = hasCommentMark none r.2 := by
  unfold lexemeAt at h
  split_ifs at h with hspace hmark hq hqq hword hnumber hoperator
  · cases h
    exact hasCommentMark_inert (isInert_of_not hspace (List.all_iff_forall_prop.1 (by decide))) cs
  · cases h
    have hinert := isInert_of_not (p := fun c => (mark? c).isSome) hmark
      (List.all_iff_forall_prop.1 (by decide))
    exact hasCommentMark_inert hinert cs
  · obtain ⟨r', hr', rfl⟩ := Option.map_eq_some_iff.1 h
    rw [hq]
    exact hasCommentMark_quote (.inl rfl) hr'
  · obtain ⟨r', hr', rfl⟩ := Option.map_eq_some_iff.1 h
    rw [hqq]
    exact hasCommentMark_quote (.inr rfl) (Option.filter_eq_some_iff.1 hr').1
  · exact hasCommentMark_wordAt hword h
  · exact hasCommentMark_numberAt h
  · exact hasCommentMark_symbolAt hoperator h hr

/-- A text whose lexemes hold no comment has no comment mark outside quotes. -/
theorem hasCommentMark_eq_false {cs : List Char} {ts : List Lexeme} (h : lex cs = some ts)
    (hc : Lexeme.comment ∉ ts) : hasCommentMark none cs = false := by
  fun_induction lex cs generalizing ts with
  | case1 => rfl
  | case2 => cases h
  | case3 c cs r hr ih =>
    obtain ⟨us, hus, rfl⟩ := Option.map_eq_some_iff.1 h
    have hhead : r.1 ≠ some .comment := by
      intro heq
      simp [heq] at hc
    rw [hasCommentMark_lexemeAt hr hhead]
    exact ih hus fun hmem => hc (List.mem_append_right _ hmem)

end MetricLayer.Sql
