import MetricLayer.Proofs.Sql.CommentMark
import MetricLayer.Proofs.Sql.ScriptNumerals

/-!
# Where lexemes stand in a text

A reader of lexemes sees no blanks and no letter case, so a part of a statement that has to come
back as it was written is cut out of its text.

* `lexemeAt_append`: before a boundary a lexeme that is no comment is the same whatever follows.
* `fromLexeme k` is the text from its lexeme `k` on, counted from zero.  What follows a text starts
  after all the lexemes of that text (`fromLexeme_append`).
* `textBetween` cuts out what stands from one lexeme up to another one; `textBetween_body` finds it.
-/

namespace MetricLayer.Sql

/-! ## A lexeme before a boundary -/

theorem readQuoted_append {q : Char} {cs rest : List Char} {r : List Char × List Char}
    (h : readQuoted q cs = some r) (hrest : rest.head? ≠ some q) :
    readQuoted q (cs ++ rest) = some (r.1, r.2 ++ rest) := by
  fun_induction readQuoted q cs generalizing r with
  | case1 => cases h
  | case2 =>
    cases h
    exact readQuoted_closing _ hrest
  | case3 => cases h
  | case4 ds ih =>
    obtain ⟨r', hr', rfl⟩ := Option.map_eq_some_iff.1 h
    rw [List.cons_append, List.cons_append, readQuoted, if_pos rfl, if_pos rfl, ih hr']
    rfl
  | case5 d ds hd =>
    cases h
    rw [List.cons_append, List.cons_append, readQuoted, if_pos rfl, if_neg hd]
  | case6 c d ds hc ih =>
    obtain ⟨r', hr', rfl⟩ := Option.map_eq_some_iff.1 h
    rw [List.cons_append, List.cons_append, readQuoted, if_neg hc, ← List.cons_append, ih hr']
    rfl

section Boundary

variable {c : Char} {cs rest : List Char} {r : Head}

theorem stringAt_append (h : stringAt cs = some r) (hrest : AtBoundary rest) :
    stringAt (cs ++ rest) = some (r.1, r.2 ++ rest) := by
  obtain ⟨r', hr', rfl⟩ := Option.map_eq_some_iff.1 h
  rw [stringAt, readQuoted_append hr' (head?_ne_of_atBoundary hrest (by decide))]
  rfl

theorem nameAt_append (h : nameAt cs = some r) (hrest : AtBoundary rest) :
    nameAt (cs ++ rest) = some (r.1, r.2 ++ rest) := by
  obtain ⟨r', hr', rfl⟩ := Option.map_eq_some_iff.1 h
  obtain ⟨hread, hne⟩ := Option.filter_eq_some_iff.1 hr'
  rw [nameAt, readQuoted_append hread (head?_ne_of_atBoundary hrest (by decide)), Option.filter,
    if_pos hne]
  rfl

theorem startsQuote_append (h : startsQuote cs = false) (hrest : AtBoundary rest) :
    startsQuote (cs ++ rest) = false := by
  cases cs with
  | nil => exact startsQuote_of_atBoundary hrest
  | cons c cs => exact h

theorem wordAt_append (h : wordAt c cs = some r) (hrest : AtBoundary rest) :
    wordAt c (cs ++ rest) = some (r.1, r.2 ++ rest) := by
  obtain ⟨htake, hdrop⟩ := takeWhile_dropWhile_append isWordChar_of_isBoundary cs hrest
  unfold wordAt at h
  split at h
  · cases h
  · next hquote =>
    cases h
    have hafter := startsQuote_append (Bool.eq_false_iff.2 hquote) hrest
    rw [wordAt, hdrop, htake, hafter, if_neg Bool.false_ne_true]

theorem numberAt_append (h : numberAt c cs = some r) (hrest : AtBoundary rest) :
    numberAt c (cs ++ rest) = some (r.1, r.2 ++ rest) := by
  have hrun : numeralRun (c :: (cs ++ rest)) = numeralRun (c :: cs) :=
    numeralRun_append_boundary (c :: cs) hrest
  unfold numberAt at h ⊢
  rw [hrun]
  split at h
  · split at h
    · next hdot =>
      cases h
      exact if_pos hdot
    · cases h
  · next more hmore =>
    cases h
    have hle := numeralRun_le_length (c :: cs)
    rw [hmore, List.length_cons] at hle
    have hshort : more ≤ cs.length := by omega
    rw [List.take_append_of_le_length hshort, List.drop_append_of_le_length hshort]

theorem operatorRun_length_le (cs : List Char) : (operatorRun cs).length ≤ cs.length := by
  induction cs with
  | nil => exact Nat.le_refl _
  | cons c cs ih =>
    rw [operatorRun]
    split
    · exact Nat.succ_le_succ ih
    · exact Nat.zero_le _

theorem symbolAt_append (h : symbolAt c cs = some r) (hcomment : r.1 ≠ some .comment)
    (hrest : AtBoundary rest) : symbolAt c (cs ++ rest) = some (r.1, r.2 ++ rest) := by
  have hno := noOperator_of_atBoundary hrest
  obtain ⟨hline, hblock⟩ := startsComment_append c cs hno
  have hat : operatorAt (c :: (cs ++ rest)) = operatorAt (c :: cs) :=
    operatorAt_append (c :: cs) hno
  unfold symbolAt at h ⊢
  rw [hline, hblock, hat]
  split at h
  · cases h
    exact absurd rfl hcomment
  · next hnotLine =>
    split at h
    · obtain ⟨after, -, rfl⟩ := Option.map_eq_some_iff.1 h
      exact absurd rfl hcomment
    · next hnotBlock =>
      cases h
      have hle := (operatorAt_length_le (c :: cs)).trans (operatorRun_length_le (c :: cs))
      rw [List.length_cons] at hle
      have hshort : (operatorAt (c :: cs)).length - 1 ≤ cs.length := by omega
      rw [if_neg hnotLine, if_neg hnotBlock]
      dsimp only
      rw [List.drop_append_of_le_length hshort]

/-- A lexeme that is no comment does not reach over a boundary, and does not depend on what follows
one. -/
theorem lexemeAt_append (h : lexemeAt c cs = some r) (hcomment : r.1 ≠ some .comment)
    (hrest : AtBoundary rest) : lexemeAt c (cs ++ rest) = some (r.1, r.2 ++ rest) := by
  unfold lexemeAt at h ⊢
  split_ifs at h ⊢
  · cases h
    rfl
  · cases h
    rfl
  · exact stringAt_append h hrest
  · exact nameAt_append h hrest
  · exact wordAt_append h hrest
  · exact numberAt_append h hrest
  · exact symbolAt_append h hcomment hrest

/-- Only blanks are no lexeme. -/
theorem isSpace_of_lexemeAt {after : List Char} (h : lexemeAt c cs = some (none, after)) :
    isSpace c = true := by
  by_contra hspace
  rw [lexemeAt, if_neg hspace] at h
  split_ifs at h with hmark
  · rw [Option.some.injEq, Prod.mk.injEq] at h
    rw [h.1] at hmark
    cases hmark
  · obtain ⟨r, -, hr⟩ := Option.map_eq_some_iff.1 h
    cases hr
  · obtain ⟨r, -, hr⟩ := Option.map_eq_some_iff.1 h
    cases hr
  · unfold wordAt at h
    split at h <;> cases h
  · unfold numberAt at h
    split at h
    · split at h <;> cases h
    · cases h
  · unfold symbolAt at h
    split at h
    · cases h
    · split at h
      · obtain ⟨r, -, hr⟩ := Option.map_eq_some_iff.1 h
        cases hr
      · cases h

end Boundary

/-! ## The text from a lexeme on -/

/-- The text from its lexeme `k` on, counted from zero; nothing when it has no such lexeme. -/
def fromLexeme (k : Nat) : List Char → List Char
  | [] => []
  | c :: cs =>
    match _h : lexemeAt c cs with
    | none => []
    | some (none, rest) => fromLexeme k rest
    | some (some _, rest) =>
      match k with
      | 0 => c :: cs
      | k + 1 => fromLexeme k rest
termination_by cs => cs.length
decreasing_by all_goals exact Nat.lt_succ_of_le (lexemeAt_length_le _h)

section FromLexeme

variable {c : Char} {cs rest : List Char} {l : Lexeme} {ts : List Lexeme}

theorem fromLexeme_nil (k : Nat) : fromLexeme k [] = [] := by rw [fromLexeme]

theorem fromLexeme_blank (k : Nat) (h : lexemeAt c cs = some (none, rest)) :
    fromLexeme k (c :: cs) = fromLexeme k rest := by
  rw [fromLexeme]
  split <;> simp_all

theorem fromLexeme_zero (h : lexemeAt c cs = some (some l, rest)) :
    fromLexeme 0 (c :: cs) = c :: cs := by
  rw [fromLexeme]
  split <;> simp_all

theorem fromLexeme_succ (k : Nat) (h : lexemeAt c cs = some (some l, rest)) :
    fromLexeme (k + 1) (c :: cs) = fromLexeme k rest := by
  rw [fromLexeme]
  split <;> simp_all

theorem fromLexeme_space (k : Nat) (cs : List Char) :
    fromLexeme k (' ' :: cs) = fromLexeme k cs := fromLexeme_blank k rfl

theorem fromLexeme_length_le (k : Nat) (cs : List Char) :
    (fromLexeme k cs).length ≤ cs.length := by
  fun_induction fromLexeme k cs with
  | case1 | case2 | case4 => simp
  | case3 k c cs rest h ih => exact Nat.le_succ_of_le (ih.trans (lexemeAt_length_le h))
  | case5 c cs l rest h k ih => exact Nat.le_succ_of_le (ih.trans (lexemeAt_length_le h))

/-- After all its lexemes a text is followed by what stands behind it. -/
theorem fromLexeme_append (h : lex cs = some ts) (hcomment : Lexeme.comment ∉ ts)
    (hrest : AtBoundary rest) (k : Nat) :
    fromLexeme (ts.length + k) (cs ++ rest) = fromLexeme k rest := by
  fun_induction lex cs generalizing ts with
  | case1 =>
    cases h
    rw [List.length_nil, Nat.zero_add, List.nil_append]
  | case2 => cases h
  | case3 c cs r hr ih =>
    obtain ⟨us, hus, rfl⟩ := Option.map_eq_some_iff.1 h
    rw [List.mem_append, not_or] at hcomment
    obtain ⟨l?, after⟩ := r
    have happend := lexemeAt_append hr (fun heq => hcomment.1 (Option.mem_toList.2 heq)) hrest
    rw [List.cons_append]
    cases l? with
    | none =>
      rw [fromLexeme_blank _ happend]
      exact ih hus hcomment.2
    | some l =>
      have hlength : ((some l).toList ++ us).length + k = us.length + k + 1 := by
        simp only [Option.toList_some, List.singleton_append, List.length_cons]
        omega
      rw [hlength, fromLexeme_succ _ happend]
      exact ih hus hcomment.2

/-- A text that starts with no blank starts with its first lexeme, before any boundary. -/
theorem fromLexeme_start (h : lex (c :: cs) = some ts) (hcomment : Lexeme.comment ∉ ts)
    (hspace : isSpace c = false) (hrest : AtBoundary rest) :
    fromLexeme 0 (c :: (cs ++ rest)) = c :: (cs ++ rest) := by
  rw [lex] at h
  split at h
  · cases h
  · next r hr =>
    obtain ⟨us, -, rfl⟩ := Option.map_eq_some_iff.1 h
    rw [List.mem_append, not_or] at hcomment
    have happend := lexemeAt_append hr (fun heq => hcomment.1 (Option.mem_toList.2 heq)) hrest
    cases hl : r.1 with
    | none =>
      rw [hl] at happend
      rw [isSpace_of_lexemeAt happend] at hspace
      cases hspace
    | some l =>
      rw [hl] at happend
      exact fromLexeme_zero happend

/-- A text that starts with no blank has a lexeme. -/
theorem lex_ne_nil (h : lex (c :: cs) = some ts) (hspace : isSpace c = false) : ts ≠ [] := by
  rintro rfl
  have hplace := fromLexeme_append h List.not_mem_nil atBoundary_nil 0
  have hstart := fromLexeme_start h List.not_mem_nil hspace atBoundary_nil
  rw [List.append_nil] at hplace hstart
  rw [List.length_nil, hstart, fromLexeme_nil] at hplace
  cases hplace

end FromLexeme

/-! ## The text between two lexemes -/

/-- What stands in a text from the lexeme `start` up to the lexeme `stop`. -/
def textBetween (cs : List Char) (start stop : Nat) : List Char :=
  (fromLexeme start cs).take ((fromLexeme start cs).length - (fromLexeme stop cs).length)

@[simp]
theorem textBetween_self (cs : List Char) (k : Nat) : textBetween cs k k = [] := by
  rw [textBetween, Nat.sub_self, List.take_zero]

/-- A text between two others, the first of them a blank before it, is found with what follows it up
to the next lexeme. -/
theorem textBetween_append {front body rest : List Char} {c : Char} {fs bs : List Lexeme}
    (hfront : lex front = some fs) (hbody : lex (c :: body) = some bs)
    (hspace : isSpace c = false) (hcomment : Lexeme.comment ∉ fs ++ bs) (hrest : AtBoundary rest) :
    textBetween (front ++ ' ' :: c :: (body ++ rest)) fs.length (fs.length + bs.length)
      = c :: (body ++ rest.take (rest.length - (fromLexeme 0 rest).length)) := by
  rw [List.mem_append, not_or] at hcomment
  have hafter : ∀ k, fromLexeme (fs.length + k) (front ++ ' ' :: c :: (body ++ rest))
      = fromLexeme k (c :: (body ++ rest)) := by
    intro k
    rw [fromLexeme_append hfront hcomment.1 (by simp [isBoundary]), fromLexeme_space]
  have hstart := (hafter 0).trans (fromLexeme_start hbody hcomment.2 hspace hrest)
  have hstop := (hafter bs.length).trans (fromLexeme_append hbody hcomment.2 hrest 0)
  have hle := fromLexeme_length_le 0 rest
  have hlength : (c :: (body ++ rest)).length - (fromLexeme 0 rest).length
      = (c :: body).length + (rest.length - (fromLexeme 0 rest).length) := by
    simp only [List.length_cons, List.length_append]
    omega
  rw [Nat.add_zero] at hstart
  rw [textBetween, hstart, hstop, hlength, ← List.cons_append, List.take_length_add_append,
    List.cons_append]

end MetricLayer.Sql
