import MetricLayer.Proofs.Outcome
import MetricLayer.Proofs.Sql.SearchCondition
import MetricLayer.Sql.Condition

/-!
# What the text of a condition says

A text that is put together from other texts says what they say together.

* `Says level s m` joins the two halves of reading: the text `s` is cut into lexemes, none of them a
  comment, and these are read as a condition of a level whose value is `m`.
* `Piece s m` is a text that a connective may stand beside.  It is balanced, so that the search for
  the parenthesis that closes the first one passes over it, and when it starts with a parenthesis,
  its last one closes that.
* `Clause s m` are pieces joined by AND.  `Clause.parenthesised` is the reason why parentheses may
  be decided on the text: a clause without connectives is one piece, and a clause that is enclosed
  by its first and its last parenthesis is one piece too.
-/

namespace MetricLayer.Sql

open Text

/-! ## Meanings -/

/-- What a condition says: its value under each assignment. -/
abbrev Meaning := Assignment → Truth

namespace Meaning

/-- The value of one predicate. -/
def atom (p : Predicate) : Meaning := fun v => v p

/-- All of them hold. -/
def all (ms : List Meaning) : Meaning := fun v => Truth.all (ms.map (· v))

/-- One of them holds. -/
def any (ms : List Meaning) : Meaning := fun v => Truth.any (ms.map (· v))

theorem all_append (ms ns : List Meaning) :
    all (ms ++ ns) = fun v => (all ms v).and (all ns v) := by
  funext v
  simp only [all, List.map_append, Truth.all_append]

theorem all_singleton (m : Meaning) : all [m] = m := by
  funext v
  simp [all, Truth.all]

end Meaning

/-- A chain of conjunctions, grouped to the left, is the conjunction of its parts. -/
theorem eval_foldl_and (v : Assignment) (c : SearchCondition) (cs : List SearchCondition) :
    (cs.foldl .and c).eval v = Truth.all ((c :: cs).map (·.eval v)) := by
  induction cs generalizing c with
  | nil => simp [Truth.all]
  | cons d cs ih =>
    rw [List.foldl_cons, ih]
    simp only [List.map_cons, Truth.all, SearchCondition.eval, Truth.and_assoc]

/-- A chain of disjunctions, grouped to the left, is the disjunction of its parts. -/
theorem eval_foldl_or (v : Assignment) (c : SearchCondition) (cs : List SearchCondition) :
    (cs.foldl .or c).eval v = Truth.any ((c :: cs).map (·.eval v)) := by
  induction cs generalizing c with
  | nil => simp [Truth.any]
  | cons d cs ih =>
    rw [List.foldl_cons, ih]
    simp only [List.map_cons, Truth.any, SearchCondition.eval, Truth.or_assoc]

/-! ## Texts that say something -/

/-- The text is read as a condition of the level with this meaning, without a comment in it. -/
def Says (level : Level) (s : String) (m : Meaning) : Prop :=
  ∃ ts c, Lexes s.toList ts ∧ Lexeme.comment ∉ ts ∧ ReadsCondition level ts c ∧ ∀ v, c.eval v = m v

theorem Says.factor {s : String} {m : Meaning} (h : Says .primary s m) : Says .factor s m :=
  let ⟨ts, c, hl, hc, hr, hv⟩ := h
  ⟨ts, c, hl, hc, hr.factor, hv⟩

theorem Says.term {s : String} {m : Meaning} (h : Says .factor s m) : Says .term s m :=
  let ⟨ts, c, hl, hc, hr, hv⟩ := h
  ⟨ts, c, hl, hc, hr.term, hv⟩

theorem Says.whole {s : String} {m : Meaning} (h : Says .term s m) : Says .whole s m :=
  let ⟨ts, c, hl, hc, hr, hv⟩ := h
  ⟨ts, c, hl, hc, hr.whole, hv⟩

/-- A condition in parentheses says the same. -/
theorem Says.group {s : String} {m : Meaning} (h : Says .whole s m) :
    Says .primary ("(" ++ s ++ ")") m := by
  obtain ⟨ts, c, hl, hc, hr, hv⟩ := h
  refine ⟨_, c, ?_, by simpa using hc, hr.group, hv⟩
  have hlex := (hl.append (Lexes.rightParen Lexes.nil) (by simp [isBoundary])).leftParen
  simpa using hlex

/-- The lexemes and the conditions of several texts. -/
theorem reads_forall₂ {level : Level} {texts : List String} {ms : List Meaning}
    (h : List.Forall₂ (Says level) texts ms) :
    ∃ tss cs, List.Forall₂ (fun s ts => Lexes s.toList ts) texts tss
      ∧ (∀ ts ∈ tss, Lexeme.comment ∉ ts) ∧ List.Forall₂ (ReadsCondition level) tss cs
      ∧ ∀ v, cs.map (·.eval v) = ms.map (· v) := by
  induction h with
  | nil => exact ⟨[], [], .nil, by simp, .nil, fun _ => rfl⟩
  | @cons s m texts ms hs _ ih =>
    obtain ⟨ts, c, hl, hc, hr, hv⟩ := hs
    obtain ⟨tss, cs, hls, hcs, hrs, hvs⟩ := ih
    refine ⟨ts :: tss, c :: cs, .cons hl hls, by simpa using ⟨hc, hcs⟩, .cons hr hrs, fun v => ?_⟩
    rw [List.map_cons, List.map_cons, hv, hvs]

/-- A connective between spaces is one word. -/
theorem Lexes.connective {s w : String} (hs : (isWordText s && folded s.toList = w) = true)
    {cs : List Char} {ts : List Lexeme} (h : Lexes cs ts) :
    Lexes ((" " ++ s ++ " ").toList ++ cs) (.word w :: ts)
      ∧ AtBoundary ((" " ++ s ++ " ").toList ++ cs) := by
  have hlex := ((Lexes.keyword s hs).append h.space (by simp [isBoundary])).space
  exact ⟨by simpa using hlex, by simp [isBoundary]⟩

/-- Texts joined by AND say that all of them hold. -/
theorem Says.conjunction {texts : List String} {ms : List Meaning}
    (h : List.Forall₂ (Says .factor) texts ms) (hne : texts ≠ []) :
    Says .term (joined " AND " texts) (Meaning.all ms) := by
  obtain ⟨tss, cs, hl, hc, hr, hv⟩ := reads_forall₂ h
  cases hr with
  | nil => cases hl; exact absurd rfl hne
  | @cons ts c tss cs hts htss =>
    refine ⟨_, _, Lexes.separated (Lexes.connective (s := "AND") (by decide)) hl,
      comment_notMem_separatedBy (by decide) hc, .conjunction hts htss, fun v => ?_⟩
    rw [eval_foldl_and, hv]
    rfl

/-- Texts joined by OR say that one of them holds. -/
theorem Says.disjunction {texts : List String} {ms : List Meaning}
    (h : List.Forall₂ (Says .term) texts ms) (hne : texts ≠ []) :
    Says .whole (joined " OR " texts) (Meaning.any ms) := by
  obtain ⟨tss, cs, hl, hc, hr, hv⟩ := reads_forall₂ h
  cases hr with
  | nil => cases hl; exact absurd rfl hne
  | @cons ts c tss cs hts htss =>
    refine ⟨_, _, Lexes.separated (Lexes.connective (s := "OR") (by decide)) hl,
      comment_notMem_separatedBy (by decide) hc, .disjunction hts htss, fun v => ?_⟩
    rw [eval_foldl_or, hv]
    rfl

/-- A text that says something is not empty. -/
theorem Says.ne_empty {s : String} {m : Meaning} (h : Says .primary s m) :
    s ≠ "" := by
  obtain ⟨ts, c, hl, -, hr, -⟩ := h
  obtain ⟨l, ts', rfl, -⟩ := hr.head
  rintro rfl
  have hlex := hl.lex_eq
  rw [String.toList_empty, lex_nil] at hlex
  cases hlex

/-! ## Balanced texts -/

/-- Inside a parenthesis the search for the one that closes it passes over the text. -/
def Balanced (cs : List Char) : Prop :=
  ∀ depth rest, closesAtEnd (depth + 1) none (cs ++ rest) = closesAtEnd (depth + 1) none rest

theorem Balanced.append {cs ds : List Char} (hc : Balanced cs) (hd : Balanced ds) :
    Balanced (cs ++ ds) := by
  intro depth rest
  rw [List.append_assoc, hc, hd]

/-- The character is neither a quote nor a parenthesis. -/
def isUnpaired (c : Char) : Bool := c ≠ '\'' && c ≠ '"' && c ≠ '(' && c ≠ ')'

theorem Balanced.unpaired {cs : List Char} (h : cs.all isUnpaired = true) : Balanced cs := by
  intro depth rest
  induction cs with
  | nil => rfl
  | cons c cs ih =>
    rw [List.all_cons, Bool.and_eq_true] at h
    simp only [isUnpaired, ne_eq, decide_not, Bool.and_eq_true, Bool.not_eq_true',
      decide_eq_false_iff_not, and_assoc] at h
    obtain ⟨hq, hqq, hleft, hright, hcs⟩ := h
    rw [List.cons_append, closesAtEnd]
    simp only [hq, hqq, hleft, hright, decide_false, Bool.or_self, Bool.false_eq_true, if_false]
    exact ih hcs

/-- The search leaves a quoted text where it entered it. -/
theorem closesAtEnd_double (q : Char) (depth : Nat) (cs rest : List Char) (hq : q = '\'' ∨ q = '"') :
    closesAtEnd depth (some q) (double q cs ++ q :: rest) = closesAtEnd depth none rest := by
  induction cs with
  | nil =>
    rw [double, replaceChar, List.flatMap_nil, List.nil_append, closesAtEnd]
    simp
  | cons c cs ih =>
    by_cases hc : c = q
    · subst hc
      -- the first quote closes the text and the second one opens it again
      rw [double_cons_self, List.cons_append, List.cons_append, closesAtEnd]
      simp only [if_true]
      rw [closesAtEnd]
      simp only [show (decide (c = '\'') || decide (c = '"')) = true by simpa using hq, if_true]
      exact ih
    · rw [double_cons_of_ne hc, List.cons_append, closesAtEnd]
      simp only [if_neg hc]
      exact ih

theorem Balanced.enclosed {q : Char} (hq : q = '\'' ∨ q = '"') (s : String) :
    Balanced (enclosed q s).toList := by
  intro depth rest
  rw [toList_enclosed, List.cons_append, List.append_assoc, List.singleton_append, closesAtEnd]
  simp only [show (decide (q = '\'') || decide (q = '"')) = true by simpa using hq, if_true]
  exact closesAtEnd_double q _ s.toList rest hq

theorem Balanced.group {cs : List Char} (h : Balanced cs) : Balanced ('(' :: (cs ++ [')'])) := by
  intro depth rest
  rw [List.cons_append, List.append_assoc, List.singleton_append, closesAtEnd]
  simp only [decide_false, Char.reduceEq, Bool.or_self, Bool.false_eq_true, if_false, if_true]
  rw [h, closesAtEnd]
  simp

theorem toList_group (s : String) : ("(" ++ s ++ ")").toList = '(' :: (s.toList ++ [')']) := by
  simp

/-- Balanced texts with a balanced separator between them. -/
theorem Balanced.joined {separator : String} {texts : List String}
    (hsep : Balanced separator.toList) (h : ∀ s ∈ texts, Balanced s.toList) :
    Balanced (joined separator texts).toList := by
  induction texts with
  | nil => exact Balanced.unpaired rfl
  | cons s texts ih =>
    have hs := h s (by simp)
    have hrest := ih fun u hu => h u (List.mem_cons_of_mem _ hu)
    cases texts with
    | nil => exact hs
    | cons u texts =>
      rw [joined_cons, String.toList_append, String.toList_append]
      exact (hs.append hsep).append hrest

/-! ## Pieces and clauses -/

/-- A text that a connective may stand beside. -/
structure Piece (s : String) (m : Meaning) : Prop where
  /-- The text says this. -/
  reads : Says .primary s m
  /-- Its parentheses and quotes are closed. -/
  balanced : Balanced s.toList
  /-- When it starts with a parenthesis, its last one closes that. -/
  enclosed : s.toList.head? = some '(' → ∃ inner, s = "(" ++ inner ++ ")" ∧ Balanced inner.toList

/-- A condition in parentheses is a piece. -/
theorem Piece.group {s : String} {m : Meaning} (hs : Says .whole s m) (hb : Balanced s.toList) :
    Piece ("(" ++ s ++ ")") m :=
  ⟨hs.group, by rw [toList_group]; exact hb.group, fun _ => ⟨s, rfl, hb⟩⟩

/-- Pieces joined by AND. -/
def Clause (s : String) (m : Meaning) : Prop :=
  ∃ pieces ms, List.Forall₂ Piece pieces ms ∧ pieces ≠ [] ∧ s = joined " AND " pieces
    ∧ m = Meaning.all ms

theorem Piece.clause {s : String} {m : Meaning} (h : Piece s m) : Clause s m :=
  ⟨[s], [m], .cons h .nil, by simp, rfl, (Meaning.all_singleton m).symm⟩

theorem Clause.reads {s : String} {m : Meaning} (h : Clause s m) : Says .term s m := by
  obtain ⟨pieces, ms, hpieces, hne, rfl, rfl⟩ := h
  exact Says.conjunction (hpieces.imp fun _ _ hp => hp.reads.factor) hne

theorem Clause.balanced {s : String} {m : Meaning} (h : Clause s m) : Balanced s.toList := by
  obtain ⟨pieces, ms, hpieces, -, rfl, -⟩ := h
  refine Balanced.joined (Balanced.unpaired (by decide)) fun s hs => ?_
  obtain ⟨m, hm⟩ := forall₂_mem_left hpieces s hs
  exact hm.balanced

theorem occurs_append (pattern before after : List Char) (hne : pattern ≠ []) :
    occurs pattern (before ++ pattern ++ after) = true := by
  induction before with
  | nil =>
    obtain ⟨c, cs, rfl⟩ := List.exists_cons_of_ne_nil hne
    simp [occurs]
  | cons c before ih =>
    rw [List.cons_append, List.cons_append, occurs, ih, Bool.or_true]

/-- Two pieces joined by AND are not enclosed by one pair of parentheses: when the first character
is a parenthesis, the first piece closes it. -/
theorem isEnclosed_joined {s u : String} {m : Meaning} (hs : Piece s m) (texts : List String) :
    isEnclosed (joined " AND " (s :: u :: texts)) = false := by
  by_contra h
  rw [Bool.not_eq_false] at h
  simp only [isEnclosed, Bool.and_eq_true, decide_eq_true_eq] at h
  obtain ⟨⟨hhead, -⟩, hcloses⟩ := h
  have hjoined : (joined " AND " (s :: u :: texts)).toList
      = s.toList ++ (" AND ".toList ++ (joined " AND " (u :: texts)).toList) := by
    rw [joined_cons, String.toList_append, String.toList_append, List.append_assoc]
  rw [hjoined] at hhead hcloses
  have hfirst : s.toList.head? = some '(' := by
    cases hcs : s.toList with
    | nil => exact absurd (String.toList_inj.1 (by simpa using hcs)) hs.reads.ne_empty
    | cons c cs => simpa [hcs] using hhead
  obtain ⟨inner, rfl, hinner⟩ := hs.enclosed hfirst
  rw [toList_group, List.cons_append, closesAtEnd] at hcloses
  simp only [decide_false, Char.reduceEq, Bool.or_self, Bool.false_eq_true, if_false, if_true,
    List.append_assoc, List.singleton_append] at hcloses
  rw [hinner, closesAtEnd] at hcloses
  simp at hcloses

/-- A clause is a piece once it stands in parentheses where its text asks for them. -/
theorem Clause.parenthesised {s : String} {m : Meaning} (h : Clause s m) :
    Piece (parenthesised s) m := by
  have hreads := h.reads
  have hbalanced := h.balanced
  obtain ⟨pieces, ms, hpieces, hne, rfl, rfl⟩ := h
  unfold MetricLayer.parenthesised
  split
  · exact Piece.group hreads.whole hbalanced
  · next hneeds =>
    cases hpieces with
    | nil => exact absurd rfl hne
    | @cons s m pieces ms hs hrest =>
      cases hrest with
      | nil =>
        rw [Meaning.all_singleton]
        exact hs
      | @cons u n pieces ms hu hrest =>
        -- a connective stands in the text, so it has to be enclosed, and it is not
        have hoccurs : occurs " AND ".toList (joined " AND " (s :: u :: pieces)).toList = true := by
          rw [joined_cons, String.toList_append, String.toList_append]
          exact occurs_append _ _ _ (by decide)
        rw [needsParentheses, hoccurs, Bool.true_or, isEnclosed_joined hs] at hneeds
        exact absurd rfl hneeds

end MetricLayer.Sql
