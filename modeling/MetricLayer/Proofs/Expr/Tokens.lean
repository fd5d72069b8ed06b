import MetricLayer.Expr.Lexer
import MetricLayer.Proofs.Outcome
import MetricLayer.Proofs.Text.Blank
import Mathlib.Data.List.TakeWhile
import Mathlib.Tactic

/-!
# The tokens of a metric expression

What the characters of a token look like (`tokensFrom_spelled`).  Numerals are made of the digits of
any script with at most one point, and of an exponent whose sign stands between its letter and its
digits.
-/

namespace MetricLayer.Lexer

open MetricLayer.Text

/-! ## The characters of a token -/

/-- The exponent of a numeral in the digits of any script, if there is one. -/
inductive IsExponentText : List Char → Prop
  | absent : IsExponentText []
  | power {e : Char} {sign digits : List Char} (he : e = 'e' ∨ e = 'E')
      (hsign : sign = [] ∨ sign = ['+'] ∨ sign = ['-']) (hne : digits ≠ [])
      (hdigits : ∀ c ∈ digits, isDigit c = true) : IsExponentText (e :: (sign ++ digits))

/-- The text is a numeral in the digits of any script. -/
def IsNumeralText (cs : List Char) : Prop :=
  ∃ mantissa exponent, mantissa ≠ [] ∧ (∀ c ∈ mantissa, isDigit c = true ∨ c = '.')
    ∧ IsExponentText exponent ∧ cs = mantissa ++ exponent

/-- What the characters of a token of each kind look like. -/
def Spelled : TokenKind → List Char → Prop
  | .number, cs => IsNumeralText cs
  | .name, cs => ∃ c rest, cs = c :: rest ∧ isNameStart c = true ∧ ∀ d ∈ rest, isNameChar d = true
  | .operator, cs => ∃ c ∈ "-+*/%".toList, cs = [c]
  | .leftParen, cs => cs = ['(']
  | .rightParen, cs => cs = [')']
  | .comma, cs => cs = [',']
  | _, _ => True

theorem isNameChar_of_isNameStart {c : Char} (h : isNameStart c = true) : isNameChar c = true := by
  simp only [isNameStart, isNameChar, Char.isAlphanum, Bool.or_eq_true] at h ⊢
  exact h.imp_left .inl

/-- The characters of a name are name characters. -/
theorem isNameChar_of_spelled {cs : List Char} (h : Spelled .name cs) :
    ∀ c ∈ cs, isNameChar c = true := by
  obtain ⟨c, cs, rfl, hc, hcs⟩ := h
  intro d hd
  rcases List.mem_cons.1 hd with rfl | hd
  · exact isNameChar_of_isNameStart hc
  · exact hcs d hd

theorem take_length_takeWhile (p : Char → Bool) (cs : List Char) :
    cs.take (cs.takeWhile p).length = cs.takeWhile p :=
  (List.prefix_iff_eq_take.1 (List.takeWhile_prefix p)).symm

theorem drop_length_takeWhile (p : Char → Bool) (cs : List Char) :
    cs.drop (cs.takeWhile p).length = cs.dropWhile p := by
  have hdrop : (cs.takeWhile p ++ cs.dropWhile p).drop (cs.takeWhile p).length
      = cs.dropWhile p := List.drop_left
  rwa [List.takeWhile_append_dropWhile] at hdrop

/-- A run of characters of a class ends where a text starts that does not go on with the class. -/
theorem takeWhile_append_stop {p : Char → Bool} (cs : List Char) {rest : List Char}
    (h : ∀ c ∈ rest.head?, p c = false) :
    (cs ++ rest).takeWhile p = cs.takeWhile p
      ∧ (cs ++ rest).dropWhile p = cs.dropWhile p ++ rest := by
  induction cs with
  | nil =>
    cases rest with
    | nil => exact ⟨rfl, rfl⟩
    | cons c rest =>
      have hc := h c rfl
      simp [hc]
  | cons c cs ih =>
    rw [List.cons_append, List.takeWhile_cons, List.takeWhile_cons, List.dropWhile_cons,
      List.dropWhile_cons, ih.1, ih.2]
    split <;> simp

theorem isDigit_of_mem_take {cs : List Char} {c : Char} (h : c ∈ cs.take (digitRun cs)) :
    isDigit c = true := by
  rw [digitRun, take_length_takeWhile] at h
  exact List.mem_takeWhile_imp h

theorem length_take_digitRun (cs : List Char) : (cs.take (digitRun cs)).length = digitRun cs := by
  rw [digitRun, take_length_takeWhile]

/-- What counts as the mantissa of a numeral holds digits and a point. -/
theorem mem_take_mantissaLength {cs : List Char} {c : Char}
    (h : c ∈ cs.take (mantissaLength cs)) : isDigit c = true ∨ c = '.' := by
  unfold mantissaLength at h
  dsimp only at h
  split at h
  · next rest hrest =>
    split at h
    · simp at h
    · rw [Nat.add_assoc, List.take_add, hrest, Nat.add_comm 1, List.take_succ_cons] at h
      rcases List.mem_append.1 h with h | h
      · exact .inl (isDigit_of_mem_take h)
      · rcases List.mem_cons.1 h with rfl | h
        · exact .inr rfl
        · exact .inl (isDigit_of_mem_take h)
  · exact .inl (isDigit_of_mem_take h)

/-- What counts as an exponent is one. -/
theorem isExponentText_take (cs : List Char) : IsExponentText (cs.take (exponentLength cs)) := by
  cases cs with
  | nil => exact .absent
  | cons e rest =>
    simp only [exponentLength]
    split
    · next he =>
      have hsigned : ∀ k, k = 0 ∨ rest.take k = ['+'] ∨ rest.take k = ['-'] →
          IsExponentText ((e :: rest).take
            (if digitRun (rest.drop k) = 0 then 0 else 1 + k + digitRun (rest.drop k))) := by
        intro k hsign
        split
        · exact .absent
        · next hrun =>
          rw [Nat.add_assoc, Nat.add_comm 1, List.take_succ_cons, List.take_add]
          refine .power (by simpa using he) ?_ ?_ fun c hc => isDigit_of_mem_take hc
          · rcases hsign with rfl | hsign
            · exact .inl List.take_zero
            · exact .inr hsign
          · intro hnil
            have := length_take_digitRun (rest.drop k)
            rw [hnil] at this
            exact hrun this.symm
      split
      · exact hsigned 1 (.inr (.inl rfl))
      · exact hsigned 1 (.inr (.inr rfl))
      · exact hsigned 0 (.inl rfl)
    · exact .absent

/-- What counts as a numeral is one. -/
theorem isNumeralText_take {cs : List Char} (h : 0 < numberLength cs) :
    IsNumeralText (cs.take (numberLength cs)) := by
  have hpos : mantissaLength cs ≠ 0 := fun hzero => by simp [numberLength, hzero] at h
  have hlength : numberLength cs
      = mantissaLength cs + exponentLength (cs.drop (mantissaLength cs)) := by
    simp only [numberLength, if_neg hpos]
  rw [hlength, List.take_add]
  refine ⟨_, _, ?_, fun c hc => mem_take_mantissaLength hc, isExponentText_take _, rfl⟩
  cases cs with
  | nil => exact absurd rfl hpos
  | cons c cs =>
    obtain ⟨n, hn⟩ := Nat.exists_eq_succ_of_ne_zero hpos
    rw [hn]
    simp

/-- The lexemes that can stand at the head of the text `c :: cs`: their class and the number of
characters of `cs` that belong to them. -/
inductive IsLexeme (c : Char) (cs : List Char) : Option TokenKind → Nat → Prop
  | blanks (hc : isBlank c = true) : IsLexeme c cs none (cs.takeWhile isBlank).length
  | number (h : 0 < numberLength (c :: cs)) :
      IsLexeme c cs (some .number) (numberLength (c :: cs) - 1)
  | string {n : Nat} (h : closingLength? '\'' cs = some n) : IsLexeme c cs (some .string) n
  | quotedName {n : Nat} (h : closingLengthNonempty? '"' cs = some n) :
      IsLexeme c cs (some .quotedName) n
  | name (hc : isNameStart c = true) : IsLexeme c cs (some .name) (cs.takeWhile isNameChar).length
  | operator (hc : c ∈ "-+*/%".toList) : IsLexeme c cs (some .operator) 0
  | punctuation : IsLexeme c cs (some .punctuation) 0
  | leftParen (hc : c = '(') : IsLexeme c cs (some .leftParen) 0
  | rightParen (hc : c = ')') : IsLexeme c cs (some .rightParen) 0
  | comma (hc : c = ',') : IsLexeme c cs (some .comma) 0

theorem isLexeme_of_eq_some {c : Char} {cs : List Char} {kind? : Option TokenKind} {n : Nat}
    (h : lexemeLength? c cs = some (kind?, n)) : IsLexeme c cs kind? n := by
  unfold lexemeLength? at h
  rcases ite_eq_iff.1 h with ⟨hblank, h⟩ | ⟨-, h⟩
  · cases h
    exact .blanks hblank
  rcases ite_eq_iff.1 h with ⟨hnumber, h⟩ | ⟨-, h⟩
  · cases h
    exact .number hnumber
  rcases ite_eq_iff.1 h with ⟨-, h⟩ | ⟨-, h⟩
  · obtain ⟨m, hm, hkind⟩ := Option.map_eq_some_iff.1 h
    cases hkind
    exact .string hm
  rcases ite_eq_iff.1 h with ⟨-, h⟩ | ⟨-, h⟩
  · obtain ⟨m, hm, hkind⟩ := Option.map_eq_some_iff.1 h
    cases hkind
    exact .quotedName hm
  rcases ite_eq_iff.1 h with ⟨hname, h⟩ | ⟨-, h⟩
  · cases h
    exact .name hname
  rcases ite_eq_iff.1 h with ⟨hoperator, h⟩ | ⟨-, h⟩
  · cases h
    exact .operator (List.contains_iff_mem.1 hoperator)
  rcases ite_eq_iff.1 h with ⟨-, h⟩ | ⟨-, h⟩
  · cases h
    exact .punctuation
  rcases ite_eq_iff.1 h with ⟨hleft, h⟩ | ⟨-, h⟩
  · cases h
    exact .leftParen hleft
  rcases ite_eq_iff.1 h with ⟨hright, h⟩ | ⟨-, h⟩
  · cases h
    exact .rightParen hright
  rcases ite_eq_iff.1 h with ⟨hcomma, h⟩ | ⟨-, h⟩
  · cases h
    exact .comma hcomma
  · cases h

/-- The lexeme at the head of a text has the spelling of its kind. -/
theorem lexemeLength?_spelled {c : Char} {cs : List Char} {kind : TokenKind} {n : Nat}
    (h : lexemeLength? c cs = some (some kind, n)) : Spelled kind (c :: cs.take n) := by
  cases isLexeme_of_eq_some h with
  | number hnumber =>
    have hnumeral := isNumeralText_take hnumber
    obtain ⟨m, hm⟩ := Nat.exists_eq_succ_of_ne_zero (Nat.ne_of_gt hnumber)
    rw [hm] at hnumeral ⊢
    exact hnumeral
  | string | quotedName | punctuation => trivial
  | name hname =>
    refine ⟨c, _, rfl, hname, fun d hd => ?_⟩
    rw [take_length_takeWhile] at hd
    exact List.mem_takeWhile_imp hd
  | operator hc => exact ⟨c, hc, rfl⟩
  | leftParen hc | rightParen hc | comma hc => exact congrArg (· :: []) hc

/-- All tokens have the spelling of their kind. -/
theorem tokensFrom_spelled {pos : Nat} {cs : List Char} {ts : List Token}
    (h : tokensFrom pos cs = .ok ts) : ∀ t ∈ ts, Spelled t.kind t.chars := by
  fun_induction tokensFrom pos cs generalizing ts with
  | case1 => cases h; simp
  | case2 => cases h
  | case3 pos c cs kind? more hlength ih =>
    obtain ⟨rest, hrest, h⟩ := bind_eq_ok.1 h
    cases kind? with
    | none =>
      rw [← pure_eq_ok.1 h]
      exact ih hrest
    | some kind =>
      rw [← pure_eq_ok.1 h]
      intro t ht
      rcases List.mem_cons.1 ht with rfl | ht
      · exact lexemeLength?_spelled hlength
      · exact ih hrest t ht

end MetricLayer.Lexer
