import MetricLayer.Proofs.Expr.Excerpt
import MetricLayer.Proofs.Expr.Grammar

/-!
# The numerals of an expression

A numeral of a formula consists of decimal digits of any script, with at most one point among or
beside them and an exponent (`IsScriptNumeral`).  Every numeral of an expression is that of a token
of its text (`derives_numeral`), so it is spelled like that (`Expr.parse_numeral`).
-/

namespace MetricLayer

open MetricLayer.Parser MetricLayer.Text

namespace Lexer

variable {cs : List Char}

/-! ## The spelling of numerals -/

/-- The digits of a numeral in any script, with at most one point among or beside them. -/
inductive IsScriptMantissa : List Char → Prop
  | whole {ds : List Char} (hne : ds ≠ []) (h : ∀ c ∈ ds, isDigit c = true) : IsScriptMantissa ds
  | point {ws fs : List Char} (hne : ws ++ fs ≠ []) (h : ∀ c ∈ ws ++ fs, isDigit c = true) :
      IsScriptMantissa (ws ++ '.' :: fs)

/-- The text is an unsigned numeral in the digits of any script. -/
def IsScriptNumeral (cs : List Char) : Prop :=
  ∃ m x, IsScriptMantissa m ∧ IsExponentText x ∧ cs = m ++ x

theorem isScriptMantissa_take (h : 0 < mantissaLength cs) :
    IsScriptMantissa (cs.take (mantissaLength cs)) := by
  have hwhole : ∀ c ∈ cs.take (digitRun cs), isDigit c = true := fun c hc => isDigit_of_mem_take hc
  rw [mantissaLength_eq] at h ⊢
  split_ifs at h ⊢ with hpoint hnone
  · exact absurd h (Nat.lt_irrefl 0)
  · obtain ⟨fs, hfs⟩ : ∃ fs, cs.drop (digitRun cs) = '.' :: fs := List.head?_eq_some_iff.1 hpoint
    rw [hfs, List.tail_cons] at hnone ⊢
    rw [Nat.add_assoc, List.take_add, hfs, Nat.add_comm 1, List.take_succ_cons]
    refine .point (fun hnil => hnone ?_) fun c hc => ?_
    · have hlength := congrArg List.length hnil
      rwa [List.length_append, length_take_digitRun, length_take_digitRun] at hlength
    · exact (List.mem_append.1 hc).elim (hwhole c) fun hc => isDigit_of_mem_take hc
  · refine .whole (fun hnil => ?_) hwhole
    have hlength := congrArg List.length hnil
    rw [length_take_digitRun] at hlength
    exact absurd hlength (Nat.ne_of_gt h)

theorem isScriptNumeral_take (h : 0 < numberLength cs) :
    IsScriptNumeral (cs.take (numberLength cs)) := by
  have hmantissa : mantissaLength cs ≠ 0 := fun hzero => by simp [numberLength, hzero] at h
  have hlength : numberLength cs
      = mantissaLength cs + exponentLength (cs.drop (mantissaLength cs)) := by
    simp only [numberLength, if_neg hmantissa]
  rw [hlength, List.take_add]
  exact ⟨_, _, isScriptMantissa_take (Nat.pos_of_ne_zero hmantissa), isExponentText_take _, rfl⟩

theorem lexemeLength?_number {c : Char} {n : Nat}
    (h : lexemeLength? c cs = some (some .number, n)) : IsScriptNumeral (c :: cs.take n) := by
  cases isLexeme_of_eq_some h with
  | number hnumber =>
    have hnumeral := isScriptNumeral_take hnumber
    obtain ⟨m, hm⟩ := Nat.exists_eq_succ_of_ne_zero (Nat.ne_of_gt hnumber)
    rw [hm] at hnumeral ⊢
    exact hnumeral

/-- The tokens that are numerals are spelled like numerals. -/
theorem tokensFrom_number {pos : Nat} {ts : List Token} (h : tokensFrom pos cs = .ok ts) :
    ∀ t ∈ ts, t.kind = .number → IsScriptNumeral t.chars := by
  fun_induction tokensFrom pos cs generalizing ts with
  | case1 =>
    cases h
    simp
  | case2 => cases h
  | case3 pos c cs kind? more hlength ih =>
    obtain ⟨rest, hrest, h⟩ := bind_eq_ok.1 h
    cases kind? with
    | none =>
      rw [← pure_eq_ok.1 h]
      exact ih hrest
    | some kind =>
      rw [← pure_eq_ok.1 h]
      refine List.forall_mem_cons.2 ⟨?_, ih hrest⟩
      rintro rfl
      exact lexemeLength?_number hlength

end Lexer

/-! ## Numerals and tokens -/

/-- The expressions of a phrase and all expressions inside them. -/
def Phrase.subterms : Phrase → List Expr
  | .sum e | .product e | .signed e | .primary e => e.subterms
  | .arguments es => Expr.subtermsOf es

/-- Every numeral of a phrase is that of a token. -/
theorem derives_numeral {source : List Char} {phrase : Phrase} {ts : List Token}
    (h : Derives source phrase ts) {s : String} (hs : .number s ∈ phrase.subterms) :
    ∃ t ∈ ts, t.kind = .number ∧ t.text = s := by
  induction h with
  | sum _ ih | product _ ih | signed _ ih | lastArgument _ ih =>
    exact ih (by simpa [Phrase.subterms, Expr.subtermsOf] using hs)
  | addition _ _ _ ihl ihr | multiplication _ _ _ ihl ihr =>
    simp only [Phrase.subterms, Expr.subterms, List.mem_cons, List.mem_append, reduceCtorEq,
      false_or] at hs
    rcases hs with hs | hs
    · obtain ⟨t, ht, hnumber⟩ := ihl hs
      exact ⟨t, by simp [ht], hnumber⟩
    · obtain ⟨t, ht, hnumber⟩ := ihr hs
      exact ⟨t, by simp [ht], hnumber⟩
  | argument _ _ _ ihe ihs =>
    simp only [Phrase.subterms, Expr.subtermsOf, List.mem_append] at hs
    rcases hs with hs | hs
    · obtain ⟨t, ht, hnumber⟩ := ihe hs
      exact ⟨t, by simp [ht], hnumber⟩
    · obtain ⟨t, ht, hnumber⟩ := ihs hs
      exact ⟨t, by simp [ht], hnumber⟩
  | @number t ht =>
    refine ⟨t, List.mem_cons_self, ht, ?_⟩
    simpa [Phrase.subterms, Expr.subterms, eq_comm] using hs
  | string | quotedName | loneField | field | countStar | scalar =>
    simp [Phrase.subterms, Expr.subterms, Expr.subtermsOf] at hs
  | @plainAggregate _ _ _ _ us =>
    simp only [Phrase.subterms, Expr.subterms, List.mem_cons, reduceCtorEq, false_or] at hs
    cases us with
    | nil => simp [fieldOf, Expr.subterms] at hs
    | cons u us =>
      rw [fieldOf] at hs
      split at hs <;> simp [Expr.subterms] at hs
  | minus _ _ ih | group _ _ _ ih | scalarCall _ _ _ _ _ ih | timeCall _ _ _ _ _ ih =>
    simp only [Phrase.subterms, Expr.subterms, List.mem_cons, reduceCtorEq, false_or] at hs
    obtain ⟨t, ht, hnumber⟩ := ih hs
    exact ⟨t, by simp [ht], hnumber⟩
  | aggregate _ _ _ _ _ _ _ ih =>
    simp only [Phrase.subterms, Expr.subterms, List.mem_cons, reduceCtorEq, false_or] at hs
    obtain ⟨t, ht, hnumber⟩ := ih hs
    exact ⟨t, by simp [mem_of_mem_dropDistinct ht], hnumber⟩

namespace Expr

/-- Every numeral of the expression has the property. -/
def AllNumerals (P : String → Prop) (e : Expr) : Prop := ∀ s, .number s ∈ e.subterms → P s

/-- The numerals of an expression that is read are spelled like numerals. -/
theorem parse_numerals {text : String} {e : Expr} (h : Expr.parse text = .ok e) :
    e.AllNumerals fun s => Lexer.IsScriptNumeral s.toList := by
  intro s hs
  obtain ⟨ts, hts, hsum⟩ := parse_sound h
  obtain ⟨t, ht, hkind, rfl⟩ := derives_numeral hsum hs
  rw [Token.text, String.toList_ofList]
  exact Lexer.tokensFrom_number hts t ht hkind

/-! ## Numerals of the parts -/

variable {P : String → Prop}

theorem mem_subtermsOf {e : Expr} {es : List Expr} :
    e ∈ subtermsOf es ↔ ∃ e' ∈ es, e ∈ e'.subterms := by
  induction es with
  | nil => simp [subtermsOf]
  | cons e' es ih => simp [subtermsOf, ih]

/-- The numerals of an expression are those of its parts. -/
theorem allNumerals_iff {e : Expr} : e.AllNumerals P ↔ match e with
    | .number s => P s
    | .negate operand => operand.AllNumerals P
    | .binary _ left right => left.AllNumerals P ∧ right.AllNumerals P
    | .aggregate _ argument _ => argument.AllNumerals P
    | .call _ args | .timeCall _ args _ => ∀ a ∈ args, a.AllNumerals P
    | .string _ | .field _ | .star => True := by
  have hargs : ∀ args : List Expr, (∀ s, .number s ∈ subtermsOf args → P s)
      ↔ ∀ a ∈ args, a.AllNumerals P := by
    intro args
    simp only [mem_subtermsOf]
    exact ⟨fun h a ha s hs => h s ⟨a, ha, hs⟩, fun h s ⟨a, ha, hs⟩ => h a ha s hs⟩
  cases e with
  | call name args | timeCall func args argsText =>
    refine Iff.trans ?_ (hargs args)
    simp [AllNumerals, subterms]
  | _ => simp [AllNumerals, subterms, or_imp, forall_and]

end Expr

end MetricLayer
