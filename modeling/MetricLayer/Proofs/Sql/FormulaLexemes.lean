import MetricLayer.Proofs.Expr.Completeness
import MetricLayer.Proofs.Expr.Numerals
import MetricLayer.Proofs.Sql.MetricText
import MetricLayer.Proofs.Sql.Numerals

/-!
# What the SQL of a formula consists of

Everything of a formula that reaches SQL is quoted, except for its numerals and the names of its
functions.  So the SQL is cut into names, texts, numerals, arithmetic operators, parentheses, commas
and the words of `formulaWords` (`Lexeme.OfFormula`), provided that its numerals are ones for the
database.

A formula takes the digits of any script for digits, while the database takes those beyond ASCII for
parts of a word.  `formulaSql_lexemes` says that this is the only way for text of a formula to reach
SQL as anything but a literal: the lexemes are those of formulas exactly if every numeral is ASCII.
`arabicThree_unquoted` is a formula whose SQL is read as the name of a column.
-/

namespace MetricLayer

open Sql Text

namespace Sql

/-! ## Lexemes of formulas -/

/-- The words that are written into the SQL of formulas, in lower case. -/
def formulaWords : List String :=
  ("DISTINCT" :: Aggregate.all.map Aggregate.name ++ scalarFunctions).map fun w => folded w.toList

/-- The lexeme may stand in the SQL of a formula. -/
def Lexeme.OfFormula : Lexeme → Prop
  | .word w => w ∈ formulaWords
  | .number s => IsNumeral s.toList
  | .operator s => s ∈ ["+", "-", "*", "/", "%"]
  | .name _ | .text _ | .leftParen | .rightParen | .comma => True
  | .dot | .comment => False

@[simp]
theorem ofFormula_leftParen : Lexeme.leftParen.OfFormula := trivial

@[simp]
theorem ofFormula_rightParen : Lexeme.rightParen.OfFormula := trivial

@[simp]
theorem ofFormula_comma : Lexeme.comma.OfFormula := trivial

@[simp]
theorem ofFormula_name (s : String) : (Lexeme.name s).OfFormula := trivial

@[simp]
theorem ofFormula_text (s : String) : (Lexeme.text s).OfFormula := trivial

@[simp]
theorem ofFormula_word {w : String} : (Lexeme.word w).OfFormula ↔ w ∈ formulaWords := Iff.rfl

@[simp]
theorem ofFormula_sign (op : Operator) : (Lexeme.operator op.sign).OfFormula := by
  cases op <;> simp [Lexeme.OfFormula, Operator.sign]

/-- The text consists of ASCII characters. -/
def IsAsciiText (s : String) : Prop := ∀ c ∈ s.toList, c.toNat < 0x80

/-! ## Numerals -/

section Numerals

variable {cs : List Char} {c : Char}

theorem isDigit_of_ascii (h : isDigit c = true) (hascii : c.toNat < 0x80) : c.isDigit = true :=
  (isDigit_cases h).resolve_right (Nat.not_le_of_gt hascii)

/-- A numeral of ASCII characters is one for the database. -/
theorem isNumeral_of_ascii (h : Lexer.IsScriptNumeral cs) (hascii : ∀ c ∈ cs, c.toNat < 0x80) :
    IsNumeral cs := by
  obtain ⟨m, x, hm, hx, rfl⟩ := h
  have hdigits : ∀ ds : List Char, (∀ c ∈ ds, isDigit c = true) → (∀ c ∈ ds, c ∈ m ++ x) →
      ∀ c ∈ ds, c.isDigit = true :=
    fun ds hds hsub c hc => isDigit_of_ascii (hds c hc) (hascii c (hsub c hc))
  refine ⟨m, x, ?_, ?_, rfl⟩
  · cases hm with
    | whole hne h => exact .whole ⟨hne, hdigits m h fun c hc => List.mem_append_left x hc⟩
    | @point ws fs hne h =>
      refine .point ws fs ⟨hne, hdigits _ h fun c hc => List.mem_append_left x ?_⟩
      exact (List.mem_append.1 hc).elim (List.mem_append_left _)
        fun hc => List.mem_append_right _ (List.mem_cons_of_mem _ hc)
  · cases hx with
    | absent => exact .absent
    | power he hsign hne h =>
      refine .power he hsign ⟨hne, hdigits _ h fun c hc => List.mem_append_right m ?_⟩
      exact List.mem_cons_of_mem _ (List.mem_append_right _ hc)

theorem IsNumeral.ascii (h : IsNumeral cs) : ∀ c ∈ cs, c.toNat < 0x80 := by
  have hall : ∀ c ∈ numeralChars, c.toNat < 0x80 := List.all_iff_forall_prop.1 (by decide)
  exact fun c hc => hall c (h.chars c hc)

theorem isNumeralText_of_script (h : Lexer.IsScriptNumeral cs) : Lexer.IsNumeralText cs := by
  obtain ⟨m, x, hm, hx, rfl⟩ := h
  refine ⟨m, x, ?_, ?_, hx, rfl⟩
  · cases hm with
    | whole hne => exact hne
    | point => simp
  · intro c hc
    cases hm with
    | whole _ h => exact .inl (h c hc)
    | point _ h =>
      rcases List.mem_append.1 hc with hc | hc
      · exact .inl (h c (List.mem_append_left _ hc))
      · rcases List.mem_cons.1 hc with rfl | hc
        · exact .inr rfl
        · exact .inl (h c (List.mem_append_right _ hc))

/-- No word of formulas is made of the characters of numerals. -/
theorem folded_notMem_formulaWords (h : ∀ c ∈ cs, isNumeralChar c = true ∧ isWordChar c = true) :
    folded cs ∉ formulaWords := by
  intro hmem
  have hother : ∀ w ∈ formulaWords, w.toList.all isFoldedNumeralChar = false := by decide
  have hall : (folded cs).toList.all isFoldedNumeralChar = true := by
    rw [folded, String.toList_ofList, List.all_eq_true]
    intro d hd
    obtain ⟨c, hc, rfl⟩ := List.mem_map.1 hd
    exact isFoldedNumeralChar_toLower (h c hc).1 (h c hc).2
  rw [hother _ hmem] at hall
  cases hall

/-- The first lexeme of characters of numerals is none of formulas, or it is made of ASCII. -/
theorem lexemeAt_numeralChars {r : Head} (hchars : ∀ d ∈ c :: cs, isNumeralChar d = true)
    (hr : lexemeAt c cs = some r) :
    (∃ l ∈ r.1, ¬l.OfFormula)
      ∨ ∃ taken, c :: cs = taken ++ r.2 ∧ taken ≠ [] ∧ ∀ d ∈ taken, d.toNat < 0x80 := by
  rcases isNumeralChar_cases (hchars c List.mem_cons_self) with hword | hnumber | hsign
  · obtain ⟨hspace, hmark, hq, hqq⟩ := isWordStart_exclusive hword
    rw [lexemeAt, if_neg (by simp [hspace]), if_neg (by simp [hmark]), if_neg hq, if_neg hqq,
      if_pos hword, wordAt] at hr
    split at hr
    · cases hr
    · cases hr
      refine .inl ⟨_, rfl, folded_notMem_formulaWords fun d hd => ⟨hchars d ?_, ?_⟩⟩
      · exact (List.mem_cons.1 hd).elim (by rintro rfl; exact List.mem_cons_self)
          fun hd => List.mem_cons_of_mem _ ((List.takeWhile_prefix _).subset hd)
      · rcases List.mem_cons.1 hd with rfl | hd
        · simp [isWordChar, hword]
        · exact List.mem_takeWhile_imp hd
  · obtain ⟨hspace, hmark, hq, hqq, hword⟩ := isNumeralStart_exclusive hnumber
    rw [lexemeAt, if_neg (by simp [hspace]), if_neg (by simp [hmark]), if_neg hq, if_neg hqq,
      if_neg (by simp [hword]), if_pos (by simpa using hnumber), numberAt] at hr
    split at hr
    · split at hr
      · cases hr
        exact .inl ⟨_, rfl, id⟩
      · cases hr
    · next more _ =>
      cases hr
      by_cases hnumeral : IsNumeral (c :: cs.take more)
      · refine .inr ⟨c :: cs.take more, ?_, List.cons_ne_nil _ _, hnumeral.ascii⟩
        rw [List.cons_append, List.take_append_drop]
      · refine .inl ⟨_, rfl, fun h => hnumeral ?_⟩
        rwa [Lexeme.OfFormula, String.toList_ofList] at h
  · have hop : isOperatorChar c = true := by
      simp only [isSign, Bool.or_eq_true, decide_eq_true_eq] at hsign
      rcases hsign with rfl | rfl <;> decide
    obtain ⟨hspace, hmark, hq, hqq, hword, hdigit, hdot⟩ := isOperatorChar_exclusive hop
    have hat : lexemeAt c cs = symbolAt c cs := by
      simp [lexemeAt, hspace, hmark, hq, hqq, hword, hdigit, hdot, hop]
    rw [hat, symbolAt] at hr
    split_ifs at hr
    · cases hr
      exact .inl ⟨_, rfl, id⟩
    · obtain ⟨rest, -, rfl⟩ := Option.map_eq_some_iff.1 hr
      exact .inl ⟨_, rfl, id⟩
    · cases hr
      by_cases hformula : (Lexeme.operator (String.ofList (operatorAt (c :: cs)))).OfFormula
      · -- an operator of formulas is a single character
        have hlength : (operatorAt (c :: cs)).length = 1 := by
          have hall : ∀ s ∈ ["+", "-", "*", "/", "%"], s.toList.length = 1 := by decide
          simpa using hall _ hformula
        refine .inr ⟨[c], by simp [hlength], by simp, ?_⟩
        simp only [isSign, Bool.or_eq_true, decide_eq_true_eq] at hsign
        rcases hsign with rfl | rfl <;> simp
      · exact .inl ⟨_, rfl, hformula⟩

/-- A character beyond ASCII among those of a numeral makes a lexeme that is none of formulas, by
induction over the lexemes. -/
theorem exists_not_ofFormula {ts : List Lexeme} (hchars : ∀ d ∈ cs, isNumeralChar d = true)
    (hlex : lex cs = some ts) (hc : c ∈ cs) (hlarge : 0x80 ≤ c.toNat) :
    ∃ l ∈ ts, ¬l.OfFormula := by
  induction hn : cs.length using Nat.strong_induction_on generalizing cs ts with
  | _ n ih =>
    cases cs with
    | nil => cases hc
    | cons d cs =>
      rw [lex] at hlex
      split at hlex
      · cases hlex
      · next r hr =>
        obtain ⟨us, hus, rfl⟩ := Option.map_eq_some_iff.1 hlex
        rcases lexemeAt_numeralChars hchars hr with ⟨l, hl, hnot⟩ | ⟨taken, hsplit, hne, hascii⟩
        · exact ⟨l, List.mem_append_left _ (Option.mem_toList.2 hl), hnot⟩
        · have hmem : c ∈ r.2 := by
            rw [hsplit] at hc
            exact (List.mem_append.1 hc).resolve_left fun hc =>
              absurd (hascii c hc) (Nat.not_lt_of_ge hlarge)
          have hshorter : r.2.length < n := by
            have hlength := congrArg List.length hsplit
            rw [List.length_append] at hlength
            have := List.length_pos_iff.2 hne
            omega
          obtain ⟨l, hl, hnot⟩ := ih _ hshorter
            (fun e he => hchars e (hsplit ▸ List.mem_append_right _ he)) hus hmem rfl
          exact ⟨l, List.mem_append_right _ hl, hnot⟩

/-- The text is cut into lexemes, and these are lexemes of formulas exactly if `p` holds. -/
def LexesOfFormulaIff (cs : List Char) (p : Prop) : Prop :=
  ∃ ts, Lexes cs ts ∧ ((∀ l ∈ ts, l.OfFormula) ↔ p)

theorem lexesOfFormulaIff_numeral (h : Lexer.IsScriptNumeral cs) :
    LexesOfFormulaIff cs (∀ c ∈ cs, c.toNat < 0x80) := by
  have htext := isNumeralText_of_script h
  by_cases hascii : ∀ c ∈ cs, c.toNat < 0x80
  · have hnumeral := isNumeral_of_ascii h hascii
    have hlexes : Lexes cs [.number (String.ofList cs)] := by
      have := Lexes.number (s := String.ofList cs) (by rwa [String.toList_ofList])
      rwa [String.toList_ofList] at this
    refine ⟨_, hlexes, iff_of_true ?_ hascii⟩
    simpa [Lexeme.OfFormula] using hnumeral
  · obtain ⟨ts, hlexes, -⟩ := IsNumeralText.lexes htext
    refine ⟨ts, hlexes, iff_of_false (fun hall => ?_) hascii⟩
    push Not at hascii
    obtain ⟨c, hc, hlarge⟩ := hascii
    obtain ⟨l, hl, hnot⟩ :=
      exists_not_ofFormula (IsNumeralText.chars htext) hlexes.lex_eq hc hlarge
    exact hnot (hall l hl)

end Numerals

/-! ## Texts put together -/

section Pieces

variable {cs ds : List Char} {p q : Prop} {s l r : String}

theorem LexesOfFormulaIff.of_all {ts : List Lexeme} (h : Lexes cs ts)
    (hall : ∀ l ∈ ts, l.OfFormula) : LexesOfFormulaIff cs True :=
  ⟨ts, h, iff_of_true hall trivial⟩

theorem LexesOfFormulaIff.congr (h : LexesOfFormulaIff cs p) (hpq : p ↔ q) :
    LexesOfFormulaIff cs q :=
  let ⟨ts, hl, hts⟩ := h
  ⟨ts, hl, hts.trans hpq⟩

theorem LexesOfFormulaIff.append (hc : LexesOfFormulaIff cs p) (hd : LexesOfFormulaIff ds q)
    (hb : AtBoundary ds) : LexesOfFormulaIff (cs ++ ds) (p ∧ q) := by
  obtain ⟨ts, hl, hts⟩ := hc
  obtain ⟨us, hl', hus⟩ := hd
  exact ⟨ts ++ us, hl.append hl' hb, by rw [List.forall_mem_append, hts, hus]⟩

theorem LexesOfFormulaIff.space (h : LexesOfFormulaIff cs p) : LexesOfFormulaIff (' ' :: cs) p :=
  let ⟨ts, hl, hts⟩ := h
  ⟨ts, hl.space, hts⟩

theorem LexesOfFormulaIff.comma (h : LexesOfFormulaIff cs p) : LexesOfFormulaIff (',' :: cs) p := by
  obtain ⟨ts, hl, hts⟩ := h
  exact ⟨_, hl.comma, by rw [List.forall_mem_cons, hts, and_iff_right ofFormula_comma]⟩

theorem LexesOfFormulaIff.group (h : LexesOfFormulaIff s.toList p) :
    LexesOfFormulaIff ("(" ++ s ++ ")").toList p := by
  obtain ⟨ts, hl, hts⟩ := h
  have hlexes := (hl.append (Lexes.rightParen Lexes.nil) (by simp [isBoundary])).leftParen
  refine ⟨.leftParen :: (ts ++ [.rightParen]), by simpa using hlexes, ?_⟩
  rw [← hts]
  simp [or_imp, forall_and]

theorem LexesOfFormulaIff.call {f : String} (hf : isWordText f = true)
    (hword : folded f.toList ∈ formulaWords) (h : LexesOfFormulaIff s.toList p) :
    LexesOfFormulaIff (f ++ "(" ++ s ++ ")").toList p := by
  obtain ⟨ts, hl, hts⟩ := h
  refine ⟨_, Lexes.call hf hl, ?_⟩
  rw [← hts]
  simp [or_imp, forall_and, hword]

theorem LexesOfFormulaIff.minus (h : LexesOfFormulaIff s.toList p) (hno : NoOperator s.toList) :
    LexesOfFormulaIff ("-" ++ s).toList p := by
  obtain ⟨ts, hl, hts⟩ := h
  have hminus : (Lexeme.operator "-").OfFormula := ofFormula_sign .sub
  exact ⟨_, hl.minus hno, by rw [List.forall_mem_cons, hts, and_iff_right hminus]⟩

theorem LexesOfFormulaIff.between (op : Operator) (hl : LexesOfFormulaIff l.toList p)
    (hr : LexesOfFormulaIff r.toList q) :
    LexesOfFormulaIff (l ++ " " ++ op.sign ++ " " ++ r).toList (p ∧ q) := by
  obtain ⟨ls, hll, hls⟩ := hl
  obtain ⟨rs, hrl, hrs⟩ := hr
  refine ⟨_, hll.between (isOperatorText_sign op) hrl, ?_⟩
  rw [← hls, ← hrs, List.forall_mem_append, List.forall_mem_cons, and_iff_right (ofFormula_sign op)]

/-- Texts between commas. -/
theorem LexesOfFormulaIff.joined {α : Type} {P : α → Prop} {texts : List String} {as : List α}
    (h : List.Forall₂ (fun s a => LexesOfFormulaIff s.toList (P a)) texts as) :
    LexesOfFormulaIff (joined ", " texts).toList (∀ a ∈ as, P a) := by
  induction h with
  | nil => exact (LexesOfFormulaIff.of_all Lexes.nil (by simp)).congr (by simp)
  | @cons s a texts as hs hrest ih =>
    cases hrest with
    | nil => exact hs.congr (by simp)
    | @cons u b texts as hu hrest =>
      have := hs.append ih.space.comma (by simp [isBoundary])
      rw [List.forall_mem_cons, joined_cons]
      simpa using this

end Pieces

end Sql

namespace Expr

/-! ## The SQL of an expression -/

theorem mem_formulaWords_aggregate (func : Aggregate) :
    isWordText func.name = true ∧ folded func.name.toList ∈ formulaWords := by
  cases func <;> decide

theorem mem_formulaWords_scalar {f : String} (h : f ∈ scalarFunctions) :
    isWordText f = true ∧ folded f.toList ∈ formulaWords :=
  ⟨(scalarFunction_name h).1.1,
    List.mem_map_of_mem (List.mem_append_right _ h)⟩

theorem lexesOfFormulaIff_grouped (wanted : Bool) {sql : String} {p : Prop}
    (h : LexesOfFormulaIff sql.toList p) : LexesOfFormulaIff (grouped wanted sql).toList p := by
  cases wanted with
  | false => exact h
  | true => exact h.group

/-- The SQL of an expression that a text can spell is cut into lexemes of formulas exactly if its
numerals are ASCII, by induction on the expression. -/
theorem Written.render_lexemes {e : Expr} (h : e.Written)
    (hnumerals : e.AllNumerals fun s => Lexer.IsScriptNumeral s.toList) {sql : String}
    (hsql : e.render = .ok sql) : LexesOfFormulaIff sql.toList (e.AllNumerals IsAsciiText) := by
  induction h generalizing sql with
  | number h =>
    cases hsql
    refine LexesOfFormulaIff.congr ?_ allNumerals_iff.symm
    exact lexesOfFormulaIff_numeral (allNumerals_iff.1 hnumerals)
  | string value =>
    rw [render] at hsql
    rw [sqlText_inv hsql]
    refine LexesOfFormulaIff.congr ?_ allNumerals_iff.symm
    exact .of_all (Lexes.text value) (by simp)
  | field name =>
    rw [render] at hsql
    obtain ⟨rfl, hne⟩ := sqlName_inv hsql
    refine LexesOfFormulaIff.congr ?_ allNumerals_iff.symm
    exact .of_all (Lexes.name hne) (by simp)
  | @negate operand hoperand ih =>
    rw [render] at hsql
    obtain ⟨inner, hinner, hsql⟩ := bind_eq_ok.1 hsql
    rw [← pure_eq_ok.1 hsql]
    have hlexes := ih (allNumerals_iff.1 hnumerals) hinner
    refine LexesOfFormulaIff.congr ?_ allNumerals_iff.symm
    exact (lexesOfFormulaIff_grouped _ hlexes).minus
      (noOperator_grouped (hoperand.render_solid hinner).2)
  | @binary op left right _ _ ihl ihr =>
    rw [render] at hsql
    obtain ⟨l, hl, hsql⟩ := bind_eq_ok.1 hsql
    obtain ⟨r, hr, hsql⟩ := bind_eq_ok.1 hsql
    rw [← pure_eq_ok.1 hsql]
    obtain ⟨hleft, hright⟩ := allNumerals_iff.1 hnumerals
    refine LexesOfFormulaIff.congr ?_ allNumerals_iff.symm
    exact .between op (lexesOfFormulaIff_grouped _ (ihl hleft hl))
      (lexesOfFormulaIff_grouped _ (ihr hright hr))
  | countStar =>
    have hstar : Expr.star.render = .ok "*" := by rw [render]
    rw [render_aggregate hstar] at hsql
    rw [← Except.ok.inj hsql]
    obtain ⟨hword, hmem⟩ := mem_formulaWords_aggregate .count
    have hlexes : LexesOfFormulaIff "*".toList True :=
      .of_all (Lexes.operator (s := "*") (by decide))
        (List.forall_mem_singleton.2 (ofFormula_sign .mul))
    refine LexesOfFormulaIff.congr ?_ allNumerals_iff.symm
    have hnone : star.AllNumerals IsAsciiText := allNumerals_iff.2 trivial
    exact (hlexes.call hword hmem).congr (iff_of_true trivial hnone)
  | @aggregate func argument distinct _ ih =>
    rw [render] at hsql
    obtain ⟨inner, hinner, hsql⟩ := bind_eq_ok.1 hsql
    rw [← pure_eq_ok.1 hsql]
    have hlexes := ih (allNumerals_iff.1 hnumerals) hinner
    obtain ⟨hword, hmem⟩ := mem_formulaWords_aggregate func
    have hargument : LexesOfFormulaIff ((if distinct then "DISTINCT " else "") ++ inner).toList
        (argument.AllNumerals IsAsciiText) := by
      cases distinct with
      | false => simpa using hlexes
      | true =>
        have hdistinct : LexesOfFormulaIff "DISTINCT".toList True :=
          .of_all (Lexes.keyword "DISTINCT" (w := "distinct") (by decide))
            (List.forall_mem_singleton.2 (by decide : "distinct" ∈ formulaWords))
        simpa using hdistinct.append hlexes.space (by simp [isBoundary])
    have hassoc : func.name ++ "(" ++ (if distinct then "DISTINCT " else "") ++ inner
        = func.name ++ "(" ++ ((if distinct then "DISTINCT " else "") ++ inner) :=
      String.append_assoc
    rw [hassoc]
    refine LexesOfFormulaIff.congr ?_ allNumerals_iff.symm
    exact hargument.call hword hmem
  | @call name args hname _ ih =>
    rw [render] at hsql
    obtain ⟨sqls, hsqls, hsql⟩ := bind_eq_ok.1 hsql
    rw [← pure_eq_ok.1 hsql]
    obtain ⟨hword, hmem⟩ := mem_formulaWords_scalar hname
    have hparts := allNumerals_iff.1 hnumerals
    have hargs := renderArgs_forall₂ (fun e he sql hsql => ih e he (hparts e he) hsql) hsqls
    refine LexesOfFormulaIff.congr ?_ allNumerals_iff.symm
    exact .call hword hmem (.joined hargs)
  | timeCall => cases hsql

end Expr

/-- The SQL of a formula consists of names, texts, numerals, arithmetic operators, parentheses,
commas and the words of functions and DISTINCT exactly if all numerals of the formula are ASCII. -/
theorem formulaSql_lexemes {text sql : String} (h : formulaSql text = .ok sql) :
    ∃ e ts, Expr.parse text = .ok e ∧ lex sql.toList = some ts
      ∧ ((∀ l ∈ ts, l.OfFormula) ↔
        ∀ s, .number s ∈ e.subterms → ∀ c ∈ s.toList, c.toNat < 0x80) := by
  rw [formulaSql] at h
  obtain ⟨e, he, hsql⟩ := bind_eq_ok.1 h
  have hparse := ofExpr_eq_ok.1 he
  obtain ⟨ts, hlexes, hts⟩ :=
    (Expr.parse_written hparse).render_lexemes (Expr.parse_numerals hparse) hsql
  exact ⟨e, ts, hparse, hlexes.lex_eq, hts⟩

/-! ## Single digits -/

/-- A single digit of any script is an expression. -/
theorem parse_digit {c : Char} (h : isDigit c = true) :
    Expr.parse (String.ofList [c]) = .ok (.number (String.ofList [c])) := by
  have hblank : isBlank c = false := by
    by_contra hblank
    rw [Bool.not_eq_false] at hblank
    exact absurd (h.symm.trans (isDigit_of_isBlank hblank)) (by decide)
  have hstripped : stripBlanks [c] = [c] := by simp [stripBlanks, stripEnd, hblank]
  have hopen : c ≠ '(' := by
    rintro rfl
    exact absurd h (by decide)
  have hclose : c ≠ ')' := by
    rintro rfl
    exact absurd h (by decide)
  have hnumber : Lexer.numberLength [c] = 1 := by
    simp [Lexer.numberLength, Lexer.mantissaLength, Lexer.digitRun, Lexer.exponentLength, h]
  have hlength : Lexer.lexemeLength? c [] = some (some .number, 0) := by
    simp [Lexer.lexemeLength?, hblank, hnumber]
  have htokens : Lexer.tokens [c] = .ok [⟨.number, [c], 0⟩] := by
    rw [Lexer.tokens, Lexer.tokensFrom_lexeme 0 hlength, List.drop_nil, Lexer.tokensFrom]
    rfl
  have hderives : Derives [c] (.primary (.number (String.ofList [c]))) [⟨.number, [c], 0⟩] :=
    Derives.number (t := ⟨.number, [c], 0⟩) rfl
  refine Expr.parse_eq_ok.2 ⟨?_, ?_, ?_⟩
  · simp [isBlankText, hblank]
  · simp [Parser.isBalanced, Parser.isBalancedFrom, hopen, hclose]
  · rw [String.toList_ofList, hstripped]
    exact Parser.parseChars_complete htokens (by simp [slice, Token.stop])
      (.sum (.product (.signed hderives)))

theorem formulaSql_digit {c : Char} (h : isDigit c = true) :
    formulaSql (String.ofList [c]) = .ok (String.ofList [c]) := by
  rw [formulaSql, parse_digit h]
  rfl

/-- The SQL of the formula `7` consists of lexemes of formulas. -/
theorem seven_lexemes :
    formulaSql "7" = .ok "7" ∧ ∃ ts, lex "7".toList = some ts ∧ ∀ l ∈ ts, l.OfFormula := by
  have hseven : formulaSql "7" = .ok "7" := formulaSql_digit (c := '7') (by decide)
  obtain ⟨e, ts, hparse, hlex, hts⟩ := formulaSql_lexemes hseven
  have hnumber : e = .number "7" :=
    Except.ok.inj (hparse.symm.trans (parse_digit (c := '7') (by decide)))
  refine ⟨hseven, ts, hlex, hts.2 ?_⟩
  rw [hnumber]
  simp [Expr.subterms]

/-- The digit three of the Arabic script is a formula, and its SQL is read as the name of a
column. -/
theorem arabicThree_unquoted :
    formulaSql "٣" = .ok "٣" ∧ lex "٣".toList = some [.word "٣"]
      ∧ ¬(Lexeme.word "٣").OfFormula := by
  refine ⟨formulaSql_digit (c := '٣') (by decide), ?_, by rw [ofFormula_word]; decide⟩
  have hword : lexemeAt '٣' [] = some (some (.word "٣"), []) := by decide
  rw [show "٣".toList = ['٣'] from rfl, lex_cons hword, lex_nil]
  rfl

end MetricLayer
