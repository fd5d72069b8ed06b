import MetricLayer.Proofs.Expr.Written
import MetricLayer.Proofs.Sql.FormulaText
import MetricLayer.Proofs.Sql.ScriptNumerals

/-!
# Texts that readers of queries pass over

`Passed cs` says that a text holds no table: it is cut into lexemes without a comment, and a reader
of queries passes over these.  `Solid cs` says besides that the text is one item of a list, or part of
one: it has no comma outside parentheses.  Names, literals and calls are solid, lists of solid texts
are passed over, and the SQL of every expression that a text spells is solid
(`Written.render_solid`).
-/

namespace MetricLayer

open Sql Text

namespace Sql

/-- The text is cut into lexemes without a comment that a reader of queries passes over. -/
def Passed (cs : List Char) : Prop := ∃ ts, Lexes cs ts ∧ Lexeme.comment ∉ ts ∧ Skipped ts

/-- A reader of queries passes over the text, and it belongs to one item of a list. -/
def Solid (cs : List Char) : Prop :=
  ∃ ts, Lexes cs ts ∧ Lexeme.comment ∉ ts ∧ Skipped ts ∧ Unsplit ts

variable {cs ds : List Char} {s t f : String}

theorem Solid.passed (h : Solid cs) : Passed cs :=
  let ⟨ts, hl, hc, hs, _⟩ := h
  ⟨ts, hl, hc, hs⟩

/-! ## Texts side by side -/

theorem Passed.append (hc : Passed cs) (hd : Passed ds) (hb : AtBoundary ds) :
    Passed (cs ++ ds) := by
  obtain ⟨ts, hl, hcomment, hs⟩ := hc
  obtain ⟨us, hl', hcomment', hs'⟩ := hd
  exact ⟨ts ++ us, hl.append hl' hb, by simp [hcomment, hcomment'], hs.append hs'⟩

theorem Passed.space (h : Passed cs) : Passed (' ' :: cs) :=
  let ⟨ts, hl, hc, hs⟩ := h
  ⟨ts, hl.space, hc, hs⟩

theorem Solid.append (hc : Solid cs) (hd : Solid ds) (hb : AtBoundary ds) : Solid (cs ++ ds) := by
  obtain ⟨ts, hl, hcomment, hs, hu⟩ := hc
  obtain ⟨us, hl', hcomment', hs', hu'⟩ := hd
  exact ⟨ts ++ us, hl.append hl' hb, by simp [hcomment, hcomment'], hs.append hs', hu.append hu'⟩

theorem Solid.space (h : Solid cs) : Solid (' ' :: cs) :=
  let ⟨ts, hl, hc, hs, hu⟩ := h
  ⟨ts, hl.space, hc, hs, hu⟩

/-- Two texts with a space between them. -/
theorem Solid.beside (hs : Solid s.toList) (ht : Solid t.toList) :
    Solid (s ++ " " ++ t).toList := by
  have := hs.append ht.space (by simp [isBoundary])
  simpa using this

/-! ## Single lexemes -/

theorem Solid.of_keepsItem {ts : List Lexeme} (hl : Lexes cs ts)
    (h : ∀ l ∈ ts, keepsItem l = true) : Solid cs :=
  ⟨ts, hl, fun hc => Bool.false_ne_true (h _ hc),
    Skipped.of_passes fun l hmem => passes_of_keepsItem (h l hmem), Unsplit.of_keepsItem h⟩

theorem Solid.name (hs : s ≠ "") : Solid (enclosed '"' s).toList :=
  .of_keepsItem (Lexes.name hs) (by simp [keepsItem, passes])

theorem Solid.text (s : String) : Solid (enclosed '\'' s).toList :=
  .of_keepsItem (Lexes.text s) (by simp [keepsItem, passes])

theorem Solid.operator (hs : isOperatorText s = true) : Solid s.toList :=
  .of_keepsItem (Lexes.operator hs) (by simp [keepsItem, passes])

theorem Solid.number (hs : IsNumeral s.toList) : Solid s.toList :=
  .of_keepsItem (Lexes.number hs) (by simp [keepsItem, passes])

/-- A word that is none of the words of queries. -/
def isPassedWord (s : String) : Bool := isWordText s && folded s.toList ∉ queryWords

theorem Solid.word (h : isPassedWord s = true) : Solid s.toList := by
  rw [isPassedWord, Bool.and_eq_true] at h
  exact .of_keepsItem (Lexes.word h.1) (by simpa [keepsItem, passes] using h.2)

/-- Words with a space between them. -/
theorem Solid.words (w : String) (ws : List String) (h : (w :: ws).all isPassedWord = true) :
    Solid (joined " " (w :: ws)).toList := by
  induction ws generalizing w with
  | nil =>
    rw [List.all_cons, Bool.and_eq_true] at h
    exact .word h.1
  | cons u ws ih =>
    rw [List.all_cons, Bool.and_eq_true] at h
    have := (Solid.word h.1).beside (ih u h.2)
    rw [joined]
    · simpa using this
    · simp

/-! ## Lists -/

/-- Texts between commas. -/
theorem Passed.joined {texts : List String} (h : ∀ s ∈ texts, Solid s.toList) :
    Passed (joined ", " texts).toList := by
  obtain ⟨tss, hlex, htss⟩ : ∃ tss, List.Forall₂ (fun s ts => Lexes s.toList ts) texts tss
      ∧ ∀ ts ∈ tss, Lexeme.comment ∉ ts ∧ Skipped ts := by
    induction texts with
    | nil => exact ⟨[], .nil, List.forall_mem_nil _⟩
    | cons s texts ih =>
      obtain ⟨ts, hl, hc, hs, -⟩ := h s List.mem_cons_self
      obtain ⟨tss, hls, htss⟩ := ih fun u hu => h u (List.mem_cons_of_mem s hu)
      exact ⟨ts :: tss, .cons hl hls, List.forall_mem_cons.2 ⟨⟨hc, hs⟩, htss⟩⟩
  exact ⟨_, Lexes.separated Lexes.commaSpace hlex,
    comment_notMem_separatedBy (by decide) fun ts hts => (htss ts hts).1,
    Skipped.separated rfl fun ts hts => (htss ts hts).2⟩

/-- Two texts with a comma between them. -/
theorem Passed.pair (hs : Solid s.toList) (ht : Solid t.toList) :
    Passed (Text.joined ", " [s, t]).toList := by
  refine Passed.joined fun u hu => ?_
  rcases List.mem_cons.1 hu with rfl | hu
  · exact hs
  · rw [List.mem_singleton.1 hu]
    exact ht

/-! ## Parentheses and operators -/

theorem Solid.group (h : Passed cs) : Solid ('(' :: (cs ++ [')'])) := by
  obtain ⟨ts, hl, hc, hs⟩ := h
  exact ⟨_, (hl.append (Lexes.rightParen Lexes.nil) (by simp [isBoundary])).leftParen,
    by simpa using hc, hs.group, .group hs⟩

/-- A text in parentheses. -/
theorem Solid.enclosed (h : Passed s.toList) : Solid ("(" ++ s ++ ")").toList := by
  simpa using Solid.group h

/-- A call of a function. -/
theorem Solid.call (hf : isPassedWord f = true) (hs : Passed s.toList) :
    Solid (f ++ "(" ++ s ++ ")").toList := by
  have := (Solid.word hf).append (Solid.group hs) (by simp [isBoundary])
  simpa using this

theorem Solid.negate (h : Solid s.toList) (hno : NoOperator s.toList) :
    Solid ("-" ++ s).toList := by
  obtain ⟨ts, hl, hc, hs, hu⟩ := h
  exact ⟨_, hl.minus hno, by simpa using hc, .cons rfl hs, .cons rfl hu⟩

theorem Solid.between (op : Operator) (hs : Solid s.toList) (ht : Solid t.toList) :
    Solid (s ++ " " ++ op.sign ++ " " ++ t).toList := by
  have := (hs.beside (Solid.operator (isOperatorText_sign op))).beside ht
  simpa using this

end Sql

namespace Expr

theorem isPassedWord_aggregate (func : Aggregate) : isPassedWord func.name = true := by
  cases func <;> decide

theorem isPassedWord_scalar {f : String} (h : f ∈ scalarFunctions) : isPassedWord f = true := by
  have hall : ∀ f ∈ scalarFunctions, isPassedWord f = true := by decide
  exact hall f h

/-- A word starts with no operator character. -/
theorem noOperator_call {f : String} (h : isPassedWord f = true) (s : String) :
    NoOperator (f ++ "(" ++ s ++ ")").toList := by
  rw [isPassedWord, isWordText, Bool.and_eq_true, Bool.and_eq_true] at h
  rw [String.toList_append, String.toList_append, String.toList_append, List.append_assoc,
    List.append_assoc]
  cases hf : f.toList with
  | nil => simp [hf] at h
  | cons c cs =>
    intro d hd
    obtain rfl : c = d := by simpa using hd
    have hc : isWordStart c = true := by simpa [hf] using h.1.1
    by_contra hop
    rw [Bool.not_eq_false] at hop
    rw [(isOperatorChar_exclusive hop).2.2.2.2.1] at hc
    cases hc

/-- An operand in parentheses, or as it is when it needs none. -/
theorem solid_grouped (wanted : Bool) {sql : String} (h : Solid sql.toList) :
    Solid (grouped wanted sql).toList := by
  cases wanted with
  | false => exact h
  | true => exact .enclosed h.passed

/-- What stands directly after a minus starts with no operator character. -/
theorem noOperator_grouped {e : Expr} {sql : String}
    (h : e.isSigned = false → NoOperator sql.toList) :
    NoOperator (grouped e.isSigned sql).toList := by
  cases hsigned : e.isSigned with
  | false => exact h hsigned
  | true => simp [grouped, NoOperator, isOperatorChar]

/-- Arguments are rendered one by one. -/
theorem renderArgs_forall₂ {args : List Expr} {sqls : List String} {R : String → Expr → Prop}
    (h : ∀ e ∈ args, ∀ {sql}, e.render = .ok sql → R sql e) (hrender : renderArgs args = .ok sqls) :
    List.Forall₂ R sqls args := by
  induction args generalizing sqls with
  | nil =>
    rw [renderArgs] at hrender
    cases hrender
    exact .nil
  | cons e rest ih =>
    rw [renderArgs] at hrender
    obtain ⟨sql, hsql, hrender⟩ := bind_eq_ok.1 hrender
    obtain ⟨others, hothers, hrender⟩ := bind_eq_ok.1 hrender
    rw [← pure_eq_ok.1 hrender]
    exact .cons (h e List.mem_cons_self hsql)
      (ih (fun e he => h e (List.mem_cons_of_mem _ he)) hothers)

/-- The SQL of an expression that a text can spell is solid, by induction on the expression.  What is
no operation starts with no operator character, so that a minus may stand before it. -/
theorem Written.render_solid {e : Expr} (h : e.Written) : ∀ {sql : String}, e.render = .ok sql →
    Solid sql.toList ∧ (e.isSigned = false → NoOperator sql.toList) := by
  induction h with
  | number h =>
    intro sql hsql
    cases hsql
    obtain ⟨ts, hl, hkeeps⟩ := IsNumeralText.lexes h
    exact ⟨.of_keepsItem hl hkeeps, fun _ => IsNumeralText.noOperator h⟩
  | string value =>
    intro sql hsql
    rw [render] at hsql
    rw [sqlText_inv hsql]
    exact ⟨.text value, fun _ => by simp [NoOperator, toList_enclosed, isOperatorChar]⟩
  | field name =>
    intro sql hsql
    rw [render] at hsql
    obtain ⟨rfl, hne⟩ := sqlName_inv hsql
    exact ⟨.name hne, fun _ => by simp [NoOperator, toList_enclosed, isOperatorChar]⟩
  | @negate operand _ ih =>
    intro sql hsql
    rw [render] at hsql
    obtain ⟨inner, hinner, hsql⟩ := bind_eq_ok.1 hsql
    rw [← pure_eq_ok.1 hsql]
    obtain ⟨hsolid, hno⟩ := ih hinner
    refine ⟨Solid.negate (solid_grouped _ hsolid) (noOperator_grouped hno), ?_⟩
    rintro ⟨⟩
  | @binary op left right _ _ ihl ihr =>
    intro sql hsql
    rw [render] at hsql
    obtain ⟨l, hl, hsql⟩ := bind_eq_ok.1 hsql
    obtain ⟨r, hr, hsql⟩ := bind_eq_ok.1 hsql
    rw [← pure_eq_ok.1 hsql]
    refine ⟨Solid.between op (solid_grouped _ (ihl hl).1) (solid_grouped _ (ihr hr).1), ?_⟩
    rintro ⟨⟩
  | countStar =>
    intro sql hsql
    have hstar : Expr.star.render = .ok "*" := by rw [render]
    rw [render_aggregate hstar] at hsql
    rw [← Except.ok.inj hsql]
    have hname := isPassedWord_aggregate .count
    exact ⟨.call hname (Solid.operator (s := "*") (by decide)).passed, fun _ => noOperator_call hname "*"⟩
  | @aggregate func argument distinct _ ih =>
    intro sql hsql
    rw [render] at hsql
    obtain ⟨inner, hinner, hsql⟩ := bind_eq_ok.1 hsql
    rw [← pure_eq_ok.1 hsql]
    have hsolid := (ih hinner).1
    have hname := isPassedWord_aggregate func
    have hargument : Solid ((if distinct then "DISTINCT " else "") ++ inner).toList := by
      cases distinct with
      | false => simpa using hsolid
      | true =>
        have := (Solid.word (s := "DISTINCT") (by decide)).beside hsolid
        simpa using this
    have hassoc : func.name ++ "(" ++ (if distinct then "DISTINCT " else "") ++ inner
        = func.name ++ "(" ++ ((if distinct then "DISTINCT " else "") ++ inner) :=
      String.append_assoc
    rw [hassoc]
    exact ⟨.call hname hargument.passed, fun _ => noOperator_call hname _⟩
  | @call name args hname _ ih =>
    intro sql hsql
    rw [render] at hsql
    obtain ⟨sqls, hsqls, hsql⟩ := bind_eq_ok.1 hsql
    rw [← pure_eq_ok.1 hsql]
    have hword := isPassedWord_scalar hname
    have hrendered : List.Forall₂ (fun sql _ => Solid sql.toList) sqls args :=
      renderArgs_forall₂ (fun e he sql hsql => (ih e he hsql).1) hsqls
    have hargs : ∀ sql ∈ sqls, Solid sql.toList := by
      intro sql hsql
      obtain ⟨-, hsolid⟩ := forall₂_mem_left hrendered sql hsql
      exact hsolid
    exact ⟨.call hword (.joined hargs), fun _ => noOperator_call hword _⟩
  | timeCall =>
    intro sql hsql
    cases hsql

end Expr

end MetricLayer
