import MetricLayer.Proofs.Sql.Term

/-!
# Texts that spell a term

`Spells rank s t` joins the two halves of reading: the text `s` is cut into lexemes, none of them a
comment, and these are read as the term `t` of a rank.  Each way of writing a term has its lemma, so
that whatever a renderer puts together is read back by following how it was put together.
-/

namespace MetricLayer.Sql

open Text

/-- The text is read as the term, without a comment in it. -/
def Spells (rank : Rank) (s : String) (t : Term) : Prop :=
  ∃ ts, Lexes s.toList ts ∧ Reads rank ts t ∧ Lexeme.comment ∉ ts

/-! ## Looser ranks -/

theorem Spells.signed {s : String} {t : Term} (h : Spells .primary s t) : Spells .signed s t :=
  let ⟨ts, hl, hr, hc⟩ := h
  ⟨ts, hl, hr.signed, hc⟩

theorem Spells.toSum {rank : Rank} {s : String} {t : Term} (h : Spells rank s t) :
    Spells .sum s t := by
  obtain ⟨ts, hl, hr, hc⟩ := h
  refine ⟨ts, hl, ?_, hc⟩
  cases rank with
  | primary => exact hr.signed.product.sum
  | signed => exact hr.product.sum
  | product => exact hr.sum
  | sum => exact hr

/-- The term of a whole text. -/
theorem Spells.read {s : String} {t : Term} (h : Spells .sum s t) :
    ∃ ts, lex s.toList = some ts ∧ Lexeme.comment ∉ ts ∧ readTerm ts = some t :=
  let ⟨ts, hl, hr, hc⟩ := h
  ⟨ts, hl.lex_eq, hc, hr.readTerm_eq⟩

/-! ## Single lexemes -/

theorem Spells.number {s : String} (h : IsNumeral s.toList) : Spells .primary s (.number s) :=
  ⟨[.number s], .number h, .number s, by simp⟩

theorem Spells.text (s : String) : Spells .primary (enclosed '\'' s) (.text s) :=
  ⟨[.text s], .text s, .text s, by simp⟩

theorem Spells.column {s : String} (h : s ≠ "") : Spells .primary (enclosed '"' s) (.column s) :=
  ⟨[.name s], .name h, .column s, by simp⟩

theorem Spells.constant {s : String} (h : isWordText s = true) (hk : folded s.toList ∉ keywords)
    (hi : folded s.toList ≠ "interval") : Spells .primary s (.constant (folded s.toList)) :=
  ⟨[.word (folded s.toList)], .word h, .constant hk hi, by simp⟩

/-! ## Parentheses and signs -/

theorem Spells.group {s : String} {t : Term} (h : Spells .sum s t) :
    Spells .primary ("(" ++ s ++ ")") t := by
  obtain ⟨ts, hl, hr, hc⟩ := h
  refine ⟨_, ?_, hr.group, by simpa using hc⟩
  have hlex := (hl.append (Lexes.rightParen Lexes.nil) (by simp [isBoundary])).leftParen
  simpa using hlex

/-- A text whose first lexeme is no operator and no comment starts with no operator character. -/
theorem noOperator_of_lexes {cs : List Char} {l : Lexeme} {ts : List Lexeme}
    (h : lex cs = some (l :: ts)) (hop : ∀ s, l ≠ .operator s) (hc : l ≠ .comment) :
    NoOperator cs := by
  intro c hmem
  cases cs with
  | nil => cases hmem
  | cons d cs =>
    cases hmem
    by_contra hoperator
    rw [Bool.not_eq_false] at hoperator
    obtain ⟨hspace, hmark, hq, hqq, hword, hdigit, hdot⟩ := isOperatorChar_exclusive hoperator
    have hat : lexemeAt c cs = symbolAt c cs := by
      simp [lexemeAt, hspace, hmark, hq, hqq, hword, hdigit, hdot, hoperator]
    cases hsymbol : symbolAt c cs with
    | none =>
      rw [lex] at h
      split at h
      · cases h
      · next r hr => rw [hat, hsymbol] at hr; cases hr
    | some r =>
      rw [lex_cons (hat.trans hsymbol)] at h
      obtain ⟨us, -, hus⟩ := Option.map_eq_some_iff.1 h
      unfold symbolAt at hsymbol
      split_ifs at hsymbol
      · cases hsymbol
        exact hc (List.cons.inj hus).1.symm
      · obtain ⟨rest, -, rfl⟩ := Option.map_eq_some_iff.1 hsymbol
        exact hc (List.cons.inj hus).1.symm
      · cases hsymbol
        exact hop _ (List.cons.inj hus).1.symm

/-- A minus stands directly before what starts with no operator character. -/
theorem Lexes.minus {s : String} {ts : List Lexeme} (h : Lexes s.toList ts)
    (hno : NoOperator s.toList) : Lexes ("-" ++ s).toList (.operator "-" :: ts) := by
  intro rest hrest
  have hminus := lex_operator (s := "-") (by decide) (hno.append hrest)
  rw [String.toList_append, List.append_assoc, hminus, h rest hrest, Option.map_map]
  rfl

/-- A primary starts with no operator character. -/
theorem Spells.negate {s : String} {t : Term} (h : Spells .primary s t) :
    Spells .signed ("-" ++ s) (.negate t) := by
  obtain ⟨ts, hl, hr, hc⟩ := h
  obtain ⟨l, ts', rfl, hop⟩ := hr.head
  have hno : NoOperator s.toList := by
    refine noOperator_of_lexes hl.lex_eq hop ?_
    rintro rfl
    simp at hc
  exact ⟨_, hl.minus hno, hr.signed.negate, by simpa using hc⟩

/-! ## Operators -/

theorem isOperatorText_sign (op : Operator) : isOperatorText op.sign = true := by
  cases op <;> decide

/-- The text of an operator between spaces. -/
theorem Lexes.between {l r s : String} {ls rs : List Lexeme} (hl : Lexes l.toList ls)
    (hs : isOperatorText s = true) (hr : Lexes r.toList rs) :
    Lexes (l ++ " " ++ s ++ " " ++ r).toList (ls ++ .operator s :: rs) := by
  have hright := ((Lexes.operator hs).append hr.space (by simp [isBoundary])).space
  have hlex := hl.append hright (by simp [isBoundary])
  simpa using hlex

theorem Spells.binary {op : Operator} {l r : String} {lt rt : Term} (hl : Spells .signed l lt)
    (hr : Spells .signed r rt) :
    Spells .sum (l ++ " " ++ op.sign ++ " " ++ r) (.binary op lt rt) := by
  obtain ⟨ls, hll, hlr, hlc⟩ := hl
  obtain ⟨rs, hrl, hrr, hrc⟩ := hr
  exact ⟨_, hll.between (isOperatorText_sign op) hrl, (Reads.binary hlr hrr).sum_of_rankOf,
    by simp [hlc, hrc]⟩

/-! ## Calls -/

theorem joined_cons (separator s u : String) (texts : List String) :
    joined separator (s :: u :: texts) = s ++ separator ++ joined separator (u :: texts) := by
  rw [joined]
  simp

/-- Texts with a separator between them, when the separator is one lexeme between boundaries. -/
theorem Lexes.separated {separator : String} {l : Lexeme} {texts : List String}
    {tss : List (List Lexeme)}
    (hsep : ∀ {cs : List Char} {ts : List Lexeme}, Lexes cs ts →
      Lexes (separator.toList ++ cs) (l :: ts) ∧ AtBoundary (separator.toList ++ cs))
    (h : List.Forall₂ (fun s ts => Lexes s.toList ts) texts tss) :
    Lexes (joined separator texts).toList (separatedBy l tss) := by
  induction h with
  | nil => simpa [joined, separatedBy] using Lexes.nil
  | @cons s ts texts tss hs hrest ih =>
    cases hrest with
    | nil => exact hs
    | @cons u us texts tss hu hrest =>
      have hlex := hs.append (hsep ih).1 (hsep ih).2
      simpa [joined, separatedBy] using hlex

/-- A comma and a space are a comma. -/
theorem Lexes.commaSpace {cs : List Char} {ts : List Lexeme} (h : Lexes cs ts) :
    Lexes (", ".toList ++ cs) (.comma :: ts) ∧ AtBoundary (", ".toList ++ cs) :=
  ⟨h.space.comma, by simp [isBoundary]⟩

theorem comment_notMem_separatedBy {l : Lexeme} {tss : List (List Lexeme)} (hl : l ≠ .comment)
    (h : ∀ ts ∈ tss, Lexeme.comment ∉ ts) : Lexeme.comment ∉ separatedBy l tss := by
  induction tss with
  | nil => simp [separatedBy]
  | cons ts tss ih =>
    have hts := h ts (by simp)
    cases tss with
    | nil => exact hts
    | cons us tss =>
      have hrest := ih fun ts' hts' => h ts' (List.mem_cons_of_mem _ hts')
      simp [separatedBy, hts, hrest, hl.symm]

/-- The text of a call: a word and its arguments in parentheses. -/
theorem Lexes.call {f s : String} {ts : List Lexeme} (hf : isWordText f = true)
    (hs : Lexes s.toList ts) :
    Lexes (f ++ "(" ++ s ++ ")").toList
      (.word (folded f.toList) :: .leftParen :: (ts ++ [.rightParen])) := by
  have hinner := (hs.append (Lexes.rightParen Lexes.nil) (by simp [isBoundary])).leftParen
  have hlex := (Lexes.word hf).append hinner (by simp [isBoundary])
  simpa using hlex

/-- The function can be called by its name like any other. -/
def IsFunctionName (f : String) : Prop :=
  isWordText f = true ∧ folded f.toList ∉ keywords ∧ folded f.toList ≠ "extract"

instance (f : String) : Decidable (IsFunctionName f) := by
  unfold IsFunctionName
  infer_instance

/-- The lexemes of several texts, when each text has lexemes with a property of its own. -/
theorem lexes_forall₂ {α : Type} {P : List Lexeme → α → Prop} {texts : List String} {xs : List α}
    (h : List.Forall₂ (fun s x => ∃ ts, Lexes s.toList ts ∧ P ts x ∧ Lexeme.comment ∉ ts)
      texts xs) :
    ∃ tss, List.Forall₂ (fun s ts => Lexes s.toList ts) texts tss
      ∧ List.Forall₂ P tss xs ∧ ∀ ts ∈ tss, Lexeme.comment ∉ ts := by
  induction h with
  | nil => exact ⟨[], .nil, .nil, by simp⟩
  | cons hs _ ih =>
    obtain ⟨ts, hl, hr, hc⟩ := hs
    obtain ⟨tss, hls, hrs, hcs⟩ := ih
    exact ⟨ts :: tss, .cons hl hls, .cons hr hrs, by simpa using ⟨hc, hcs⟩⟩

theorem spells_forall₂ {texts : List String} {args : List Term}
    (h : List.Forall₂ (Spells .sum) texts args) :
    ∃ tss, List.Forall₂ (fun s ts => Lexes s.toList ts) texts tss
      ∧ List.Forall₂ (Reads .sum) tss args ∧ ∀ ts ∈ tss, Lexeme.comment ∉ ts :=
  lexes_forall₂ h

theorem Spells.call {f : String} {texts : List String} {args : List Term} (hf : IsFunctionName f)
    (h : List.Forall₂ (Spells .sum) texts args) :
    Spells .primary (f ++ "(" ++ joined ", " texts ++ ")")
      (.call (folded f.toList) false args) := by
  obtain ⟨hword, hkey, hextract⟩ := hf
  obtain ⟨tss, hlex, hread, hc⟩ := spells_forall₂ h
  exact ⟨_, Lexes.call hword (Lexes.separated Lexes.commaSpace hlex), Reads.call hkey hextract hread,
    by simpa using comment_notMem_separatedBy (by decide) hc⟩

theorem Spells.callOne {f s : String} {t : Term} (hf : IsFunctionName f) (h : Spells .sum s t) :
    Spells .primary (f ++ "(" ++ s ++ ")") (.call (folded f.toList) false [t]) := by
  have hargs : List.Forall₂ (Spells .sum) [s] [t] := .cons h .nil
  have hcall := Spells.call hf hargs
  rwa [joined] at hcall

theorem Spells.callDistinct {f s : String} {t : Term} (hf : IsFunctionName f)
    (h : Spells .sum s t) :
    Spells .primary (f ++ "(" ++ ("DISTINCT " ++ s) ++ ")")
      (.call (folded f.toList) true [t]) := by
  obtain ⟨ts, hl, hr, hc⟩ := h
  have hword : Lexes ("DISTINCT " ++ s).toList (.word "distinct" :: ts) := by
    have hlex := (Lexes.keyword "DISTINCT" (w := "distinct") (by decide)).append hl.space
      (by simp [isBoundary])
    simpa using hlex
  exact ⟨_, Lexes.call hf.1 hword, Reads.callDistinct hf.2.1 hf.2.2 hr, by simpa using hc⟩

theorem Spells.callStar {f : String} (hf : IsFunctionName f) :
    Spells .primary (f ++ "(" ++ "*" ++ ")") (.call (folded f.toList) false [.star]) :=
  ⟨_, Lexes.call hf.1 (Lexes.operator (s := "*") (by decide)), Reads.callStar hf.2.1 hf.2.2,
    by simp⟩

end MetricLayer.Sql
