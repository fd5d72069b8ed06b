import MetricLayer.Proofs.Sql.Lexeme
import MetricLayer.Proofs.Text.Enclosed
import Mathlib.Data.Bool.AllAny

/-!
# Texts and their lexemes

`Lexes cs ts` says that the text `cs`, wherever it stands before a boundary, is read as the lexemes
`ts` and nothing of what follows it is touched.  The relation is closed under juxtaposition, so the
lexemes of a statement are found piece by piece:

* `Lexes.append` puts two pieces together when the second one starts at a boundary;
* `Lexes.text`, `Lexes.name`, `Lexes.word`, `Lexes.number` and `Lexes.operator` are the pieces.
-/

namespace MetricLayer.Sql

open Text

/-! ## Boundaries -/

/-- The character ends every lexeme that is not quoted. -/
def isBoundary (c : Char) : Bool := c = ' ' || c = '\n' || c = '(' || c = ')' || c = ','

/-- The text is at its end or starts with a character that ends every lexeme. -/
def AtBoundary (rest : List Char) : Prop := ∀ c ∈ rest.head?, isBoundary c = true

@[simp]
theorem atBoundary_nil : AtBoundary [] := by simp [AtBoundary]

@[simp]
theorem atBoundary_cons {c : Char} {rest : List Char} :
    AtBoundary (c :: rest) ↔ isBoundary c = true := by
  simp [AtBoundary]

theorem atBoundary_append {cs rest : List Char} (hcs : AtBoundary cs) (h : AtBoundary rest) :
    AtBoundary (cs ++ rest) := by
  cases cs with
  | nil => exact h
  | cons c cs => simpa using hcs

theorem isBoundary_iff {c : Char} :
    isBoundary c = true ↔ c = ' ' ∨ c = '\n' ∨ c = '(' ∨ c = ')' ∨ c = ',' := by
  simp [isBoundary, or_assoc]

/-! ## Pieces -/

/-- Before a boundary the text is read as these lexemes, and the rest is read on its own. -/
def Lexes (cs : List Char) (ts : List Lexeme) : Prop :=
  ∀ rest, AtBoundary rest → lex (cs ++ rest) = (lex rest).map (ts ++ ·)

theorem Lexes.lex_eq {cs : List Char} {ts : List Lexeme} (h : Lexes cs ts) :
    lex cs = some ts := by
  have := h [] atBoundary_nil
  simpa [lex_nil] using this

theorem Lexes.nil : Lexes [] [] := by
  intro rest _
  simp

/-- Two pieces stand side by side when the second one starts at a boundary. -/
theorem Lexes.append {cs ds : List Char} {ts us : List Lexeme} (hc : Lexes cs ts)
    (hd : Lexes ds us) (hb : AtBoundary ds) : Lexes (cs ++ ds) (ts ++ us) := by
  intro rest hrest
  rw [List.append_assoc, hc _ (atBoundary_append hb hrest), hd _ hrest, Option.map_map]
  congr 1
  funext x
  simp

/-- One lexeme at the head, read whatever follows. -/
theorem Lexes.cons {c : Char} {cs : List Char} {ts : List Lexeme} {l : Option Lexeme}
    (hl : ∀ rest, lexemeAt c rest = some (l, rest)) (h : Lexes cs ts) :
    Lexes (c :: cs) (l.toList ++ ts) := by
  intro rest hrest
  rw [List.cons_append, lex_cons (hl _), h _ hrest, Option.map_map]
  congr 1
  funext x
  simp

theorem Lexes.space {cs : List Char} {ts : List Lexeme} (h : Lexes cs ts) :
    Lexes (' ' :: cs) ts :=
  Lexes.cons (l := none) (fun _ => rfl) h

theorem Lexes.newline {cs : List Char} {ts : List Lexeme} (h : Lexes cs ts) :
    Lexes ('\n' :: cs) ts :=
  Lexes.cons (l := none) (fun _ => rfl) h

theorem Lexes.leftParen {cs : List Char} {ts : List Lexeme} (h : Lexes cs ts) :
    Lexes ('(' :: cs) (.leftParen :: ts) :=
  Lexes.cons (l := some .leftParen) (fun _ => rfl) h

theorem Lexes.rightParen {cs : List Char} {ts : List Lexeme} (h : Lexes cs ts) :
    Lexes (')' :: cs) (.rightParen :: ts) :=
  Lexes.cons (l := some .rightParen) (fun _ => rfl) h

theorem Lexes.comma {cs : List Char} {ts : List Lexeme} (h : Lexes cs ts) :
    Lexes (',' :: cs) (.comma :: ts) :=
  Lexes.cons (l := some .comma) (fun _ => rfl) h

/-- A single lexeme that ends where the boundary is. -/
theorem Lexes.single {c : Char} {cs : List Char} {l : Lexeme}
    (h : ∀ rest, AtBoundary rest → lexemeAt c (cs ++ rest) = some (some l, rest)) :
    Lexes (c :: cs) [l] := by
  intro rest hrest
  rw [List.cons_append, lex_cons (h rest hrest)]
  rfl

/-! ## Quoted text -/

/-- What is written with its quotes doubled is read as it was, and the reading goes on after it. -/
theorem readQuoted_double_append (q : Char) (cs rest : List Char) :
    readQuoted q (double q cs ++ rest) = (readQuoted q rest).map fun r => (cs ++ r.1, r.2) := by
  induction cs with
  | nil => simp [double, replaceChar]
  | cons c cs ih =>
    by_cases hc : c = q
    · subst hc
      rw [double_cons_self, List.cons_append, List.cons_append, readQuoted, if_pos rfl, if_pos rfl,
        ih, Option.map_map]
      rfl
    · rw [double_cons_of_ne hc, List.cons_append]
      -- the reader looks one character ahead, so the text is split before it is read
      cases hd : double q cs ++ rest with
      | nil =>
        obtain rfl := (List.append_eq_nil_iff.1 hd).2
        simp [readQuoted, hc]
      | cons d ds =>
        rw [readQuoted, if_neg hc, ← hd, ih, Option.map_map]
        rfl

/-- A quote before anything but a quote is the closing one. -/
theorem readQuoted_closing (q : Char) {rest : List Char} (h : rest.head? ≠ some q) :
    readQuoted q (q :: rest) = some ([], rest) := by
  cases rest with
  | nil => simp [readQuoted]
  | cons c rest =>
    have hc : c ≠ q := by simpa using h
    simp [readQuoted, hc]

/-- A quote that is written twice is read back once. -/
theorem readQuoted_double (q : Char) (cs rest : List Char) (h : rest.head? ≠ some q) :
    readQuoted q (double q cs ++ q :: rest) = some (cs, rest) := by
  rw [readQuoted_double_append, readQuoted_closing q h]
  simp

theorem head?_ne_of_atBoundary {rest : List Char} {c : Char} (h : AtBoundary rest)
    (hc : isBoundary c = false) : rest.head? ≠ some c := by
  intro heq
  have := h c (by rw [heq]; rfl)
  rw [hc] at this
  cases this

theorem sqlText_inv {s sql : String} (h : sqlText s = .ok sql) : sql = enclosed '\'' s := by
  unfold sqlText at h
  split at h
  · cases h
  · exact (Except.ok.inj h).symm

theorem sqlName_inv {name sql : String} (h : sqlName name = .ok sql) :
    sql = enclosed '"' name ∧ name ≠ "" := by
  unfold sqlName at h
  split at h
  · cases h
  · next hblank =>
    split at h
    · cases h
    · refine ⟨(Except.ok.inj h).symm, ?_⟩
      rintro rfl
      exact hblank (by decide)

/-- A text in single quotes is one string before anything but a single quote. -/
theorem lexemeAt_text (s : String) {rest : List Char} (h : rest.head? ≠ some '\'') :
    lexemeAt '\'' (double '\'' s.toList ++ '\'' :: rest) = some (some (.text s), rest) := by
  show stringAt _ = _
  rw [stringAt, readQuoted_double _ _ _ h]
  simp

/-- A name in double quotes that is not empty is one name before anything but a double quote. -/
theorem lexemeAt_name {s : String} (hs : s ≠ "") {rest : List Char} (h : rest.head? ≠ some '"') :
    lexemeAt '"' (double '"' s.toList ++ '"' :: rest) = some (some (.name s), rest) := by
  have hne : s.toList.isEmpty = false := by
    rw [List.isEmpty_eq_false_iff]
    exact fun h => hs (String.toList_inj.1 (by simpa using h))
  show nameAt _ = _
  rw [nameAt, readQuoted_double _ _ _ h]
  simp [Option.filter, hne]

theorem Lexes.text (s : String) : Lexes (enclosed '\'' s).toList [.text s] := by
  rw [toList_enclosed]
  refine Lexes.single fun rest hrest => ?_
  rw [List.append_assoc]
  exact lexemeAt_text s (head?_ne_of_atBoundary hrest (by decide))

theorem Lexes.name {s : String} (hs : s ≠ "") : Lexes (enclosed '"' s).toList [.name s] := by
  rw [toList_enclosed]
  refine Lexes.single fun rest hrest => ?_
  rw [List.append_assoc]
  exact lexemeAt_name hs (head?_ne_of_atBoundary hrest (by decide))

/-! ## Words -/

theorem isWordStart_exclusive {c : Char} (h : isWordStart c = true) :
    isSpace c = false ∧ mark? c = none ∧ c ≠ '\'' ∧ c ≠ '"' := by
  have key : ∀ d : Char, isWordStart d = false → c ≠ d := by
    rintro d hd rfl
    rw [hd] at h
    cases h
  refine ⟨?_, ?_, key _ (by decide), key _ (by decide)⟩
  · simp [isSpace, key ' ' (by decide), key '\t' (by decide), key '\n' (by decide),
      key '\r' (by decide), key '\x0b' (by decide), key '\x0c' (by decide)]
  · simp [mark?, key '(' (by decide), key ')' (by decide), key ',' (by decide)]

theorem isWordChar_of_isBoundary (c : Char) (h : isBoundary c = true) : isWordChar c = false := by
  obtain rfl | rfl | rfl | rfl | rfl := isBoundary_iff.1 h <;> decide

theorem startsQuote_of_atBoundary {rest : List Char} (h : AtBoundary rest) :
    startsQuote rest = false := by
  have key : ∀ c, isBoundary c = false → rest.head? ≠ some c :=
    fun c hc => head?_ne_of_atBoundary h hc
  simp [startsQuote, key '\'' (by decide), key '"' (by decide), key '&' (by decide)]

/-- The text is one word. -/
def isWordText (s : String) : Bool :=
  s.toList.head?.any isWordStart && (s.toList.drop 1).all isWordChar

/-- A word is read as one, in lower case, where neither the word goes on nor a quote follows. -/
theorem lex_word {s : String} (h : isWordText s = true) {rest : List Char}
    (hword : ∀ c ∈ rest.head?, isWordChar c = false) (hquote : startsQuote rest = false) :
    lex (s.toList ++ rest) = (lex rest).map (.word (folded s.toList) :: ·) := by
  rw [isWordText, Bool.and_eq_true] at h
  cases hs : s.toList with
  | nil => simp [hs] at h
  | cons c cs =>
    have hc : isWordStart c = true := by simpa [hs] using h.1
    have hcs : ∀ d ∈ cs, isWordChar d = true := by simpa [hs] using h.2
    obtain ⟨hspace, hmark, hq, hqq⟩ := isWordStart_exclusive hc
    have hrun : (cs ++ rest).takeWhile isWordChar = cs ∧ (cs ++ rest).dropWhile isWordChar = rest := by
      rw [List.takeWhile_append_of_pos hcs, List.dropWhile_append_of_pos hcs]
      cases rest with
      | nil => simp
      | cons d rest => simp [hword d (by simp)]
    rw [List.cons_append]
    refine lex_cons (l := some _) ?_
    simp [lexemeAt, hspace, hmark, hq, hqq, hc, wordAt, hrun.1, hrun.2, hquote]

theorem Lexes.word {s : String} (h : isWordText s = true) :
    Lexes s.toList [.word (folded s.toList)] := fun _ hrest =>
  lex_word h (fun c hc => isWordChar_of_isBoundary c (hrest c hc)) (startsQuote_of_atBoundary hrest)

/-- A keyword is read as one. -/
theorem Lexes.keyword (s : String) {w : String}
    (h : (isWordText s && folded s.toList = w) = true) : Lexes s.toList [.word w] := by
  rw [Bool.and_eq_true, decide_eq_true_eq] at h
  rw [← h.2]
  exact Lexes.word h.1

/-! ## Operators -/

/-- The text does not start with an operator character. -/
def NoOperator (rest : List Char) : Prop := ∀ c ∈ rest.head?, isOperatorChar c = false

theorem noOperator_of_atBoundary {rest : List Char} (h : AtBoundary rest) : NoOperator rest := by
  intro c hc
  obtain rfl | rfl | rfl | rfl | rfl := isBoundary_iff.1 (h c hc) <;> decide

theorem NoOperator.append {cs rest : List Char} (hcs : NoOperator cs) (h : AtBoundary rest) :
    NoOperator (cs ++ rest) := by
  cases cs with
  | nil => exact noOperator_of_atBoundary h
  | cons c cs => simpa [NoOperator] using hcs

/-- Whether an operator character starts a comment is seen on the operator alone. -/
theorem startsComment_append (c : Char) (cs : List Char) {rest : List Char} (hrest : NoOperator rest) :
    startsLineComment c (cs ++ rest) = startsLineComment c cs
      ∧ startsBlockComment c (cs ++ rest) = startsBlockComment c cs := by
  cases cs with
  | cons d cs => exact ⟨rfl, rfl⟩
  | nil =>
    have key : ∀ d, isOperatorChar d = true → rest.head? ≠ some d := by
      intro d hd heq
      have := hrest d (by rw [heq]; rfl)
      rw [hd] at this
      cases this
    simp [startsLineComment, startsBlockComment, key '-' (by decide), key '*' (by decide)]

/-- A run of operator characters ends where no operator character follows. -/
theorem operatorRun_append (cs : List Char) {rest : List Char} (hrest : NoOperator rest) :
    operatorRun (cs ++ rest) = operatorRun cs := by
  induction cs with
  | nil =>
    cases rest with
    | nil => rfl
    | cons c rest => simp [operatorRun, hrest c (by simp)]
  | cons c cs ih =>
    obtain ⟨hline, hblock⟩ := startsComment_append c cs hrest
    rw [List.cons_append, operatorRun, operatorRun, hline, hblock, ih]

theorem isOperatorChar_exclusive {c : Char} (h : isOperatorChar c = true) :
    isSpace c = false ∧ mark? c = none ∧ c ≠ '\'' ∧ c ≠ '"' ∧ isWordStart c = false
      ∧ c.isDigit = false ∧ c ≠ '.' := by
  simp only [isOperatorChar, List.contains_eq_mem, decide_eq_true_eq] at h
  revert c
  rw [← List.all_iff_forall_prop]
  decide

/-- The text is one operator. -/
def isOperatorText (s : String) : Bool :=
  s ≠ "" && operatorRun s.toList = s.toList && operatorAt s.toList = s.toList

theorem operatorAt_append (cs : List Char) {rest : List Char} (hrest : NoOperator rest) :
    operatorAt (cs ++ rest) = operatorAt cs := by
  unfold operatorAt
  rw [operatorRun_append cs hrest]

/-- An operator is read as one where no operator character follows. -/
theorem lex_operator {s : String} (h : isOperatorText s = true) {rest : List Char}
    (hrest : NoOperator rest) : lex (s.toList ++ rest) = (lex rest).map (.operator s :: ·) := by
  simp only [isOperatorText, Bool.and_eq_true, decide_eq_true_eq] at h
  obtain ⟨⟨hne, hrun⟩, hat⟩ := h
  cases hs : s.toList with
  | nil => exact absurd (String.toList_inj.1 (by simpa using hs)) hne
  | cons c cs =>
    rw [hs] at hrun hat
    have hc : isOperatorChar c = true ∧ startsLineComment c cs = false
        ∧ startsBlockComment c cs = false := by
      rw [operatorRun] at hrun
      split at hrun
      · next hc => simpa [and_assoc] using hc
      · cases hrun
    obtain ⟨hspace, hmark, hq, hqq, hword, hdigit, hdot⟩ := isOperatorChar_exclusive hc.1
    obtain ⟨hline, hblock⟩ := startsComment_append c cs hrest
    have hop : operatorAt (c :: (cs ++ rest)) = c :: cs := by
      rw [← List.cons_append, operatorAt_append (c :: cs) hrest, hat]
    have hofList : String.ofList (c :: cs) = s := by rw [← hs, String.ofList_toList]
    have hlex : lexemeAt c (cs ++ rest) = some (some (.operator s), rest) := by
      simp [lexemeAt, hspace, hmark, hq, hqq, hword, hdigit, hdot, hc, symbolAt, hline, hblock, hop,
        hofList]
    rw [List.cons_append, lex_cons hlex]
    rfl

/-- An operator before a boundary. -/
theorem Lexes.operator {s : String} (h : isOperatorText s = true) :
    Lexes s.toList [.operator s] := by
  intro rest hrest
  exact lex_operator h (noOperator_of_atBoundary hrest)

/-! ## Numerals -/

/-- ASCII digits, at least one of them. -/
def IsDigits (cs : List Char) : Prop := cs ≠ [] ∧ ∀ c ∈ cs, c.isDigit = true

theorem isDigits_of_all {d : Char} {ds : List Char} (h : (d :: ds).all Char.isDigit = true) :
    IsDigits (d :: ds) :=
  ⟨by simp, List.all_eq_true.1 h⟩

/-- The digits of a numeral, with at most one point among or beside them. -/
inductive IsMantissa : List Char → Prop
  | whole {ds : List Char} (h : IsDigits ds) : IsMantissa ds
  | point (ws fs : List Char) (h : IsDigits (ws ++ fs)) : IsMantissa (ws ++ '.' :: fs)

/-- The exponent of a numeral, if there is one. -/
inductive IsExponent : List Char → Prop
  | absent : IsExponent []
  | power {e : Char} {sign ds : List Char} (he : e = 'e' ∨ e = 'E')
      (hsign : sign = [] ∨ sign = ['+'] ∨ sign = ['-']) (hds : IsDigits ds) :
      IsExponent (e :: (sign ++ ds))

/-- An unsigned numeral of ASCII characters. -/
def IsNumeral (cs : List Char) : Prop :=
  ∃ m x, IsMantissa m ∧ IsExponent x ∧ cs = m ++ x

/-- A digit is one of ten characters. -/
theorem mem_digits_of_isDigit {c : Char} (h : c.isDigit = true) : c ∈ "0123456789".toList := by
  rw [Char.isDigit, Bool.and_eq_true, decide_eq_true_eq, decide_eq_true_eq] at h
  have hlow : 48 ≤ c.toNat := UInt32.le_iff_toNat_le.1 h.1
  have hhigh : c.toNat ≤ 57 := UInt32.le_iff_toNat_le.1 h.2
  have hc : c = Char.ofNat c.toNat := (Char.ofNat_toNat c).symm
  generalize c.toNat = n at hlow hhigh hc
  subst hc
  interval_cases n <;> decide

/-- The characters that start a numeral start no other lexeme. -/
theorem isNumeralStart_exclusive {c : Char} (h : c.isDigit = true ∨ c = '.') :
    isSpace c = false ∧ mark? c = none ∧ c ≠ '\'' ∧ c ≠ '"' ∧ isWordStart c = false := by
  have hmem : c ∈ "0123456789.".toList := by
    rcases h with h | rfl
    · exact List.mem_append_left ['.'] (mem_digits_of_isDigit h)
    · decide
  clear h
  revert c
  rw [← List.all_iff_forall_prop]
  decide

/-- The text does not start with a digit. -/
def NoDigit (rest : List Char) : Prop := ∀ c ∈ rest.head?, c.isDigit = false

theorem noDigit_of_atBoundary {rest : List Char} (h : AtBoundary rest) : NoDigit rest := by
  intro c hc
  obtain rfl | rfl | rfl | rfl | rfl := isBoundary_iff.1 (h c hc) <;> decide

theorem digitRun_append {ds rest : List Char} (hds : ∀ c ∈ ds, c.isDigit = true)
    (hrest : NoDigit rest) : digitRun (ds ++ rest) = ds.length := by
  rw [digitRun, List.takeWhile_append_of_pos hds]
  cases rest with
  | nil => simp
  | cons c rest => simp [hrest c (by simp)]

theorem exponentRun_append {x rest : List Char} (hx : IsExponent x) (hrest : AtBoundary rest) :
    exponentRun (x ++ rest) = x.length := by
  cases hx with
  | absent =>
    cases rest with
    | nil => rfl
    | cons c rest =>
      have hc := isBoundary_iff.1 (atBoundary_cons.1 hrest)
      obtain rfl | rfl | rfl | rfl | rfl := hc <;> rfl
  | @power e sign ds he hsign hds =>
    have hrun := digitRun_append hds.2 (noDigit_of_atBoundary hrest)
    have hlen : ds.length ≠ 0 := by simpa using hds.1
    have hhead : (sign ++ ds ++ rest).drop sign.length = ds ++ rest := by simp
    have hsigns : (if (sign ++ ds ++ rest).head? = some '+' ∨ (sign ++ ds ++ rest).head? = some '-'
        then 1 else 0) = sign.length := by
      rcases hsign with rfl | rfl | rfl
      · cases hd : ds with
        | nil => exact absurd hd hds.1
        | cons d ds =>
          have hdigit : d.isDigit = true := hds.2 d (by simp [hd])
          have hplus : d ≠ '+' := by rintro rfl; exact absurd hdigit (by decide)
          have hminus : d ≠ '-' := by rintro rfl; exact absurd hdigit (by decide)
          simp [hplus, hminus]
      · rfl
      · rfl
    simp only [List.cons_append, exponentRun]
    rw [if_pos (by simpa using he)]
    simp only [Bool.or_eq_true, decide_eq_true_eq, hsigns, hhead, hrun, if_neg hlen,
      List.length_cons, List.length_append]
    omega

theorem mantissaRun_append {m rest : List Char} (hm : IsMantissa m) (hrest : NoDigit rest)
    (hdot : rest.head? ≠ some '.') : mantissaRun (m ++ rest) = m.length := by
  cases hm with
  | whole h =>
    rw [mantissaRun, digitRun_append h.2 hrest]
    simp [hdot]
  | point ws fs h =>
    have hws : ∀ c ∈ ws, c.isDigit = true := fun c hc => h.2 c (List.mem_append_left _ hc)
    have hfs : ∀ c ∈ fs, c.isDigit = true := fun c hc => h.2 c (List.mem_append_right _ hc)
    have hnext : NoDigit ('.' :: (fs ++ rest)) := by
      intro c hc
      cases hc
      decide
    have hsplit : ws ++ '.' :: fs ++ rest = ws ++ '.' :: (fs ++ rest) := by simp
    have hlen : ws.length + fs.length ≠ 0 := by
      rw [← List.length_append]
      simpa using h.1
    rw [hsplit, mantissaRun, digitRun_append hws hnext]
    simp only [List.drop_left', List.head?_cons, if_true, List.drop_succ_cons, List.drop_zero,
      digitRun_append hfs hrest, if_neg hlen, List.length_append, List.length_cons]
    omega

theorem IsMantissa.ne_nil {m : List Char} (h : IsMantissa m) : m ≠ [] := by
  cases h with
  | whole h => exact h.1
  | point => simp

/-- A numeral starts with a digit or a point. -/
theorem IsMantissa.head {m : List Char} (h : IsMantissa m) :
    ∃ c cs, m = c :: cs ∧ (c.isDigit = true ∨ c = '.') := by
  cases h with
  | whole h =>
    cases m with
    | nil => exact absurd rfl h.1
    | cons c cs => exact ⟨c, cs, rfl, .inl (h.2 c (by simp))⟩
  | point ws fs h =>
    cases ws with
    | nil => exact ⟨'.', fs, rfl, .inr rfl⟩
    | cons c ws => exact ⟨c, ws ++ '.' :: fs, rfl, .inl (h.2 c (by simp))⟩

theorem numeralRun_append {cs rest : List Char} (h : IsNumeral cs) (hrest : AtBoundary rest) :
    numeralRun (cs ++ rest) = cs.length := by
  obtain ⟨m, x, hm, hx, rfl⟩ := h
  have hnext : NoDigit (x ++ rest) ∧ (x ++ rest).head? ≠ some '.' := by
    cases hx with
    | absent => exact ⟨noDigit_of_atBoundary hrest, head?_ne_of_atBoundary hrest (by decide)⟩
    | @power e sign ds he =>
      rcases he with rfl | rfl <;> exact ⟨fun c hc => by cases hc; decide, by simp⟩
  have hlen : m.length ≠ 0 := by simpa using hm.ne_nil
  rw [numeralRun, List.append_assoc, mantissaRun_append hm hnext.1 hnext.2]
  simp only [if_neg hlen, List.drop_left', exponentRun_append hx hrest, List.length_append]

/-- A numeral is read as one. -/
theorem Lexes.number {s : String} (h : IsNumeral s.toList) : Lexes s.toList [.number s] := by
  obtain ⟨m, x, hm, hx, hs⟩ := id h
  obtain ⟨c, cs, rfl, hc⟩ := hm.head
  rw [List.cons_append] at hs
  rw [hs] at h ⊢
  refine Lexes.single fun rest hrest => ?_
  obtain ⟨hspace, hmark, hq, hqq, hword⟩ := isNumeralStart_exclusive hc
  have hrun : numeralRun (c :: (cs ++ x ++ rest)) = (cs ++ x).length + 1 :=
    numeralRun_append h hrest
  have hofList : String.ofList (c :: (cs ++ x)) = s := by rw [← hs, String.ofList_toList]
  have hstart : (c.isDigit || c = '.') = true := by simpa using hc
  have hat : numberAt c (cs ++ x ++ rest) = some (some (.number s), rest) := by
    rw [numberAt, hrun]
    simp only [List.take_left', List.drop_left', hofList]
  simp only [lexemeAt, hspace, hmark, hq, hqq, hword, hstart, hat, Option.isSome_none,
    Bool.false_eq_true, if_false, if_true]

/-! ## Names with a point -/

/-- A point before a word is a lexeme of its own. -/
theorem lex_dot {s : String} (h : isWordText s = true) (rest : List Char) :
    lex ('.' :: (s.toList ++ rest)) = (lex (s.toList ++ rest)).map (.dot :: ·) := by
  rw [isWordText, Bool.and_eq_true] at h
  cases hs : s.toList with
  | nil => simp [hs] at h
  | cons c cs =>
    have hc : isWordStart c = true := by simpa [hs] using h.1
    have hdigit : c.isDigit = false := by
      by_contra hdigit
      rw [(isNumeralStart_exclusive (.inl (by simpa using hdigit))).2.2.2.2] at hc
      cases hc
    refine lex_cons (l := some .dot) ?_
    simp [lexemeAt, isSpace, mark?, isWordStart, numberAt, numeralRun, mantissaRun, digitRun, hdigit]

/-- Two names with a point between them. -/
theorem Lexes.dotted {s u : String} (hs : isWordText s = true) (hu : isWordText u = true) :
    Lexes (s ++ "." ++ u).toList [.word (folded s.toList), .dot, .word (folded u.toList)] := by
  intro rest hrest
  have hdot : (s ++ "." ++ u).toList ++ rest = s.toList ++ '.' :: (u.toList ++ rest) := by simp
  rw [hdot, lex_word hs (by simp [isWordChar, isWordStart]) (by simp [startsQuote]), lex_dot hu,
    Lexes.word hu rest hrest, Option.map_map, Option.map_map]
  rfl

end MetricLayer.Sql
