import MetricLayer.Proofs.Expr.Tokens
import MetricLayer.Proofs.Sql.SelectList

/-!
# Numerals in the digits of any script

A formula may write its numerals in the digits of any script, while only ASCII digits make numerals
of SQL.  Such a numeral is still cut into lexemes wherever it stands, and these are words, numerals,
points and signs: no comment, no comma and none of the words that queries are made of
(`IsNumeralText.lexes`).

The proof goes from left to right.  What it keeps is that all characters are those of numerals and
that no operator character follows a sign.
-/

namespace MetricLayer.Sql

open Text

/-! ## Boundaries after any text -/

/-- A run of characters of a class without boundaries does not reach over a boundary. -/
theorem takeWhile_dropWhile_append {p : Char → Bool}
    (hp : ∀ c, isBoundary c = true → p c = false) (cs : List Char) {rest : List Char}
    (h : AtBoundary rest) :
    (cs ++ rest).takeWhile p = cs.takeWhile p
      ∧ (cs ++ rest).dropWhile p = cs.dropWhile p ++ rest :=
  Lexer.takeWhile_append_stop cs fun c hc => hp c (h c hc)

theorem isDigit_of_isBoundary (c : Char) (h : isBoundary c = true) : c.isDigit = false := by
  obtain rfl | rfl | rfl | rfl | rfl := isBoundary_iff.1 h <;> decide

theorem digitRun_append_boundary (cs : List Char) {rest : List Char} (h : AtBoundary rest) :
    digitRun (cs ++ rest) = digitRun cs := by
  rw [digitRun, (takeWhile_dropWhile_append isDigit_of_isBoundary cs h).1, digitRun]

theorem digitRun_le_length (cs : List Char) : digitRun cs ≤ cs.length :=
  (List.takeWhile_sublist _).length_le

/-- The head of a text before a boundary is a given character when the head of the text is. -/
theorem head?_append_boundary (cs : List Char) {rest : List Char} {c : Char} (h : AtBoundary rest)
    (hc : isBoundary c = false) : (cs ++ rest).head? = some c ↔ cs.head? = some c := by
  cases cs with
  | nil =>
    have := head?_ne_of_atBoundary h hc
    simp [this]
  | cons d cs => simp

theorem mantissaRun_append_boundary (cs : List Char) {rest : List Char} (h : AtBoundary rest) :
    mantissaRun (cs ++ rest) = mantissaRun cs := by
  simp only [mantissaRun]
  rw [digitRun_append_boundary cs h, List.drop_append_of_le_length (digitRun_le_length cs)]
  generalize cs.drop (digitRun cs) = ds
  by_cases hdot : ds.head? = some '.'
  · obtain ⟨tail, rfl⟩ : ∃ tail, ds = '.' :: tail := by
      cases ds with
      | nil => cases hdot
      | cons d tail => exact ⟨tail, by rw [Option.some.inj hdot]⟩
    simp [digitRun_append_boundary tail h]
  · rw [if_neg hdot, if_neg (mt (head?_append_boundary ds h (by decide)).1 hdot)]

theorem exponentRun_append_boundary (cs : List Char) {rest : List Char} (h : AtBoundary rest) :
    exponentRun (cs ++ rest) = exponentRun cs := by
  cases cs with
  | nil => exact exponentRun_append .absent h
  | cons e cs =>
    simp only [List.cons_append, exponentRun]
    simp only [head?_append_boundary cs h (c := '+') (by decide),
      head?_append_boundary cs h (c := '-') (by decide)]
    split
    · split
      · next hsign =>
        obtain ⟨d, tail, rfl⟩ : ∃ d tail, cs = d :: tail := by
          cases cs with
          | nil => simp at hsign
          | cons d tail => exact ⟨d, tail, rfl⟩
        simp [digitRun_append_boundary tail h]
      · simp [digitRun_append_boundary cs h]
    · rfl

theorem mantissaRun_le_length (cs : List Char) : mantissaRun cs ≤ cs.length := by
  have hwhole := digitRun_le_length cs
  simp only [mantissaRun]
  split
  · next hdot =>
    have hne : (cs.drop (digitRun cs)).length ≠ 0 := by
      rw [Ne, List.length_eq_zero_iff]
      intro hnil
      rw [hnil] at hdot
      cases hdot
    have hfraction := digitRun_le_length ((cs.drop (digitRun cs)).drop 1)
    rw [List.length_drop] at hne
    rw [List.length_drop, List.length_drop] at hfraction
    split <;> omega
  · exact hwhole

theorem numeralRun_append_boundary (cs : List Char) {rest : List Char} (h : AtBoundary rest) :
    numeralRun (cs ++ rest) = numeralRun cs := by
  simp only [numeralRun]
  rw [mantissaRun_append_boundary cs h]
  split
  · rfl
  · rw [List.drop_append_of_le_length (mantissaRun_le_length cs), exponentRun_append_boundary _ h]

theorem exponentRun_le_length (cs : List Char) : exponentRun cs ≤ cs.length := by
  cases cs with
  | nil => exact Nat.le_refl _
  | cons e cs =>
    simp only [exponentRun, List.length_cons]
    split
    · split
      · next hsign =>
        obtain ⟨d, tail, rfl⟩ : ∃ d tail, cs = d :: tail := by
          cases cs with
          | nil => simp at hsign
          | cons d tail => exact ⟨d, tail, rfl⟩
        have := digitRun_le_length tail
        simp only [List.drop_succ_cons, List.drop_zero, List.length_cons]
        split <;> omega
      · have := digitRun_le_length cs
        simp only [List.drop_zero]
        split <;> omega
    · omega

theorem numeralRun_le_length (cs : List Char) : numeralRun cs ≤ cs.length := by
  have hmantissa := mantissaRun_le_length cs
  have hexponent := exponentRun_le_length (cs.drop (mantissaRun cs))
  rw [List.length_drop] at hexponent
  simp only [numeralRun]
  split <;> omega

/-- A digit starts a numeral. -/
theorem numeralRun_ne_zero {c : Char} (h : c.isDigit = true) (cs : List Char) :
    numeralRun (c :: cs) ≠ 0 := by
  have hrun : digitRun (c :: cs) ≠ 0 := by simp [digitRun, h]
  have hmantissa : mantissaRun (c :: cs) ≠ 0 := by
    simp only [mantissaRun]
    split
    · split <;> omega
    · exact hrun
  simp only [numeralRun, if_neg hmantissa]
  omega

/-! ## The characters of numerals -/

/-- The character can stand in a numeral in the digits of some script. -/
def isNumeralChar (c : Char) : Bool := isDigit c || "eE.+-".toList.contains c

/-- The character is a sign. -/
def isSign (c : Char) : Bool := c = '+' || c = '-'

/-- No operator character follows a sign. -/
def signsApart : List Char → Bool
  | [] => true
  | c :: cs => !(isSign c && cs.head?.any isOperatorChar) && signsApart cs

theorem signsApart_suffix {ds cs : List Char} (h : ds <:+ cs) (hs : signsApart cs = true) :
    signsApart ds = true := by
  obtain ⟨before, rfl⟩ := h
  induction before with
  | nil => exact hs
  | cons c before ih =>
    rw [List.cons_append, signsApart, Bool.and_eq_true] at hs
    exact ih hs.2

/-- A character of a numeral starts a word or a numeral of SQL, or it is a sign. -/
theorem isNumeralChar_cases {c : Char} (h : isNumeralChar c = true) :
    isWordStart c = true ∨ (c.isDigit = true ∨ c = '.') ∨ isSign c = true := by
  rw [isNumeralChar, Bool.or_eq_true] at h
  rcases h with h | h
  · rcases isDigit_cases h with h | h
    · exact .inr (.inl (.inl h))
    · exact .inl (by simp [isWordStart, h])
  · have hall : ∀ d ∈ "eE.+-".toList,
        isWordStart d = true ∨ (d.isDigit = true ∨ d = '.') ∨ isSign d = true :=
      List.all_iff_forall_prop.1 (by decide)
    exact hall c (by simpa using h)

/-- The characters that the words in a numeral are made of once they are in lower case. -/
def isFoldedNumeralChar (c : Char) : Bool := c = 'e' || c.isDigit || 0x80 ≤ c.toNat

theorem isFoldedNumeralChar_toLower {c : Char} (h : isNumeralChar c = true)
    (hword : isWordChar c = true) : isFoldedNumeralChar c.toLower = true := by
  rw [isNumeralChar, Bool.or_eq_true] at h
  rcases h with h | h
  · rcases isDigit_cases h with h | h
    · have hall : ∀ d ∈ "0123456789".toList, isFoldedNumeralChar d.toLower = true :=
        List.all_iff_forall_prop.1 (by decide)
      exact hall c (mem_digits_of_isDigit h)
    · have hlower : c.toLower = c := by
        refine dif_neg ?_
        rintro ⟨-, hle⟩
        have hle : c.toNat ≤ 'Z'.toNat := UInt32.le_iff_toNat_le.1 hle
        simp only [Char.reduceToNat] at hle
        omega
      rw [hlower]
      simp [isFoldedNumeralChar, h]
  · have hall : ∀ d ∈ "eE.+-".toList, isWordChar d = true →
        isFoldedNumeralChar d.toLower = true := List.all_iff_forall_prop.1 (by decide)
    exact hall c (by simpa using h) hword

/-- No word of queries stands in a numeral. -/
theorem folded_notMem_queryWords {cs : List Char}
    (h : ∀ c ∈ cs, isNumeralChar c = true ∧ isWordChar c = true) : folded cs ∉ queryWords := by
  intro hmem
  have hother : ∀ w ∈ queryWords, w.toList.all isFoldedNumeralChar = false := by decide
  have hall : (folded cs).toList.all isFoldedNumeralChar = true := by
    rw [folded, String.toList_ofList, List.all_eq_true]
    intro d hd
    obtain ⟨c, hc, rfl⟩ := List.mem_map.1 hd
    exact isFoldedNumeralChar_toLower (h c hc).1 (h c hc).2
  rw [hother _ hmem] at hall
  cases hall

/-! ## The lexemes of a numeral -/

/-- The first lexeme of a text is no comma and one that readers of queries pass over, and the rest of
the text follows it wherever the text ends. -/
def FirstPasses (cs : List Char) : Prop :=
  ∃ l ds, ds <:+ cs ∧ ds.length < cs.length ∧ keepsItem l = true
    ∧ ∀ rest, AtBoundary rest → lex (cs ++ rest) = (lex (ds ++ rest)).map (l :: ·)

theorem firstPasses_word {c : Char} {cs : List Char} (hc : isWordStart c = true)
    (h : ∀ d ∈ c :: cs, isNumeralChar d = true) : FirstPasses (c :: cs) := by
  refine ⟨.word (folded (c :: cs.takeWhile isWordChar)), cs.dropWhile isWordChar,
    (List.dropWhile_suffix _).trans (List.suffix_cons c cs),
    Nat.lt_succ_of_le (List.dropWhile_sublist _).length_le, ?_, fun rest hrest => ?_⟩
  · refine decide_eq_true (folded_notMem_queryWords fun d hd => ?_)
    rcases List.mem_cons.1 hd with rfl | hd
    · exact ⟨h d (by simp), by simp [isWordChar, hc]⟩
    · exact ⟨h d (List.mem_cons_of_mem _ ((List.takeWhile_prefix _).subset hd)),
        List.mem_takeWhile_imp hd⟩
  · obtain ⟨htake, hdrop⟩ := takeWhile_dropWhile_append isWordChar_of_isBoundary cs hrest
    have hquote : startsQuote (cs.dropWhile isWordChar ++ rest) = false := by
      cases hds : cs.dropWhile isWordChar with
      | nil => exact startsQuote_of_atBoundary hrest
      | cons d ds =>
        have hd : d ∈ cs := (List.dropWhile_suffix _).subset (hds ▸ List.mem_cons_self)
        have hnumeral := h d (List.mem_cons_of_mem _ hd)
        have hne : ∀ q ∈ "'\"&".toList, d ≠ q := by
          rintro q hq rfl
          have hall : ∀ q ∈ "'\"&".toList, isNumeralChar q = false :=
            List.all_iff_forall_prop.1 (by decide)
          rw [hall d hq] at hnumeral
          cases hnumeral
        simp [startsQuote, hne '\'' (by decide), hne '"' (by decide), hne '&' (by decide)]
    obtain ⟨hspace, hmark, hq, hqq⟩ := isWordStart_exclusive hc
    rw [List.cons_append]
    refine lex_cons (l := some _) ?_
    rw [lexemeAt, if_neg (by simp [hspace]), if_neg (by simp [hmark]), if_neg hq, if_neg hqq,
      if_pos hc, wordAt, hdrop, htake, if_neg (by simp [hquote])]

theorem firstPasses_number {c : Char} (cs : List Char) (hc : c.isDigit = true ∨ c = '.') :
    FirstPasses (c :: cs) := by
  obtain ⟨hspace, hmark, hq, hqq, hword⟩ := isNumeralStart_exclusive hc
  have hat : ∀ rest, lexemeAt c (cs ++ rest) = numberAt c (cs ++ rest) := by
    intro rest
    rw [lexemeAt, if_neg (by simp [hspace]), if_neg (by simp [hmark]), if_neg hq, if_neg hqq,
      if_neg (by simp [hword]), if_pos (by simpa using hc)]
  have hrun : ∀ rest, AtBoundary rest → numeralRun (c :: (cs ++ rest)) = numeralRun (c :: cs) :=
    fun rest hrest => numeralRun_append_boundary (c :: cs) hrest
  cases hnumeral : numeralRun (c :: cs) with
  | zero =>
    have hdot : c = '.' := hc.resolve_left fun hdigit => numeralRun_ne_zero hdigit cs hnumeral
    refine ⟨.dot, cs, List.suffix_cons c cs, Nat.lt_succ_self _, rfl, fun rest hrest => ?_⟩
    rw [List.cons_append]
    refine lex_cons (l := some _) ?_
    rw [hat, numberAt, hrun rest hrest, hnumeral]
    simp [hdot]
  | succ more =>
    have hmore : more ≤ cs.length := by
      have := numeralRun_le_length (c :: cs)
      rw [hnumeral, List.length_cons] at this
      omega
    refine ⟨.number (String.ofList (c :: cs.take more)), cs.drop more,
      (List.drop_suffix _ _).trans (List.suffix_cons c cs), ?_, rfl, fun rest hrest => ?_⟩
    · rw [List.length_drop, List.length_cons]
      omega
    · rw [List.cons_append]
      refine lex_cons (l := some _) ?_
      rw [hat, numberAt, hrun rest hrest, hnumeral]
      simp only
      rw [List.take_append_of_le_length hmore, List.drop_append_of_le_length hmore]

theorem firstPasses_sign {c : Char} {cs : List Char} (hc : isSign c = true)
    (h : signsApart (c :: cs) = true) : FirstPasses (c :: cs) := by
  have hnext : cs.head?.any isOperatorChar = false := by
    rw [signsApart, hc, Bool.and_eq_true] at h
    simpa using h.1
  refine ⟨.operator (String.ofList [c]), cs, List.suffix_cons c cs, Nat.lt_succ_self _, rfl,
    fun rest hrest => ?_⟩
  have hop : isOperatorText (String.ofList [c]) = true := by
    simp only [isSign, Bool.or_eq_true, decide_eq_true_eq] at hc
    rcases hc with rfl | rfl <;> decide
  have hno : NoOperator (cs ++ rest) := by
    cases cs with
    | nil => exact noOperator_of_atBoundary hrest
    | cons d cs =>
      intro d' hd'
      cases hd'
      simpa using hnext
  have hlex := lex_operator hop hno
  rwa [String.toList_ofList, List.singleton_append] at hlex

/-- Characters of numerals are cut into lexemes of one item that readers of queries pass over. -/
theorem lexes_numeralChars {cs : List Char} (h : ∀ c ∈ cs, isNumeralChar c = true)
    (hs : signsApart cs = true) : ∃ ts, Lexes cs ts ∧ ∀ l ∈ ts, keepsItem l = true := by
  induction hn : cs.length using Nat.strong_induction_on generalizing cs with
  | _ n ih =>
    cases cs with
    | nil => exact ⟨[], .nil, by simp⟩
    | cons c cs =>
      have hfirst : FirstPasses (c :: cs) := by
        rcases isNumeralChar_cases (h c (by simp)) with hword | hnumber | hsign
        · exact firstPasses_word hword h
        · exact firstPasses_number cs hnumber
        · exact firstPasses_sign hsign hs
      obtain ⟨l, ds, hsuffix, hshorter, hl, hlex⟩ := hfirst
      obtain ⟨ts, hts, hkeeps⟩ := ih ds.length (hn ▸ hshorter)
        (fun d hd => h d (hsuffix.subset hd)) (signsApart_suffix hsuffix hs) rfl
      refine ⟨l :: ts, fun rest hrest => ?_, by simpa using ⟨hl, hkeeps⟩⟩
      rw [hlex rest hrest, hts rest hrest, Option.map_map]
      rfl

/-! ## Numerals of formulas -/

theorem signsApart_append {cs : List Char} (h : ∀ c ∈ cs, isSign c = false) (rest : List Char) :
    signsApart (cs ++ rest) = signsApart rest := by
  induction cs with
  | nil => rfl
  | cons c cs ih =>
    rw [List.cons_append, signsApart, h c (by simp), ih fun d hd => h d (List.mem_cons_of_mem _ hd)]
    rfl

theorem isSign_of_isDigit {c : Char} (h : isDigit c = true) : isSign c = false := by
  have hsign : ∀ d ∈ "+-".toList, isDigit d = false := List.all_iff_forall_prop.1 (by decide)
  by_contra hc
  rw [Bool.not_eq_false, isSign, Bool.or_eq_true, decide_eq_true_eq, decide_eq_true_eq] at hc
  have := hsign c (by simpa using hc)
  rw [h] at this
  cases this

theorem isOperatorChar_of_isDigit {c : Char} (h : isDigit c = true) : isOperatorChar c = false := by
  have hoperator : ∀ d ∈ "+-*/<>=~!@#%^&|?\x60".toList, isDigit d = false :=
    List.all_iff_forall_prop.1 (by decide)
  by_contra hc
  rw [Bool.not_eq_false, isOperatorChar] at hc
  have := hoperator c (by simpa using hc)
  rw [h] at this
  cases this

theorem signsApart_exponent {x : List Char} (h : Lexer.IsExponentText x) : signsApart x = true := by
  cases h with
  | absent => rfl
  | @power e sign digits he hsign hne hdigits =>
    have hletter : isSign e = false := by rcases he with rfl | rfl <;> decide
    have hnone : signsApart digits = true := by
      have := signsApart_append (fun c hc => isSign_of_isDigit (hdigits c hc)) []
      rwa [List.append_nil] at this
    obtain ⟨d, ds, rfl⟩ := List.exists_cons_of_ne_nil hne
    have hd := isOperatorChar_of_isDigit (hdigits d (by simp))
    rcases hsign with rfl | rfl | rfl <;> simp [signsApart, hletter, hd, hnone] <;>
      simpa [signsApart] using hnone

theorem IsNumeralText.chars {cs : List Char} (h : Lexer.IsNumeralText cs) :
    ∀ c ∈ cs, isNumeralChar c = true := by
  obtain ⟨m, x, -, hm, hx, rfl⟩ := h
  intro c hc
  rcases List.mem_append.1 hc with hc | hc
  · rcases hm c hc with h | rfl
    · simp [isNumeralChar, h]
    · decide
  · cases hx with
    | absent => cases hc
    | power he hsign _ hdigits =>
      rcases List.mem_cons.1 hc with rfl | hc
      · rcases he with rfl | rfl <;> decide
      · rcases List.mem_append.1 hc with hc | hc
        · rcases hsign with rfl | rfl | rfl
          · cases hc
          · rw [List.mem_singleton.1 hc]; decide
          · rw [List.mem_singleton.1 hc]; decide
        · simp [isNumeralChar, hdigits c hc]

/-- A numeral in the digits of any script is cut into lexemes of one item that readers of queries
pass over. -/
theorem IsNumeralText.lexes {cs : List Char} (h : Lexer.IsNumeralText cs) :
    ∃ ts, Lexes cs ts ∧ ∀ l ∈ ts, keepsItem l = true := by
  refine lexes_numeralChars (IsNumeralText.chars h) ?_
  obtain ⟨m, x, -, hm, hx, rfl⟩ := h
  rw [signsApart_append]
  · exact signsApart_exponent hx
  · intro c hc
    rcases hm c hc with h | rfl
    · exact isSign_of_isDigit h
    · decide

/-- A numeral starts with no operator character. -/
theorem IsNumeralText.noOperator {cs : List Char} (h : Lexer.IsNumeralText cs) : NoOperator cs := by
  obtain ⟨m, x, hne, hm, -, rfl⟩ := h
  obtain ⟨d, ds, rfl⟩ := List.exists_cons_of_ne_nil hne
  intro c hc
  obtain rfl : d = c := by simpa using hc
  rcases hm d (by simp) with h | rfl
  · exact isOperatorChar_of_isDigit h
  · decide

end MetricLayer.Sql
