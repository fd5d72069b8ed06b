import MetricLayer.Proofs.Number.FloatText
import MetricLayer.Value.Canonical

/-!
# JSON texts of scalars and strings

A JSON string can be told from whatever follows it (`jsonString_append_inj`): each character is
written as itself, as a letter behind a backslash or as escapes of its code units, and the first
characters say which.  The texts of null, truth values and numbers are all different
(`Value.IsScalar.canonical_inj`).
-/

namespace MetricLayer

open Number Sql

/-! ## Strings -/

theorem length_unitEscape {n : Nat} (h : n < 0x10000) : (unitEscape n).length = 6 := by
  have hdigits : (digits 16 n).length ≤ 4 := digitsAux_length_le (k := 4) [] h (by decide)
  simp only [unitEscape, padZeros, List.length_cons, List.length_append, List.length_replicate,
    List.length_map]
  omega

/-- Escapes have one length, so they can be told from what follows. -/
theorem unitEscape_append_inj {m n : Nat} {cs ds : List Char} (hm : m < 0x10000)
    (hn : n < 0x10000) (h : unitEscape m ++ cs = unitEscape n ++ ds) : m = n ∧ cs = ds := by
  have hlength := (length_unitEscape hm).trans (length_unitEscape hn).symm
  obtain ⟨hunit, hrest⟩ := List.append_inj h hlength
  refine ⟨?_, hrest⟩
  have hdigits := congrArg (digitsValue 16) (List.cons.inj (List.cons.inj hunit).2).2
  rwa [digitsValue_padZeros, digitsValue_padZeros, digitsValue_digits (by decide) (by decide),
    digitsValue_digits (by decide) (by decide)] at hdigits

theorem toNat_cases (c : Char) : c.toNat < 0xD800 ∨ 0xDFFF < c.toNat ∧ c.toNat < 0x110000 :=
  c.valid

theorem utf16Escape_append_inj {c d : Char} {cs ds : List Char}
    (h : (utf16Units c).flatMap unitEscape ++ cs = (utf16Units d).flatMap unitEscape ++ ds) :
    c = d ∧ cs = ds := by
  have hc := toNat_cases c
  have hd := toNat_cases d
  simp only [utf16Units] at h
  by_cases hcone : c.toNat < 0x10000
  · rw [if_pos hcone, List.flatMap_singleton] at h
    by_cases hdone : d.toNat < 0x10000
    · rw [if_pos hdone, List.flatMap_singleton] at h
      obtain ⟨hunit, hrest⟩ := unitEscape_append_inj hcone hdone h
      exact ⟨Char.toNat_inj.1 hunit, hrest⟩
    · -- the first of two units is no character
      rw [if_neg hdone, List.flatMap_cons, List.append_assoc] at h
      have hunit := (unitEscape_append_inj hcone (by omega) h).1
      omega
  · rw [if_neg hcone, List.flatMap_cons, List.append_assoc, List.flatMap_singleton] at h
    by_cases hdone : d.toNat < 0x10000
    · rw [if_pos hdone, List.flatMap_singleton] at h
      have hunit := (unitEscape_append_inj (by omega) hdone h).1
      omega
    · rw [if_neg hdone, List.flatMap_cons, List.append_assoc, List.flatMap_singleton] at h
      obtain ⟨hhigh, htail⟩ := unitEscape_append_inj (by omega) (by omega) h
      obtain ⟨hlow, hrest⟩ := unitEscape_append_inj (by omega) (by omega) htail
      exact ⟨Char.toNat_inj.1 (by omega), hrest⟩

/-- The characters that are written as a backslash and a letter, with their letters. -/
def escapeLetters : List (Char × Char) :=
  [('"', '"'), ('\\', '\\'), ('\n', 'n'), ('\r', 'r'), ('\t', 't'), ('\x08', 'b'), ('\x0c', 'f')]

/-- The ways in which a character of a text is written. -/
inductive CharText (c : Char) : List Char → Prop
  | letter {l : Char} (h : (c, l) ∈ escapeLetters) : CharText c ['\\', l]
  | plain (h : ∀ p ∈ escapeLetters, c ≠ p.1) : CharText c [c]
  | units : CharText c ((utf16Units c).flatMap unitEscape)

theorem charText_jsonChar (c : Char) : CharText c (jsonChar c) := by
  unfold jsonChar
  split_ifs with hquote hnewline hreturn htab hback hfeed hprintable
  · rw [Bool.or_eq_true, decide_eq_true_eq, decide_eq_true_eq] at hquote
    rcases hquote with rfl | rfl <;> exact .letter (by decide)
  · subst hnewline
    exact .letter (by decide)
  · subst hreturn
    exact .letter (by decide)
  · subst htab
    exact .letter (by decide)
  · subst hback
    exact .letter (by decide)
  · subst hfeed
    exact .letter (by decide)
  · refine .plain fun p hp => ?_
    simp only [escapeLetters, List.mem_cons, List.not_mem_nil, or_false] at hp
    rcases hp with rfl | rfl | rfl | rfl | rfl | rfl | rfl <;> simp_all
  · exact .units

theorem utf16Escape_cons (c : Char) :
    ∃ cs, (utf16Units c).flatMap unitEscape = '\\' :: 'u' :: cs := by
  obtain ⟨n, ns, hunits⟩ : ∃ n ns, utf16Units c = n :: ns := by
    simp only [utf16Units]
    split <;> simp
  rw [hunits, List.flatMap_cons]
  exact ⟨_, rfl⟩

theorem escapeLetters_inj {c d l : Char} (hc : (c, l) ∈ escapeLetters)
    (hd : (d, l) ∈ escapeLetters) : c = d := by
  have hall : ∀ p ∈ escapeLetters, ∀ q ∈ escapeLetters, p.2 = q.2 → p.1 = q.1 := by decide
  exact hall _ hc _ hd rfl

theorem escapeLetter_ne {c : Char} : (c, 'u') ∉ escapeLetters := by
  have hall : ∀ p ∈ escapeLetters, p.2 ≠ 'u' := by decide
  exact fun h => hall _ h rfl

/-- What a character is written as can be told from what follows. -/
theorem CharText.append_inj {c d : Char} {xs ys cs ds : List Char} (hc : CharText c xs)
    (hd : CharText d ys) (h : xs ++ cs = ys ++ ds) : c = d ∧ cs = ds := by
  have hplain : ∀ {e : Char}, (∀ p ∈ escapeLetters, e ≠ p.1) → e ≠ '\\' :=
    fun he => he ('\\', '\\') (by decide)
  obtain ⟨us, hus⟩ := utf16Escape_cons c
  obtain ⟨vs, hvs⟩ := utf16Escape_cons d
  cases hc with
  | letter hc =>
    cases hd with
    | letter hd =>
      obtain ⟨rfl, hrest⟩ := List.cons.inj (List.cons.inj h).2
      exact ⟨escapeLetters_inj hc hd, hrest⟩
    | plain hd => exact absurd (List.cons.inj h).1.symm (hplain hd)
    | units =>
      rw [hvs] at h
      rw [(List.cons.inj (List.cons.inj h).2).1] at hc
      exact absurd hc escapeLetter_ne
  | plain hc =>
    cases hd with
    | letter hd => exact absurd (List.cons.inj h).1 (hplain hc)
    | plain hd => exact List.cons.inj h
    | units =>
      rw [hvs] at h
      exact absurd (List.cons.inj h).1 (hplain hc)
  | units =>
    cases hd with
    | letter hd =>
      rw [hus] at h
      rw [← (List.cons.inj (List.cons.inj h).2).1] at hd
      exact absurd hd escapeLetter_ne
    | plain hd =>
      rw [hus] at h
      exact absurd (List.cons.inj h).1.symm (hplain hd)
    | units => exact utf16Escape_append_inj h

theorem CharText.ne_quote {c : Char} {xs cs ds : List Char} (hc : CharText c xs) :
    xs ++ cs ≠ '"' :: ds := by
  intro h
  obtain ⟨us, hus⟩ := utf16Escape_cons c
  cases hc with
  | letter hc => exact absurd (List.cons.inj h).1 (by decide)
  | plain hc => exact hc ('"', '"') (by decide) (List.cons.inj h).1
  | units =>
    rw [hus] at h
    exact absurd (List.cons.inj h).1 (by decide)

/-- A JSON string can be told from what follows. -/
theorem jsonString_append_inj {s t : String} {cs ds : List Char}
    (h : (jsonString s).toList ++ cs = (jsonString t).toList ++ ds) : s = t ∧ cs = ds := by
  have key : ∀ as bs : List Char,
      as.flatMap jsonChar ++ '"' :: cs = bs.flatMap jsonChar ++ '"' :: ds → as = bs ∧ cs = ds := by
    intro as
    induction as with
    | nil =>
      intro bs h
      cases bs with
      | nil => exact ⟨rfl, (List.cons.inj h).2⟩
      | cons b bs =>
        rw [List.flatMap_cons, List.append_assoc] at h
        exact absurd h.symm (charText_jsonChar b).ne_quote
    | cons a as ih =>
      intro bs h
      rw [List.flatMap_cons, List.append_assoc] at h
      cases bs with
      | nil => exact absurd h (charText_jsonChar a).ne_quote
      | cons b bs =>
        rw [List.flatMap_cons, List.append_assoc] at h
        obtain ⟨rfl, htail⟩ := (charText_jsonChar a).append_inj (charText_jsonChar b) h
        obtain ⟨rfl, hrest⟩ := ih bs htail
        exact ⟨rfl, hrest⟩
  simp only [jsonString, String.toList_ofList, List.cons_append, List.append_assoc,
    List.nil_append] at h
  obtain ⟨hchars, hrest⟩ := key _ _ (List.cons.inj h).2
  exact ⟨String.toList_inj.1 hchars, hrest⟩

/-! ## Numbers -/

theorem integerText_injective {i j : Int} (h : integerText i = integerText j) : i = j := by
  have hminus : ∀ m n : Nat, decimalText m ≠ "-" ++ decimalText n := by
    intro m n h
    have hchars : decimalChars m = '-' :: decimalChars n := by
      simpa [decimalText] using congrArg String.toList h
    have hdigit := (isDigits_decimalChars m).2 '-' (by rw [hchars]; exact List.mem_cons_self)
    exact absurd hdigit (by decide)
  have hdecimal : ∀ {m n : Nat}, decimalText m = decimalText n → m = n := fun h =>
    decimalChars_injective (String.ofList_inj.1 h)
  simp only [integerText] at h
  split at h
  · split at h
    · have habs := hdecimal (String.append_right_inj "-" |>.1 h)
      omega
    · exact absurd h.symm (hminus _ _)
  · split at h
    · exact absurd h (hminus _ _)
    · have habs := hdecimal h
      omega

theorem jsonFloat_finite {x : Float} (h : magnitude x < 0x7FF0000000000000) :
    jsonFloat x = floatText x := by
  have hnan : floatText x ≠ "nan" := floatText_ne h (by decide) (by decide)
  have hinf : floatText x ≠ "inf" := floatText_ne h (by decide) (by decide)
  have hneg : floatText x ≠ "-inf" := floatText_ne h (by decide) (by decide)
  simp only [jsonFloat, if_neg hnan, if_neg hinf, if_neg hneg]

theorem jsonFloat_infinite {x : Float} (h : magnitude x = 0x7FF0000000000000) :
    jsonFloat x = signText x ++ "Infinity" := by
  rw [jsonFloat, floatText_infinite h]
  rcases signText_cases x with hsign | hsign <;> rw [hsign] <;> rfl

theorem jsonFloat_nan {x : Float} (h : 0x7FF0000000000000 < magnitude x) : jsonFloat x = "NaN" := by
  rw [jsonFloat, floatText_nan h]
  rfl

/-- Different doubles are different JSON numbers. -/
theorem jsonFloat_injective {x y : Float} (h : jsonFloat x = jsonFloat y) : x = y := by
  have hfinite : ∀ {z w : Float}, magnitude z < 0x7FF0000000000000 →
      0x7FF0000000000000 ≤ magnitude w → jsonFloat z ≠ jsonFloat w := by
    intro z w hz hw
    rw [jsonFloat_finite hz]
    rcases Nat.lt_or_eq_of_le hw with hnan | hinf
    · rw [jsonFloat_nan hnan]
      exact floatText_ne hz (by decide) (by decide)
    · rw [jsonFloat_infinite hinf.symm]
      rcases signText_cases w with hsign | hsign <;> rw [hsign] <;>
        exact floatText_ne hz (by decide) (by decide)
  have hinfinite : ∀ {z w : Float}, magnitude z = 0x7FF0000000000000 →
      0x7FF0000000000000 < magnitude w → jsonFloat z ≠ jsonFloat w := by
    intro z w hz hw
    rw [jsonFloat_infinite hz, jsonFloat_nan hw]
    rcases signText_cases z with hsign | hsign <;> rw [hsign] <;> decide
  rcases Nat.lt_trichotomy (magnitude x) 0x7FF0000000000000 with hx | hx | hx
  · rcases Nat.lt_or_ge (magnitude y) 0x7FF0000000000000 with hy | hy
    · rw [jsonFloat_finite hx, jsonFloat_finite hy] at h
      exact floatText_finite_inj hx hy h
    · exact absurd h (hfinite hx hy)
  · rcases Nat.lt_trichotomy (magnitude y) 0x7FF0000000000000 with hy | hy | hy
    · exact absurd h.symm (hfinite hy hx.ge)
    · rw [jsonFloat_infinite hx, jsonFloat_infinite hy] at h
      exact eq_of_magnitude (signText_append_inj (by decide) (by decide) h).1 (hx.trans hy.symm)
    · exact absurd h (hinfinite hx hy)
  · rcases Nat.lt_trichotomy (magnitude y) 0x7FF0000000000000 with hy | hy | hy
    · exact absurd h.symm (hfinite hy hx.le)
    · exact absurd h.symm (hinfinite hy hx)
    · exact eq_of_nan hx hy

/-! ## Scalars -/

/-- The value is null, a truth value or a number. -/
inductive Value.IsScalar : Value → Prop
  | null : IsScalar .null
  | bool (b : Bool) : IsScalar (.bool b)
  | int (i : Int) : IsScalar (.int i)
  | float (x : Float) : IsScalar (.float x)

/-- The characters of JSON numbers and of the names of special doubles. -/
def numberChars : List Char := numeralChars ++ "NaInfity".toList

theorem integerText_chars (i : Int) : ∀ c ∈ (integerText i).toList, c = '-' ∨ c.isDigit = true := by
  intro c hc
  simp only [integerText] at hc
  split at hc
  · rw [String.toList_append] at hc
    rcases List.mem_append.1 hc with hc | hc
    · exact .inl (List.mem_singleton.1 hc)
    · rw [decimalText, String.toList_ofList] at hc
      exact .inr ((isDigits_decimalChars _).2 c hc)
  · rw [decimalText, String.toList_ofList] at hc
    exact .inr ((isDigits_decimalChars _).2 c hc)

/-- A JSON double is told from whole numbers by a point, a power of ten or a capital letter. -/
theorem jsonFloat_marked (x : Float) :
    ∃ c ∈ (jsonFloat x).toList, c ≠ '-' ∧ c.isDigit = false := by
  rcases Nat.lt_trichotomy (magnitude x) 0x7FF0000000000000 with hx | hx | hx
  · obtain ⟨c, hc, hmark⟩ := magnitudeText_marked (magnitude x)
    rw [jsonFloat_finite hx, floatText_finite hx, String.toList_append]
    refine ⟨c, List.mem_append_right _ hc, ?_⟩
    rcases hmark with rfl | rfl <;> decide
  · rw [jsonFloat_infinite hx, String.toList_append]
    exact ⟨'I', List.mem_append_right _ (by decide), by decide⟩
  · rw [jsonFloat_nan hx]
    exact ⟨'N', by decide, by decide⟩

theorem jsonFloat_chars (x : Float) : ∀ c ∈ (jsonFloat x).toList, c ∈ numberChars := by
  rcases Nat.lt_trichotomy (magnitude x) 0x7FF0000000000000 with hx | hx | hx
  · rw [jsonFloat_finite hx]
    exact fun c hc => List.mem_append_left _ ((signedNumeral_of_magnitude hx).chars c hc)
  · rw [jsonFloat_infinite hx]
    rcases signText_cases x with hsign | hsign <;> rw [hsign] <;>
      exact List.all_iff_forall_prop.1 (by decide)
  · rw [jsonFloat_nan hx]
    exact List.all_iff_forall_prop.1 (by decide)

theorem integerText_numberChars (i : Int) : ∀ c ∈ (integerText i).toList, c ∈ numberChars :=
  fun c hc => List.mem_append_left _ ((signedNumeral_integerText i).chars c hc)

namespace Value.IsScalar

variable {v w : Value}

/-- The characters of the texts of scalars. -/
def chars : List Char := numberChars ++ "rusl".toList

theorem canonical_chars (h : IsScalar v) : ∀ c ∈ v.canonical.toList, c ∈ chars := by
  cases h with
  | null => exact List.all_iff_forall_prop.1 (by decide)
  | bool b => cases b <;> exact List.all_iff_forall_prop.1 (by decide)
  | int i => exact fun c hc => List.mem_append_left _ (integerText_numberChars i c hc)
  | float x => exact fun c hc => List.mem_append_left _ (jsonFloat_chars x c hc)

theorem canonical_ne_nil (h : IsScalar v) : v.canonical.toList ≠ [] := by
  cases h with
  | null => decide
  | bool b => cases b <;> decide
  | int i =>
    obtain ⟨cs, hcs, htext | htext⟩ := signedNumeral_integerText i
    · obtain ⟨m, x, hm, -, rfl⟩ := hcs
      rw [canonical, htext]
      exact List.append_ne_nil_of_left_ne_nil hm.ne_nil x
    · rw [canonical, htext]
      exact List.cons_ne_nil _ _
  | float x =>
    obtain ⟨c, hc, -⟩ := jsonFloat_marked x
    exact List.ne_nil_of_mem hc

/-- The names of null and of the truth values are no numbers. -/
theorem word_ne_number {s t : String} (hs : 'u' ∈ s.toList ∨ 'l' ∈ s.toList)
    (ht : ∀ c ∈ t.toList, c ∈ numberChars) : s ≠ t := by
  rintro rfl
  rcases hs with hs | hs
  · exact absurd (ht _ hs) (by decide)
  · exact absurd (ht _ hs) (by decide)

theorem integer_ne_float (i : Int) (x : Float) : integerText i ≠ jsonFloat x := by
  intro h
  obtain ⟨c, hc, hminus, hdigit⟩ := jsonFloat_marked x
  rw [← h] at hc
  rcases integerText_chars i c hc with rfl | hc
  · exact hminus rfl
  · rw [hdigit] at hc
    cases hc

/-- Different scalars have different texts. -/
theorem canonical_inj (hv : IsScalar v) (hw : IsScalar w) (h : v.canonical = w.canonical) :
    v = w := by
  have hnull : 'u' ∈ Value.null.canonical.toList ∨ 'l' ∈ Value.null.canonical.toList := by decide
  have hbool : ∀ b, 'u' ∈ (Value.bool b).canonical.toList ∨ 'l' ∈ (Value.bool b).canonical.toList := by
    decide
  cases hv with
  | null =>
    cases hw with
    | null => rfl
    | bool b => cases b <;> exact absurd h (by decide)
    | int j => exact absurd h (word_ne_number hnull (integerText_numberChars j))
    | float y => exact absurd h (word_ne_number hnull (jsonFloat_chars y))
  | bool a =>
    cases hw with
    | null => cases a <;> exact absurd h (by decide)
    | bool b =>
      have hall : ∀ a b, (Value.bool a).canonical = (Value.bool b).canonical → a = b := by decide
      rw [hall a b h]
    | int j => exact absurd h (word_ne_number (hbool a) (integerText_numberChars j))
    | float y => exact absurd h (word_ne_number (hbool a) (jsonFloat_chars y))
  | int i =>
    cases hw with
    | null => exact absurd h.symm (word_ne_number hnull (integerText_numberChars i))
    | bool b => exact absurd h.symm (word_ne_number (hbool b) (integerText_numberChars i))
    | int j => rw [integerText_injective h]
    | float y => exact absurd h (integer_ne_float i y)
  | float x =>
    cases hw with
    | null => exact absurd h.symm (word_ne_number hnull (jsonFloat_chars x))
    | bool b => exact absurd h.symm (word_ne_number (hbool b) (jsonFloat_chars x))
    | int j => exact absurd h.symm (integer_ne_float j x)
    | float y => rw [jsonFloat_injective h]

end Value.IsScalar

end MetricLayer
