import MetricLayer.Calendar.Pattern
import MetricLayer.Proofs.Calendar.IsoText
import MetricLayer.Proofs.Text.Blank

/-!
# Written dates and moments under the reader of uploaded data

The reader strips a text, replaces every `Z`, decides from the first characters where the separator
stands, and tries patterns when the text is no ISO form.  A written date or moment passes all of this
unchanged: its characters are plain (`IsPlain`), so there is nothing to strip or to replace, the
separator stands at position 10, and each field is read back from its width.  The patterns are not
reached.

What comes back is the moment itself (`Moment.ofText?_text`), except that the reader takes the offset
for universal time when its whole seconds are zero (`Moment.asRead`).  The reader itself never returns
an offset that it would lose so (`Moment.ofText?_whole`).
-/

namespace MetricLayer

open IsoReader Number Text

/-! ## Characters -/

/-- A character of a written date or moment. -/
def IsPlain (c : Char) : Prop := c.isDigit = true ∨ c ∈ ['-', ':', '+', '.', 'T']

namespace IsPlain

variable {c : Char}

theorem toNat (h : IsPlain c) : 0x20 < c.toNat ∧ c.toNat < 0x5A := by
  rcases h with h | h
  · rw [Char.isDigit, Bool.and_eq_true, decide_eq_true_eq, decide_eq_true_eq] at h
    have hlow : 48 ≤ c.toNat := UInt32.le_iff_toNat_le.1 h.1
    have hhigh : c.toNat ≤ 57 := UInt32.le_iff_toNat_le.1 h.2
    omega
  · simp only [List.mem_cons, List.not_mem_nil, or_false] at h
    rcases h with rfl | rfl | rfl | rfl | rfl <;> decide

theorem utf8Size_eq (h : IsPlain c) : c.utf8Size = 1 := by
  have hsmall : c.toNat < 0x5A := h.toNat.2
  rw [Char.utf8Size_eq_one_iff]
  exact UInt32.le_iff_toNat_le.2 (by show c.toNat ≤ 127; omega)

theorem ne_zulu (h : IsPlain c) : c ≠ 'Z' := by
  rintro rfl
  exact absurd h.toNat.2 (by decide)

theorem not_blank (h : IsPlain c) : isBlank c = false := by
  by_contra hblank
  have := toNat_of_isBlank (by simpa using hblank : isBlank c = true)
  have := h.toNat
  omega

end IsPlain

theorem isDigit_of_mem_padded {width n : Nat} {c : Char} (hc : c ∈ (paddedDecimal width n).toList) :
    c.isDigit = true := by
  rw [paddedDecimal, String.toList_ofList] at hc
  exact (isDigits_padZeros (Sql.isDigits_decimalChars n) width).2 c hc

theorem isPlain_padded (width n : Nat) : ∀ c ∈ (paddedDecimal width n).toList, IsPlain c :=
  fun _ hc => .inl (isDigit_of_mem_padded hc)

theorem Date.isPlain_text (d : Date) : ∀ c ∈ d.text.toList, IsPlain c := by
  rw [← List.append_nil d.text.toList, d.toList_text]
  simp only [List.forall_mem_append, List.forall_mem_cons]
  exact ⟨isPlain_padded 4 d.year, .inr (by decide), isPlain_padded 2 d.month, .inr (by decide),
    isPlain_padded 2 d.day, fun _ h => absurd h List.not_mem_nil⟩

/-- What holds of digits and of its mark holds of a field that may be left out. -/
theorem forall_mem_optional {p : Char → Prop} (hdigit : ∀ c, c.isDigit = true → p c) {mark : Char}
    (hmark : p mark) (absent : Prop) [Decidable absent] (width n : Nat) :
    ∀ c ∈ (if absent then [] else mark :: (paddedDecimal width n).toList), p c := by
  split
  · exact fun _ h => absurd h List.not_mem_nil
  · exact List.forall_mem_cons.2 ⟨hmark, fun c hc => hdigit c (isDigit_of_mem_padded hc)⟩

/-- What holds of digits and of the two marks holds of a time of day. -/
theorem Clock.forall_mem_text {p : Char → Prop} (hdigit : ∀ c, c.isDigit = true → p c)
    (hcolon : p ':') (hpoint : p '.') (c : Clock) : ∀ x ∈ c.text.toList, p x := by
  have hpadded : ∀ n, ∀ x ∈ (paddedDecimal 2 n).toList, p x :=
    fun _ x hx => hdigit x (isDigit_of_mem_padded hx)
  rw [← List.append_nil c.text.toList, c.toList_text]
  simp only [List.forall_mem_append, List.forall_mem_cons]
  exact ⟨hpadded c.hour, hcolon, hpadded c.minute, hcolon, hpadded c.second,
    forall_mem_optional hdigit hpoint _ 6 c.micro, fun _ h => absurd h List.not_mem_nil⟩

theorem UtcOffset.isPlain_text (o : UtcOffset) : ∀ c ∈ o.text.toList, IsPlain c := by
  have hdigit : ∀ c, Char.isDigit c = true → IsPlain c := fun _ h => .inl h
  rw [o.toList_text rfl]
  simp only [List.forall_mem_append, List.forall_mem_cons]
  refine ⟨?_, isPlain_padded 2 _, .inr (by decide), isPlain_padded 2 _,
    forall_mem_optional hdigit (.inr (by decide)) _ 2 _,
    forall_mem_optional hdigit (.inr (by decide)) _ 6 _, fun _ h => absurd h List.not_mem_nil⟩
  split <;> exact .inr (by decide)

theorem Moment.isPlain_text (m : Moment) : ∀ c ∈ m.text.toList, IsPlain c := by
  rw [m.toList_text, List.forall_mem_append, List.forall_mem_cons, List.forall_mem_append]
  refine ⟨m.date.isPlain_text, .inr (by decide),
    m.clock.forall_mem_text (fun _ h => .inl h) (.inr (by decide)) (.inr (by decide)), ?_⟩
  unfold offsetChars
  cases m.offset with
  | none => exact fun _ h => absurd h List.not_mem_nil
  | some o => exact o.isPlain_text

section Plain

variable {cs : List Char} (h : ∀ c ∈ cs, IsPlain c)
include h

theorem codeUnits_plain : codeUnits cs = cs := by
  rw [codeUnits]
  induction cs with
  | nil => rfl
  | cons c cs ih =>
    rw [List.forall_mem_cons] at h
    rw [List.flatMap_cons, ih h.2, h.1.utf8Size_eq]
    rfl

/-- There is no letter to be replaced by an offset. -/
theorem flatMap_zulu_plain (offset : List Char) :
    (cs.flatMap fun c => if c = 'Z' then offset else [c]) = cs := by
  induction cs with
  | nil => rfl
  | cons c cs ih =>
    rw [List.forall_mem_cons] at h
    rw [List.flatMap_cons, ih h.2, if_neg h.1.ne_zulu]
    rfl

theorem stripBlanks_plain : stripBlanks cs = cs :=
  IsStripped.stripBlanks_eq ⟨fun c hc => (h c (List.mem_of_mem_head? hc)).not_blank,
    fun c hc => (h c (List.mem_of_getLast? hc)).not_blank⟩

end Plain

/-- A written text that reads as ISO is not stripped and not tried by pattern. -/
theorem Moment.ofText?_plain {s : String} (h : ∀ c ∈ s.toList, IsPlain c) {m : Moment}
    (hread : Moment.ofIso? s = some m) : Moment.ofText? s = some m := by
  have hne : s.toList.isEmpty = false := by
    rw [← Bool.not_eq_true, List.isEmpty_iff]
    intro hnil
    rw [Moment.ofIso?, if_pos (by rw [← String.length_toList, hnil]; decide)] at hread
    cases hread
  unfold ofText?
  rw [stripBlanks_plain h]
  simp only [hne, flatMap_zulu_plain h, String.ofList_toList, hread]
  rfl

/-! ## Dates -/

theorem length_padded {width n : Nat} (hwidth : width ≠ 0) (hn : n < 10 ^ width) :
    (paddedDecimal width n).toList.length = width := by
  rw [paddedDecimal, String.toList_ofList]
  exact length_padZeros (length_decimalChars_le hwidth hn)

theorem exists_head_padded (width n : Nat) :
    ∃ c cs, (paddedDecimal width n).toList = c :: cs ∧ c.isDigit = true := by
  have hdigits := isDigits_padZeros (Sql.isDigits_decimalChars n) width
  obtain ⟨c, cs, hcons⟩ := List.exists_cons_of_ne_nil hdigits.1
  refine ⟨c, cs, by rw [paddedDecimal, String.toList_ofList, hcons], hdigits.2 c ?_⟩
  rw [hcons]
  exact List.mem_cons_self

theorem peek_padded_ne {mark : Char} (hmark : mark.isDigit = false) (width n : Nat)
    (rest : List Char) : peek ((paddedDecimal width n).toList ++ rest) ≠ mark := by
  obtain ⟨c, cs, hcons, hdigit⟩ := exists_head_padded width n
  rw [hcons]
  rintro rfl
  exact absurd hdigit (by rw [peek, List.cons_append, List.headD_cons] at hmark; simp [hmark])

theorem Date.length_text (d : Date) : d.text.toList.length = 10 := by
  obtain ⟨hyear, hmonth, hday⟩ := d.fields_lt
  rw [← List.append_nil d.text.toList, d.toList_text]
  simp only [List.length_append, List.length_cons, List.length_nil, length_padded _ hyear,
    length_padded _ hmonth, length_padded _ hday, ne_eq, OfNat.ofNat_ne_zero, not_false_eq_true]

theorem separatorPosition_text (d : Date) (rest : List Char) :
    separatorPosition (d.text.toList ++ rest) = 10 := by
  obtain ⟨hyear, -, -⟩ := d.fields_lt
  have hlength : (d.text.toList ++ rest).length ≠ 7 := by
    rw [List.length_append, d.length_text]
    omega
  obtain ⟨c, cs, hcons, hdigit⟩ := exists_head_padded 2 d.month
  have hfour := length_padded (by decide) hyear
  have hdash : (d.text.toList ++ rest)[4]? = some '-' := by
    rw [d.toList_text, List.getElem?_append_right (by rw [hfour]), hfour]
    rfl
  have hmonth : (d.text.toList ++ rest)[5]? = some c := by
    rw [d.toList_text, List.getElem?_append_right (by rw [hfour]; decide), hfour, hcons]
    rfl
  have hweek : c ≠ 'W' := by
    rintro rfl
    exact absurd hdigit (by decide)
  unfold separatorPosition
  simp only [hlength, hdash, hmonth, if_false, if_true, Option.some.injEq, hweek]

theorem readDate?_text (d : Date) (rest : List Char) :
    readDate? 10 (d.text.toList ++ rest) = some d := by
  obtain ⟨hyear, hmonth, hday⟩ := d.fields_lt
  have hweek := peek_padded_ne (show 'W'.isDigit = false by decide) 2 d.month
    ('-' :: ((paddedDecimal 2 d.day).toList ++ rest))
  have hdash : ∀ cs, peek ('-' :: cs) = '-' := fun _ => rfl
  rw [d.toList_text]
  simp only [readDate?, takeDigits?_padded (by decide) hyear, Option.bind_eq_bind,
    Option.bind_some, hdash, if_true, List.drop_one, List.tail_cons, hweek, if_false,
    takeDigits?_padded (by decide) hmonth, takeDigits?_padded (by decide) hday, d.of?_self]
  simp

/-! ## Fields of a time -/

theorem afterField?_colon {left : Nat} (hleft : 1 < left) (cs : List Char) :
    afterField? true false left (':' :: cs) = some (.field cs (left - 1)) := by
  rw [afterField?, if_neg (by omega)]
  rfl

theorem afterField?_point {left : Nat} (hleft : 1 < left) (cs : List Char) :
    afterField? true true left ('.' :: cs) = some (.fraction cs (left - 1)) := by
  rw [afterField?, if_neg (by omega)]
  rfl

theorem afterField?_end (colons last : Bool) {left : Nat} (hleft : left ≤ 1) (cs : List Char) :
    afterField? colons last left cs = some (.finished (peek cs = '\x00')) := by
  rw [afterField?, if_pos hleft]

theorem readFraction?_padded {micro : Nat} (hmicro : micro < 10 ^ 6) {rest : List Char}
    (hrest : (peek rest).isDigit = false) :
    readFraction? 6 ((paddedDecimal 6 micro).toList ++ rest)
      = some (micro, decide (peek rest = '\x00')) := by
  have hdrop : rest.dropWhile Char.isDigit = rest := by
    cases rest with
    | nil => rfl
    | cons c rest => exact List.dropWhile_cons_of_neg (Bool.eq_false_iff.1 hrest)
  simp only [readFraction?, Nat.min_self, takeDigits?_padded (by decide) hmicro, hdrop,
    Option.bind_eq_bind, Option.bind_some, Nat.sub_self]
  simp [pow10]

/-- The time `HH:MM`, where the text ends. -/
theorem readFields?_minutes {hour minute : Nat} (hhour : hour < 10 ^ 2) (hminute : minute < 10 ^ 2) :
    readFields? 5 ((paddedDecimal 2 hour).toList ++ ':' :: (paddedDecimal 2 minute).toList)
      = some ⟨hour, minute, 0, 0, true⟩ := by
  have hlast := takeDigits?_padded (by decide) hminute []
  rw [List.append_nil] at hlast
  have hcolon : ∀ cs, peek (':' :: cs) = ':' := fun _ => rfl
  simp only [readFields?, takeDigits?_padded (by decide) hhour, hlast, hcolon, decide_true,
    Option.bind_eq_bind, Option.bind_some, afterField?_colon (show 1 < 5 - 2 by decide),
    afterField?_end true false (show 5 - 2 - 1 - 2 ≤ 1 by decide)]
  rfl

/-- The length of the time `HH:MM:SS` with its fraction. -/
theorem length_seconds {hour minute second micro : Nat} (hhour : hour < 10 ^ 2)
    (hminute : minute < 10 ^ 2) (hsecond : second < 10 ^ 2) (hmicro : micro < 10 ^ 6) :
    ((paddedDecimal 2 hour).toList ++ ':' :: ((paddedDecimal 2 minute).toList
        ++ ':' :: ((paddedDecimal 2 second).toList
          ++ ((if micro = 0 then [] else '.' :: (paddedDecimal 6 micro).toList) ++ [])))).length
      = if micro = 0 then 8 else 15 := by
  simp only [List.length_append, List.length_cons, List.length_nil,
    length_padded (by decide) hhour, length_padded (by decide) hminute,
    length_padded (by decide) hsecond]
  split_ifs
  · rfl
  · rw [List.length_cons, length_padded (by decide) hmicro]

/-- The time `HH:MM:SS` with its fraction, whatever follows it but a digit. -/
theorem readFields?_seconds {hour minute second micro left : Nat} (hhour : hour < 10 ^ 2)
    (hminute : minute < 10 ^ 2) (hsecond : second < 10 ^ 2) (hmicro : micro < 10 ^ 6)
    (hleft : left = if micro = 0 then 8 else 15) {rest : List Char}
    (hrest : (peek rest).isDigit = false) :
    readFields? left ((paddedDecimal 2 hour).toList ++ ':' :: ((paddedDecimal 2 minute).toList
        ++ ':' :: ((paddedDecimal 2 second).toList
          ++ ((if micro = 0 then [] else '.' :: (paddedDecimal 6 micro).toList) ++ rest))))
      = some ⟨hour, minute, second, micro, decide (peek rest = '\x00')⟩ := by
  have hcolon : ∀ cs, peek (':' :: cs) = ':' := fun _ => rfl
  subst hleft
  by_cases hwhole : micro = 0
  · simp only [readFields?, takeDigits?_padded (by decide) hhour,
      takeDigits?_padded (by decide) hminute, takeDigits?_padded (by decide) hsecond, hcolon,
      decide_true, Option.bind_eq_bind, Option.bind_some, hwhole, if_true,
      afterField?_colon (show 1 < 8 - 2 by decide),
      afterField?_colon (show 1 < 8 - 2 - 1 - 2 by decide),
      afterField?_end true true (show 8 - 2 - 1 - 2 - 1 - 2 ≤ 1 by decide), List.nil_append]
    rfl
  · simp only [readFields?, takeDigits?_padded (by decide) hhour,
      takeDigits?_padded (by decide) hminute, takeDigits?_padded (by decide) hsecond, hcolon,
      decide_true, Option.bind_eq_bind, Option.bind_some, hwhole, if_false,
      afterField?_colon (show 1 < 15 - 2 by decide),
      afterField?_colon (show 1 < 15 - 2 - 1 - 2 by decide),
      afterField?_point (show 1 < 15 - 2 - 1 - 2 - 1 - 2 by decide), List.cons_append]
    rw [readFraction?_padded hmicro hrest]
    rfl

/-! ## Offsets -/

/-- The offset as its text is read: less than a second of it is lost. -/
def UtcOffset.asRead (o : UtcOffset) : UtcOffset := if o.micros.natAbs < 1000000 then .utc else o

theorem UtcOffset.text_fields (o : UtcOffset) {n : Nat} (hn : o.micros.natAbs = n) :
    ∃ cs, o.text.toList = (if o.micros < 0 then '-' else '+') :: cs
      ∧ readFields? cs.length cs = some ⟨n / 1000000 / 3600, n / 1000000 / 60 % 60,
        n / 1000000 % 60, n % 1000000, true⟩ := by
  have hday := o.within_day
  rw [hn] at hday
  have hhours : n / 1000000 / 3600 < 10 ^ 2 := by omega
  have hminutes : n / 1000000 / 60 % 60 < 10 ^ 2 := by omega
  have hseconds : n / 1000000 % 60 < 10 ^ 2 := by omega
  have hmicros : n % 1000000 < 10 ^ 6 := by omega
  refine ⟨_, o.toList_text hn, ?_⟩
  by_cases hwhole : n % 60000000 = 0
  · have hsecond : n / 1000000 % 60 = 0 := by omega
    have hmicro : n % 1000000 = 0 := by omega
    have hlength : ((paddedDecimal 2 (n / 1000000 / 3600)).toList
        ++ ':' :: (paddedDecimal 2 (n / 1000000 / 60 % 60)).toList).length = 5 := by
      rw [List.length_append, List.length_cons, length_padded (by decide) hhours,
        length_padded (by decide) hminutes]
    rw [hsecond, hmicro, if_pos hwhole, if_pos rfl, List.nil_append, List.append_nil,
      List.append_nil, hlength]
    exact readFields?_minutes hhours hminutes
  · rw [if_neg hwhole, List.cons_append, length_seconds hhours hminutes hseconds hmicros]
    exact readFields?_seconds hhours hminutes hseconds hmicros rfl (by decide)

theorem readOffset?_text (o : UtcOffset) : readOffset? o.text.toList = some o.asRead := by
  have hself : UtcOffset.of? o.micros = some o := dif_pos o.within_day
  obtain ⟨cs, htext, hfields⟩ := o.text_fields rfl
  have hzulu : (if o.micros < 0 then '-' else '+') ≠ 'Z' := by split_ifs <;> decide
  have hminus : ((if o.micros < 0 then '-' else '+') = '-') ↔ o.micros < 0 := by
    split_ifs with h <;> simp [h]
  rw [htext, readOffset?, if_neg hzulu, hfields]
  simp only [Option.bind_eq_bind, Option.bind_some, Bool.not_true, Bool.false_eq_true, if_false,
    hminus]
  generalize hn : o.micros.natAbs = n
  have hseconds : n / 1000000 / 3600 * 3600 + n / 1000000 / 60 % 60 * 60 + n / 1000000 % 60
      = n / 1000000 := by omega
  rw [hseconds, UtcOffset.asRead, hn]
  by_cases hsmall : n < 1000000
  · have hzero : n / 1000000 = 0 := by omega
    rw [if_pos hsmall]
    simp only [hzero, if_true, Int.neg_zero, ite_self]
    rfl
  · have hpos : n / 1000000 ≠ 0 := by omega
    have hmicros : (if o.micros < 0 then -((n / 1000000 : Nat) * 1000000 + (n % 1000000 : Nat) : Int)
        else ((n / 1000000 : Nat) * 1000000 + (n % 1000000 : Nat) : Int)) = o.micros := by
      split_ifs <;> omega
    rw [if_neg hsmall, ← hself]
    simp only [hpos, if_false]
    rw [hmicros]

/-! ## Moments -/

theorem startsOffset_of_isDigit {c : Char} (h : c.isDigit = true) : startsOffset c = false := by
  rw [← Bool.not_eq_true, startsOffset]
  rintro hstarts
  simp only [Bool.or_eq_true, decide_eq_true_eq] at hstarts
  rcases hstarts with (rfl | rfl) | rfl <;> exact absurd h (by decide)

/-- The moment as its text is read. -/
def Moment.asRead (m : Moment) : Moment := { m with offset := m.offset.map UtcOffset.asRead }

/-- Either the text of the offset is empty, or it starts as an offset. -/
theorem Moment.offsetChars_cases (m : Moment) :
    m.offset = none ∧ m.offsetChars = []
      ∨ ∃ o sign cs, m.offset = some o ∧ m.offsetChars = o.text.toList
        ∧ o.text.toList = sign :: cs ∧ startsOffset sign = true := by
  unfold offsetChars
  cases m.offset with
  | none => exact .inl ⟨rfl, rfl⟩
  | some o =>
    refine .inr ⟨o, _, _, rfl, rfl, o.toList_text rfl, ?_⟩
    split_ifs <;> decide

theorem Clock.length_text (c : Clock) :
    c.text.toList.length = if c.micro = 0 then 8 else 15 := by
  obtain ⟨hhour, hminute, hsecond, hmicro⟩ := c.fields_lt
  rw [← List.append_nil c.text.toList, c.toList_text]
  exact length_seconds hhour hminute hsecond hmicro

theorem Clock.readFields?_text (c : Clock) {rest : List Char} (hrest : (peek rest).isDigit = false) :
    readFields? c.text.toList.length (c.text.toList ++ rest)
      = some ⟨c.hour, c.minute, c.second, c.micro, decide (peek rest = '\x00')⟩ := by
  obtain ⟨hhour, hminute, hsecond, hmicro⟩ := c.fields_lt
  rw [c.toList_text]
  exact readFields?_seconds hhour hminute hsecond hmicro c.length_text hrest

theorem readTime?_text (m : Moment) :
    readTime? (m.clock.text.toList ++ m.offsetChars) = some (m.clock, m.asRead.offset) := by
  have hstarts : ∀ x ∈ m.clock.text.toList, (!startsOffset x) = true := by
    refine m.clock.forall_mem_text (fun c hc => ?_) (by decide) (by decide)
    rw [startsOffset_of_isDigit hc]
    rfl
  unfold readTime? Moment.asRead
  rcases m.offsetChars_cases with ⟨hnone, hchars⟩ | ⟨o, sign, cs, hsome, hchars, htext, hsign⟩
  · have hfields := m.clock.readFields?_text (show (peek []).isDigit = false by decide)
    rw [hchars, List.takeWhile_append_of_pos hstarts, List.takeWhile_nil, List.append_nil]
    rw [List.append_nil] at hfields
    simp only [hfields, List.drop_length, m.clock.of?_self, Option.bind_eq_bind, Option.bind_some,
      hnone]
    rfl
  · have hdigit : (peek o.text.toList).isDigit = false := by
      rw [htext, ← Bool.not_eq_true]
      intro hdigit
      have hnone : startsOffset sign = false := startsOffset_of_isDigit hdigit
      rw [hsign] at hnone
      cases hnone
    have hfields := m.clock.readFields?_text hdigit
    have hbody : o.text.toList.takeWhile (!startsOffset ·) = [] := by
      rw [htext, List.takeWhile_cons_of_neg (by rw [hsign]; decide)]
    have hempty : o.text.toList.isEmpty = false := by
      rw [htext]
      rfl
    rw [hchars, List.takeWhile_append_of_pos hstarts, hbody, List.append_nil]
    simp only [hfields, List.drop_left, m.clock.of?_self, Option.bind_eq_bind, Option.bind_some,
      readOffset?_text o, hempty, Bool.false_eq_true, if_false, hsome, Option.map_some]

theorem Moment.ofIso?_text (m : Moment) : Moment.ofIso? m.text = some m.asRead := by
  have hlength : m.text.toList.length
      = 11 + (m.clock.text.toList ++ m.offsetChars).length := by
    rw [m.toList_text, List.length_append, List.length_cons, m.date.length_text]
    omega
  have hdrop : m.text.toList.drop 10 = 'T' :: (m.clock.text.toList ++ m.offsetChars) := by
    rw [m.toList_text, List.drop_left' m.date.length_text]
  have hrest : m.text.toList.drop (10 + 1) = m.clock.text.toList ++ m.offsetChars := by
    rw [← List.drop_drop, hdrop]
    rfl
  have hstop := separatorPosition_text m.date ('T' :: (m.clock.text.toList ++ m.offsetChars))
  have hdate := readDate?_text m.date ('T' :: (m.clock.text.toList ++ m.offsetChars))
  rw [← m.toList_text] at hstop hdate
  have hwidth : (peek ('T' :: (m.clock.text.toList ++ m.offsetChars))).utf8Size = 1 := by
    show Char.utf8Size 'T' = 1
    decide
  rw [ofIso?, if_neg (by rw [← String.length_toList]; omega)]
  simp only [codeUnits_plain m.isPlain_text, hstop, hdate, hdrop, hwidth, hrest, readTime?_text,
    Option.map_some]
  rw [if_neg (by omega)]
  rfl

theorem Date.ofIso?_text (d : Date) : Moment.ofIso? d.text = some (.ofDate d) := by
  have hstop := separatorPosition_text d []
  have hdate := readDate?_text d []
  rw [List.append_nil] at hstop hdate
  have hlength := d.length_text
  rw [Moment.ofIso?, if_neg (by rw [← String.length_toList]; omega)]
  simp only [codeUnits_plain d.isPlain_text, hstop, hdate]
  rw [if_pos (by omega)]

theorem Moment.ofText?_text (m : Moment) : Moment.ofText? m.text = some m.asRead :=
  ofText?_plain m.isPlain_text m.ofIso?_text

theorem Date.ofText?_text (d : Date) : Moment.ofText? d.text = some (.ofDate d) :=
  Moment.ofText?_plain d.isPlain_text d.ofIso?_text

/-! ## What is lost -/

/-- The offset is less than a second, but not zero. -/
def UtcOffset.IsFraction (o : UtcOffset) : Prop := o.micros ≠ 0 ∧ o.micros.natAbs < 1000000

instance (o : UtcOffset) : Decidable o.IsFraction := inferInstanceAs (Decidable (_ ∧ _))

/-- The moment has an offset that is lost when its text is read. -/
def Moment.HasFractionOffset (m : Moment) : Prop := ∃ o ∈ m.offset, o.IsFraction

theorem UtcOffset.asRead_eq_self_iff (o : UtcOffset) : o.asRead = o ↔ ¬o.IsFraction := by
  unfold asRead IsFraction
  split_ifs with hsmall
  · obtain ⟨micros, hday⟩ := o
    rw [UtcOffset.utc, UtcOffset.mk.injEq]
    simp only at hsmall ⊢
    omega
  · exact ⟨fun _ h => hsmall h.2, fun _ => rfl⟩

theorem Moment.asRead_eq_self_iff (m : Moment) : m.asRead = m ↔ ¬m.HasFractionOffset := by
  obtain ⟨date, clock, offset⟩ := m
  unfold asRead HasFractionOffset
  rw [Moment.mk.injEq]
  cases offset with
  | none => simp
  | some o => simp [o.asRead_eq_self_iff]

theorem UtcOffset.micros_of? {micros : Int} {o : UtcOffset} (h : UtcOffset.of? micros = some o) :
    o.micros = micros := by
  rw [UtcOffset.of?] at h
  split_ifs at h
  cases h
  rfl

theorem readOffset?_whole {cs : List Char} {o : UtcOffset} (h : readOffset? cs = some o) :
    ¬o.IsFraction := by
  cases cs with
  | nil => cases h
  | cons sign cs =>
    rw [readOffset?] at h
    by_cases hzulu : sign = 'Z'
    · rw [if_pos hzulu, Option.ite_none_right_eq_some] at h
      rw [← Option.some.inj h.2]
      decide
    · rw [if_neg hzulu] at h
      obtain ⟨f, -, h⟩ := Option.bind_eq_some_iff.1 h
      cases hcomplete : f.complete with
      | false =>
        rw [hcomplete] at h
        cases h
      | true =>
        rw [hcomplete] at h
        have hmicros := UtcOffset.micros_of? h
        unfold UtcOffset.IsFraction
        split_ifs at hmicros <;> omega

theorem readTime?_whole {cs : List Char} {clock : Clock} {offset : Option UtcOffset}
    (h : readTime? cs = some (clock, offset)) : ∀ o ∈ offset, ¬o.IsFraction := by
  unfold readTime? at h
  obtain ⟨f, -, h⟩ := Option.bind_eq_some_iff.1 h
  simp only at h
  split_ifs at h
  · obtain ⟨_, -, h⟩ := Option.map_eq_some_iff.1 h
    cases h
    exact fun o ho => nomatch ho
  · obtain ⟨found, hfound, h⟩ := Option.bind_eq_some_iff.1 h
    obtain ⟨_, -, h⟩ := Option.map_eq_some_iff.1 h
    cases h
    rintro o ⟨⟩
    exact readOffset?_whole hfound

theorem Moment.ofIso?_whole {s : String} {m : Moment} (h : Moment.ofIso? s = some m) :
    ¬m.HasFractionOffset := by
  rintro ⟨o, ho, hfraction⟩
  unfold ofIso? at h
  split_ifs at h
  simp only at h
  split at h
  · cases h
  · split_ifs at h
    · cases h
      cases ho
    · obtain ⟨⟨clock, offset⟩, htime, rfl⟩ := Option.map_eq_some_iff.1 h
      exact readTime?_whole htime o ho hfraction

theorem Pattern.offset_read? {parts : List Part} {cs : List Char} {m : Moment}
    (h : Pattern.read? parts cs = some m) : m.offset = none := by
  unfold read? at h
  obtain ⟨⟨n, rest⟩, -, h⟩ := Option.bind_eq_some_iff.1 h
  cases hempty : rest.isEmpty with
  | false =>
    simp only [hempty] at h
    cases h
  | true =>
    simp only [hempty] at h
    obtain ⟨date, -, h⟩ := Option.bind_eq_some_iff.1 h
    obtain ⟨clock, -, h⟩ := Option.bind_eq_some_iff.1 h
    cases h
    rfl

/-- No text is read with an offset that is lost in writing and reading it again. -/
theorem Moment.ofText?_whole {s : String} {m : Moment} (h : Moment.ofText? s = some m) :
    ¬m.HasFractionOffset := by
  unfold ofText? at h
  simp only at h
  split_ifs at h
  split at h
  · next found hfound =>
    cases h
    exact ofIso?_whole hfound
  · rintro ⟨o, ho, -⟩
    obtain ⟨parts, -, hread⟩ := List.exists_of_findSome?_eq_some h
    rw [Pattern.offset_read? hread] at ho
    cases ho

end MetricLayer
