import MetricLayer.Calendar.IsoReader
import MetricLayer.Proofs.Number.FloatText

/-!
# Dates and moments read back

Dates and moments are written with fields of a fixed width.  The readers here read just these
texts, field by field, and each undoes its writer: `Date.ofIsoText?_text` and
`Moment.ofIsoText?_text`.  An offset keeps its seconds and microseconds, wherever they stand.
-/

namespace MetricLayer

open IsoReader Number

/-! ## Fields -/

theorem length_decimalChars_le {width n : Nat} (hwidth : width ≠ 0) (hn : n < 10 ^ width) :
    (decimalChars n).length ≤ width := by
  rw [decimalChars, List.length_map]
  exact digitsAux_length_le [] hn hwidth

theorem length_padZeros {width : Nat} {ds : List Char} (h : ds.length ≤ width) :
    (padZeros width ds).length = width := by
  rw [padZeros, List.length_append, List.length_replicate]
  omega

theorem foldl_digits {ds : List Char} (hd : ∀ c ∈ ds, c.isDigit = true) (n : Nat) :
    ds.foldl (fun n c => 10 * n + (c.toNat - 48)) n = digitsValueFrom 10 n ds := by
  induction ds generalizing n with
  | nil => rfl
  | cons c ds ih =>
    rw [List.foldl_cons, ← digitValue_of_isDigit (hd c List.mem_cons_self),
      ih fun d hd' => hd d (List.mem_cons_of_mem c hd')]
    rfl

/-- A number that was filled with zeros is read back from a field of its width. -/
theorem takeDigits?_padded {width n : Nat} (hwidth : width ≠ 0) (hn : n < 10 ^ width)
    (rest : List Char) :
    takeDigits? width ((paddedDecimal width n).toList ++ rest) = some (n, rest) := by
  rw [paddedDecimal, String.toList_ofList]
  have hlength := length_padZeros (length_decimalChars_le hwidth hn)
  have hdigits := (isDigits_padZeros (Sql.isDigits_decimalChars n) width).2
  have hvalue : digitsValueFrom 10 0 (padZeros width (decimalChars n)) = n := by
    have hpadded : digitsValue 10 (padZeros width (decimalChars n))
        = digitsValue 10 (decimalChars n) := digitsValue_padZeros width _
    rwa [decimalChars, digitsValue_digits (by decide) (by decide)] at hpadded
  rw [takeDigits?, List.take_left' hlength, List.drop_left' hlength, foldl_digits hdigits, hvalue,
    if_pos (by simpa [hlength] using hdigits)]

/-- The number in a field after a mark. -/
def markedAt? (mark : Char) (width : Nat) : List Char → Option (Nat × List Char)
  | [] => none
  | c :: rest => if c = mark then takeDigits? width rest else none

/-- The number in a field that is left out together with its mark when it is zero. -/
def optionalAt? (mark : Char) (width : Nat) (cs : List Char) : Option (Nat × List Char) :=
  if cs.head? = some mark then markedAt? mark width cs else some (0, cs)

theorem markedAt?_padded {mark : Char} {width n : Nat} (hwidth : width ≠ 0) (hn : n < 10 ^ width)
    (rest : List Char) :
    markedAt? mark width (mark :: ((paddedDecimal width n).toList ++ rest)) = some (n, rest) :=
  (if_pos rfl).trans (takeDigits?_padded hwidth hn rest)

/-- A field that is left out only when it is zero is read back. -/
theorem optionalAt?_written {mark : Char} {width n : Nat} (absent : Prop) [Decidable absent]
    (hwidth : width ≠ 0) (hn : n < 10 ^ width) (habsent : absent → n = 0) {rest : List Char}
    (hrest : rest.head? ≠ some mark) :
    optionalAt? mark width
        ((if absent then [] else mark :: (paddedDecimal width n).toList) ++ rest)
      = some (n, rest) := by
  split_ifs with h
  · rw [habsent h]
    exact if_neg hrest
  · exact (if_pos rfl).trans (markedAt?_padded hwidth hn rest)

/-! ## Dates -/

/-- The date `YYYY-MM-DD` at the head, and what follows it. -/
def dateAt? (cs : List Char) : Option (Date × List Char) := do
  let (year, cs) ← takeDigits? 4 cs
  let (month, cs) ← markedAt? '-' 2 cs
  let (day, cs) ← markedAt? '-' 2 cs
  return (← Date.of? year month day, cs)

/-- The date that a text spells. -/
def Date.ofIsoText? (s : String) : Option Date := do
  let (date, cs) ← dateAt? s.toList
  if cs.isEmpty then some date else none

theorem Date.fields_lt (d : Date) : d.year < 10 ^ 4 ∧ d.month < 10 ^ 2 ∧ d.day < 10 ^ 2 := by
  have h := d.exists_day
  simp only [Calendar.isDate, Calendar.daysInMonth, Bool.and_eq_true, Bool.or_eq_true,
    decide_eq_true_eq] at h
  split_ifs at h <;> omega

theorem Date.of?_self (d : Date) : Date.of? d.year d.month d.day = some d := dif_pos d.exists_day

theorem Date.toList_text (d : Date) (rest : List Char) : d.text.toList ++ rest
    = (paddedDecimal 4 d.year).toList ++ '-' :: ((paddedDecimal 2 d.month).toList
      ++ '-' :: ((paddedDecimal 2 d.day).toList ++ rest)) := by
  simp [text, toString]

theorem dateAt?_text (d : Date) (rest : List Char) :
    dateAt? (d.text.toList ++ rest) = some (d, rest) := by
  obtain ⟨hyear, hmonth, hday⟩ := d.fields_lt
  rw [d.toList_text]
  simp only [dateAt?, takeDigits?_padded (by decide) hyear, markedAt?_padded (by decide) hmonth,
    markedAt?_padded (by decide) hday, d.of?_self, Option.bind_eq_bind, Option.bind_some,
    Option.pure_def]

theorem Date.ofIsoText?_text (d : Date) : Date.ofIsoText? d.text = some d := by
  have h := dateAt?_text d []
  rw [List.append_nil] at h
  rw [Date.ofIsoText?, h]
  rfl

/-! ## Times of day -/

/-- The time of day `HH:MM:SS`, possibly with six more digits, at the head, and what follows it. -/
def clockAt? (cs : List Char) : Option (Clock × List Char) := do
  let (hour, cs) ← takeDigits? 2 cs
  let (minute, cs) ← markedAt? ':' 2 cs
  let (second, cs) ← markedAt? ':' 2 cs
  let (micro, cs) ← optionalAt? '.' 6 cs
  return (← Clock.of? hour minute second micro, cs)

theorem Clock.fields_lt (c : Clock) :
    c.hour < 10 ^ 2 ∧ c.minute < 10 ^ 2 ∧ c.second < 10 ^ 2 ∧ c.micro < 10 ^ 6 := by
  have h := c.in_range
  simp only [Bool.and_eq_true, decide_eq_true_eq] at h
  omega

theorem Clock.of?_self (c : Clock) : Clock.of? c.hour c.minute c.second c.micro = some c :=
  dif_pos c.in_range

theorem Clock.toList_text (c : Clock) (rest : List Char) : c.text.toList ++ rest
    = (paddedDecimal 2 c.hour).toList ++ ':' :: ((paddedDecimal 2 c.minute).toList
      ++ ':' :: ((paddedDecimal 2 c.second).toList
        ++ ((if c.micro = 0 then [] else '.' :: (paddedDecimal 6 c.micro).toList) ++ rest))) := by
  unfold text
  split_ifs <;> simp [toString]

theorem clockAt?_text (c : Clock) {rest : List Char} (hrest : rest.head? ≠ some '.') :
    clockAt? (c.text.toList ++ rest) = some (c, rest) := by
  obtain ⟨hhour, hminute, hsecond, hmicro⟩ := c.fields_lt
  have hfraction := optionalAt?_written (c.micro = 0) (by decide) hmicro id hrest
  rw [c.toList_text]
  simp only [clockAt?, takeDigits?_padded (by decide) hhour, markedAt?_padded (by decide) hminute,
    markedAt?_padded (by decide) hsecond, hfraction, c.of?_self, Option.bind_eq_bind,
    Option.bind_some, Option.pure_def]

/-! ## Offsets -/

/-- The offset with a size and a sign. -/
def UtcOffset.signed? (sign : Char) (micros : Nat) : Option UtcOffset :=
  if sign = '+' then UtcOffset.of? micros
  else if sign = '-' then UtcOffset.of? (-micros)
  else none

/-- The offset that a text spells: a sign, then `HH:MM`, possibly with seconds and a fraction. -/
def offsetOf? : List Char → Option UtcOffset
  | [] => none
  | sign :: cs => do
    let (hours, cs) ← takeDigits? 2 cs
    let (minutes, cs) ← markedAt? ':' 2 cs
    let (seconds, cs) ← optionalAt? ':' 2 cs
    let (micros, cs) ← optionalAt? '.' 6 cs
    if cs.isEmpty then
      UtcOffset.signed? sign (((hours * 60 + minutes) * 60 + seconds) * 1000000 + micros)
    else none

theorem UtcOffset.signed?_self (o : UtcOffset) :
    UtcOffset.signed? (if o.micros < 0 then '-' else '+') o.micros.natAbs = some o := by
  have hof : UtcOffset.of? o.micros = some o := dif_pos o.within_day
  unfold signed?
  by_cases hneg : o.micros < 0
  · rwa [if_pos hneg, if_neg (by decide), if_pos rfl,
      show -(o.micros.natAbs : Int) = o.micros by omega]
  · rwa [if_neg hneg, if_pos rfl, show (o.micros.natAbs : Int) = o.micros by omega]

theorem UtcOffset.toList_text (o : UtcOffset) {n : Nat} (hn : o.micros.natAbs = n) :
    o.text.toList = (if o.micros < 0 then '-' else '+')
      :: ((paddedDecimal 2 (n / 1000000 / 3600)).toList
      ++ ':' :: ((paddedDecimal 2 (n / 1000000 / 60 % 60)).toList
        ++ ((if n % 60000000 = 0 then [] else ':' :: (paddedDecimal 2 (n / 1000000 % 60)).toList)
          ++ ((if n % 1000000 = 0 then [] else '.' :: (paddedDecimal 6 (n % 1000000)).toList)
            ++ [])))) := by
  rw [text, hn]
  split_ifs <;> simp [toString]

theorem offsetOf?_text (o : UtcOffset) : offsetOf? o.text.toList = some o := by
  have hday := o.within_day
  have hself := o.signed?_self
  generalize hn : o.micros.natAbs = n at hday hself
  have hhours : n / 1000000 / 3600 < 10 ^ 2 := by omega
  have hminutes : n / 1000000 / 60 % 60 < 10 ^ 2 := by omega
  have hseconds : n / 1000000 % 60 < 10 ^ 2 := by omega
  have hmicros : n % 1000000 < 10 ^ 6 := by omega
  have hend : ([] : List Char).head? ≠ some '.' := by decide
  have hfraction := optionalAt?_written (n % 1000000 = 0) (by decide) hmicros id hend
  have hnext : ((if n % 1000000 = 0 then [] else '.' :: (paddedDecimal 6 (n % 1000000)).toList)
      ++ []).head? ≠ some ':' := by
    split_ifs <;> simp
  have hsecond := optionalAt?_written (n % 60000000 = 0) (by decide) hseconds (by omega) hnext
  have hmicroseconds : ((n / 1000000 / 3600 * 60 + n / 1000000 / 60 % 60) * 60 + n / 1000000 % 60)
      * 1000000 + n % 1000000 = n := by omega
  rw [o.toList_text hn]
  simp only [offsetOf?, takeDigits?_padded (by decide) hhours,
    markedAt?_padded (by decide) hminutes, hsecond, hfraction, hmicroseconds, hself,
    Option.bind_eq_bind, Option.bind_some, List.isEmpty_nil, if_true]

/-! ## Moments -/

/-- The offset of a text that may have none. -/
def optionalOffset? : List Char → Option (Option UtcOffset)
  | [] => some none
  | sign :: cs => (offsetOf? (sign :: cs)).map some

/-- The moment that a text spells: a date, the letter T, a time of day and possibly an offset. -/
def Moment.ofIsoText? (s : String) : Option Moment := do
  let (date, cs) ← dateAt? s.toList
  if cs.head? = some 'T' then
    let (clock, cs) ← clockAt? (cs.drop 1)
    return ⟨date, clock, ← optionalOffset? cs⟩
  else none

/-- The text of the offset, if there is one. -/
def Moment.offsetChars (m : Moment) : List Char := (m.offset.map fun o => o.text.toList).getD []

theorem Moment.toList_text (m : Moment) :
    m.text.toList = m.date.text.toList ++ 'T' :: (m.clock.text.toList ++ m.offsetChars) := by
  cases hoffset : m.offset <;> simp [text, textWith, offsetChars, hoffset]

theorem UtcOffset.exists_sign (o : UtcOffset) :
    ∃ sign cs, o.text.toList = sign :: cs ∧ sign ≠ '.' := by
  refine ⟨_, _, o.toList_text rfl, ?_⟩
  split_ifs <;> decide

theorem Moment.optionalOffset?_chars (m : Moment) :
    m.offsetChars.head? ≠ some '.' ∧ optionalOffset? m.offsetChars = some m.offset := by
  unfold offsetChars
  cases m.offset with
  | none => exact ⟨by decide, rfl⟩
  | some o =>
    obtain ⟨sign, cs, htext, hsign⟩ := o.exists_sign
    have hread := offsetOf?_text o
    rw [htext] at hread
    rw [Option.map_some, Option.getD_some, htext, optionalOffset?, hread]
    exact ⟨by simpa using hsign, rfl⟩

theorem Moment.ofIsoText?_text (m : Moment) : Moment.ofIsoText? m.text = some m := by
  obtain ⟨hhead, hoffset⟩ := m.optionalOffset?_chars
  rw [ofIsoText?, m.toList_text, dateAt?_text]
  simp only [Option.bind_eq_bind, Option.bind_some, List.head?_cons, if_true, List.drop_one,
    List.tail_cons, clockAt?_text m.clock hhead, hoffset, Option.pure_def]

end MetricLayer
