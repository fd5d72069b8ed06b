import MetricLayer.Proofs.Sql.Restriction
import MetricLayer.Sql.MetricQuery

/-!
# The predicates of periods

The predicates that the time functions put on the date column are pieces, whatever the name of the
column holds, and each says what `Predicate.since` and its siblings write down: the start of a
period (`toDate_piece`) and the two predicates of each comparison of periods (`yearPair_pieces`,
`monthPair_pieces`).
-/

namespace MetricLayer.Sql

open Text

/-- The text is read as a term of the rank, its quotes and parentheses are closed, and it starts
with no parenthesis. -/
structure Operand (rank : Rank) (s : String) (t : Term) : Prop where
  /-- The text is cut into lexemes that are read as the term. -/
  reads : ∃ ts, Lexes s.toList ts ∧ Lexeme.comment ∉ ts ∧ Reads rank ts t ∧ afterParen? ts = none
  /-- The text is balanced. -/
  balanced : Balanced s.toList
  /-- The text starts with no parenthesis. -/
  head : s.toList.head? ≠ some '('

theorem Operand.toSum {rank : Rank} {s : String} {t : Term} (h : Operand rank s t) :
    Operand .sum s t := by
  obtain ⟨⟨ts, hl, hc, hr, hhead⟩, hb, hne⟩ := h
  refine ⟨⟨ts, hl, hc, ?_, hhead⟩, hb, hne⟩
  cases rank with
  | primary => exact hr.signed.product.sum
  | signed => exact hr.product.sum
  | product => exact hr.sum
  | sum => exact hr

/-! ## Single operands -/

theorem Operand.column {field column : String} (h : sqlName field = .ok column) :
    Operand .primary column (.column field) := by
  obtain ⟨rfl, hne⟩ := sqlName_inv h
  refine ⟨⟨_, Lexes.name hne, by simp, Reads.column field, rfl⟩, Balanced.enclosed (.inr rfl) field,
    ?_⟩
  simp [toList_enclosed]

theorem Operand.currentDate : Operand .primary "CURRENT_DATE" (.constant "current_date") :=
  ⟨⟨_, Lexes.keyword "CURRENT_DATE" (w := "current_date") (by decide), by simp,
    Reads.constant (by decide) (by decide), rfl⟩, Balanced.unpaired (by decide), by decide⟩

theorem Operand.one : Operand .primary "1" (.number "1") := by
  have hone : IsNumeral "1".toList := (IsMantissa.whole (isDigits_of_all (by decide))).isNumeral
  exact ⟨⟨_, Lexes.number hone, by simp, Reads.number "1", rfl⟩, Balanced.unpaired (by decide),
    by decide⟩

/-- A text without quotes in it is enclosed as it is. -/
theorem enclosed_eq {s : String} (h : double '\'' s.toList = s.toList) :
    enclosed '\'' s = "'" ++ s ++ "'" := by
  rw [← String.toList_inj, toList_enclosed, h]
  simp

theorem Operand.interval {s : String} (h : double '\'' s.toList = s.toList) :
    Operand .primary ("INTERVAL '" ++ s ++ "'") (.interval s) := by
  have htext : "INTERVAL '" ++ s ++ "'" = "INTERVAL" ++ (" " ++ enclosed '\'' s) := by
    rw [enclosed_eq h, ← String.toList_inj]
    simp
  have hlex := (Lexes.keyword "INTERVAL" (w := "interval") (by decide)).append (Lexes.text s).space
    (by simp [isBoundary])
  have hword : Balanced "INTERVAL ".toList := Balanced.unpaired (by decide)
  have hbalanced := hword.append (Balanced.enclosed (q := '\'') (.inl rfl) s)
  rw [htext]
  exact ⟨⟨_, by simpa using hlex, by simp, Reads.interval s, rfl⟩, by simpa using hbalanced,
    by simp⟩

/-! ## Operations -/

/-- The difference of two operands. -/
theorem Operand.minus {l r : String} {lt rt : Term} (hl : Operand .primary l lt)
    (hr : Operand .primary r rt) : Operand .sum (l ++ " - " ++ r) (.binary .sub lt rt) := by
  obtain ⟨⟨ls, hll, hlc, hlr, hlhead⟩, hlb, hlne⟩ := hl
  obtain ⟨⟨rs, hrl, hrc, hrr, -⟩, hrb, -⟩ := hr
  have hminus : Reads (rankOf .sub) _ (.binary .sub lt rt) := Reads.binary hlr.signed hrr.signed
  have hread := hminus.sum_of_rankOf
  have hlex := hll.between (isOperatorText_sign .sub) hrl
  have htext : l ++ " - " ++ r = l ++ " " ++ Operator.sub.sign ++ " " ++ r := by
    rw [← String.toList_inj]
    simp [Operator.sign]
  have hspace : Balanced " - ".toList := Balanced.unpaired (by decide)
  obtain ⟨l', ls', rfl, -⟩ := hlr.head
  refine ⟨⟨_, htext ▸ hlex, by simp_all, hread, ?_⟩, ?_, ?_⟩
  · cases l' <;> first | rfl | cases hlhead
  · rw [String.toList_append, String.toList_append]
    exact (hlb.append hspace).append hrb
  · cases hcs : l.toList with
    | nil =>
      have := hll.lex_eq
      rw [hcs, lex_nil] at this
      cases this
    | cons c cs => simpa [hcs] using hlne

/-- A part of a date. -/
theorem Operand.extractYear {s : String} {t : Term} (h : Operand .sum s t) :
    Operand .primary ("EXTRACT(YEAR FROM " ++ s ++ ")") (.extract "year" t) := by
  obtain ⟨⟨ts, hl, hc, hr, -⟩, hb, -⟩ := h
  have hclose := hl.append (Lexes.rightParen Lexes.nil) (by simp [isBoundary])
  have hfrom := (Lexes.keyword "FROM" (w := "from") (by decide)).append hclose.space
    (by simp [isBoundary])
  have hyear := (Lexes.keyword "YEAR" (w := "year") (by decide)).append hfrom.space
    (by simp [isBoundary])
  have hlex := (Lexes.keyword "EXTRACT" (w := "extract") (by decide)).append hyear.leftParen
    (by simp [isBoundary])
  have hinner : Balanced "YEAR FROM ".toList := Balanced.unpaired (by decide)
  have hword : Balanced "EXTRACT".toList := Balanced.unpaired (by decide)
  have hbalanced := hword.append (hinner.append hb).group
  exact ⟨⟨_, by simpa using hlex, by simpa using hc, Reads.extract hr, rfl⟩,
    by simpa using hbalanced, by simp⟩

/-- The start of the period that a date is in. -/
theorem Operand.dateTrunc {p s : String} {t : Term} (hp : double '\'' p.toList = p.toList)
    (h : Operand .sum s t) :
    Operand .primary ("DATE_TRUNC('" ++ p ++ "', " ++ s ++ ")")
      (.call "date_trunc" false [.text p, t]) := by
  obtain ⟨⟨ts, hl, hc, hr, -⟩, hb, -⟩ := h
  have htext : "DATE_TRUNC('" ++ p ++ "', " ++ s ++ ")"
      = "DATE_TRUNC" ++ "(" ++ joined ", " [enclosed '\'' p, s] ++ ")" := by
    rw [joined_cons, joined, enclosed_eq hp, ← String.toList_inj]
    simp
  have hargs : List.Forall₂ (Reads .sum) [[.text p], ts] [.text p, t] :=
    .cons (Reads.text p).signed.product.sum (.cons hr .nil)
  have hlist : List.Forall₂ (fun s ts => Lexes s.toList ts) [enclosed '\'' p, s] [[.text p], ts] :=
    .cons (Lexes.text p) (.cons hl .nil)
  have hlex := Lexes.call (f := "DATE_TRUNC") (by decide) (Lexes.separated Lexes.commaSpace hlist)
  have hbalanced : Balanced (joined ", " [enclosed '\'' p, s]).toList := by
    refine Balanced.joined (Balanced.unpaired (by decide)) fun u hu => ?_
    rcases List.mem_cons.1 hu with rfl | hu
    · exact Balanced.enclosed (.inl rfl) p
    · rw [List.mem_singleton.1 hu]
      exact hb
  have hword : Balanced "DATE_TRUNC".toList := Balanced.unpaired (by decide)
  have hcall := hword.append hbalanced.group
  rw [htext]
  exact ⟨⟨_, hlex, by simpa [separatedBy] using hc, Reads.call (by decide) (by decide) hargs, rfl⟩,
    by simpa using hcall, by simp⟩

/-- Two operands compared are a piece. -/
theorem Operand.compare (sign : String) {l r : String} {lt rt : Term} (hl : Operand .sum l lt)
    (hr : Operand .sum r rt) (hsign : (decide (sign ∈ comparisonSigns) && isOperatorText sign
      && sign.toList.all isUnpaired) = true) :
    Piece (l ++ " " ++ sign ++ " " ++ r) (Meaning.atom (.compare sign lt rt)) := by
  simp only [Bool.and_eq_true, decide_eq_true_eq] at hsign
  obtain ⟨⟨hmem, hop⟩, hunpaired⟩ := hsign
  obtain ⟨⟨ls, hll, hlc, hlr, hlhead⟩, hlb, hlne⟩ := hl
  obtain ⟨⟨rs, hrl, hrc, hrr, -⟩, hrb, -⟩ := hr
  have hspace : Balanced [' '] := Balanced.unpaired (by decide)
  have hbalanced := ((hlb.append hspace).append (Balanced.unpaired hunpaired)).append
    (hspace.append hrb)
  refine ⟨⟨_, _, hll.between hop hrl, by simp [hlc, hrc], ReadsCondition.compare hlr hlhead hmem hrr,
    fun _ => rfl⟩, by simpa using hbalanced, fun hhead => absurd ?_ hlne⟩
  cases hcs : l.toList with
  | nil =>
    have := hll.lex_eq
    obtain ⟨l', ls', rfl, -⟩ := hlr.start
    rw [hcs, lex_nil] at this
    cases this
  | cons c cs => simpa [hcs] using hhead

/-! ## The predicates -/

/-- Today, as the database knows it. -/
def Term.today : Term := .constant "current_date"

/-- The year that a date is in. -/
def Term.yearOf (date : Term) : Term := .extract "year" date

/-- The first day of the period that a date is in. -/
def Term.startOf (period : String) (date : Term) : Term :=
  .call "date_trunc" false [.text period, date]

namespace Predicate

/-- The date is not before the current period. -/
def since (period field : String) : Predicate :=
  .compare ">=" (.column field) (.startOf period .today)

/-- The date is in the current year. -/
def thisYear (field : String) : Predicate :=
  .compare "=" (.yearOf (.column field)) (.yearOf .today)

/-- The date is in the year before. -/
def lastYear (field : String) : Predicate :=
  .compare "=" (.yearOf (.column field)) (.binary .sub (.yearOf .today) (.number "1"))

/-- The date is in the current month. -/
def thisMonth (field : String) : Predicate :=
  .compare "=" (.startOf "month" (.column field)) (.startOf "month" .today)

/-- The date is in the month before. -/
def lastMonth (field : String) : Predicate :=
  .compare "=" (.startOf "month" (.column field))
    (.startOf "month" (.binary .sub .today (.interval "1 month")))

end Predicate

/-- The periods of a date column that a time function is about, in the order in which its query
reads the table for them; none where it reads all rows. -/
def periodsOf (field : String) : TimeFunction → List (Option Predicate)
  | .ytd => [some (.since "year" field)]
  | .qtd => [some (.since "quarter" field)]
  | .mtd => [some (.since "month" field)]
  | .yoy => [some (.thisYear field), some (.lastYear field)]
  | .mom => [some (.thisMonth field), some (.lastMonth field)]
  | _ => [none]

theorem periodsOf_toDate {func : TimeFunction} {period : String}
    (h : func.shape? = some (.toDate period)) (field : String) :
    periodsOf field func = [some (.since period field)] := by
  cases func <;> cases h <;> rfl

/-- The predicate of the days since the start of a period. -/
theorem toDate_piece {field column period : String} (hcolumn : sqlName field = .ok column)
    (hp : double '\'' period.toList = period.toList) :
    Piece (column ++ " >= DATE_TRUNC('" ++ period ++ "', CURRENT_DATE)")
      (Meaning.atom (.since period field)) := by
  have hpiece := Operand.compare ">=" (Operand.column hcolumn).toSum
    (Operand.dateTrunc hp Operand.currentDate.toSum).toSum (by decide)
  refine cast (congrArg (Piece · _) ?_) hpiece
  rw [← String.toList_inj]
  simp

/-- The text of an equation. -/
theorem Operand.equation {l r s : String} {lt rt : Term} (hl : Operand .sum l lt)
    (hr : Operand .sum r rt) (hs : l ++ " " ++ "=" ++ " " ++ r = s) :
    Piece s (Meaning.atom (.compare "=" lt rt)) :=
  hs ▸ Operand.compare "=" hl hr (by decide)

/-- The predicates of the current year and of the one before. -/
theorem yearPair_pieces {field column : String} (hcolumn : sqlName field = .ok column) :
    Piece (yearPair column).current (Meaning.atom (.thisYear field))
      ∧ Piece (yearPair column).previous (Meaning.atom (.lastYear field)) := by
  have hyear := (Operand.extractYear (Operand.column hcolumn).toSum).toSum
  have hthis := Operand.extractYear Operand.currentDate.toSum
  have hcurrent : "EXTRACT(YEAR FROM " ++ column ++ ")" ++ " " ++ "=" ++ " "
      ++ ("EXTRACT(YEAR FROM " ++ "CURRENT_DATE" ++ ")") = (yearPair column).current := by
    rw [← String.toList_inj]
    unfold yearPair
    simp
  have hprevious : "EXTRACT(YEAR FROM " ++ column ++ ")" ++ " " ++ "=" ++ " "
      ++ ("EXTRACT(YEAR FROM " ++ "CURRENT_DATE" ++ ")" ++ " - " ++ "1")
      = (yearPair column).previous := by
    rw [← String.toList_inj]
    unfold yearPair
    simp
  exact ⟨hyear.equation hthis.toSum hcurrent, hyear.equation (hthis.minus Operand.one) hprevious⟩

/-- The predicates of the current month and of the one before. -/
theorem monthPair_pieces {field column : String} (hcolumn : sqlName field = .ok column) :
    Piece (monthPair column).current (Meaning.atom (.thisMonth field))
      ∧ Piece (monthPair column).previous (Meaning.atom (.lastMonth field)) := by
  have hquoted : double '\'' "month".toList = "month".toList := by decide
  have hmonth := (Operand.dateTrunc hquoted (Operand.column hcolumn).toSum).toSum
  have hthis := (Operand.dateTrunc hquoted Operand.currentDate.toSum).toSum
  have hinterval := Operand.interval (s := "1 month") (by decide)
  have hlast := (Operand.dateTrunc hquoted (Operand.currentDate.minus hinterval)).toSum
  have hcurrent : "DATE_TRUNC('" ++ "month" ++ "', " ++ column ++ ")" ++ " " ++ "=" ++ " "
      ++ ("DATE_TRUNC('" ++ "month" ++ "', " ++ "CURRENT_DATE" ++ ")")
      = (monthPair column).current := by
    rw [← String.toList_inj]
    unfold monthPair
    simp
  have hprevious : "DATE_TRUNC('" ++ "month" ++ "', " ++ column ++ ")" ++ " " ++ "=" ++ " "
      ++ ("DATE_TRUNC('" ++ "month" ++ "', "
        ++ ("CURRENT_DATE" ++ " - " ++ ("INTERVAL '" ++ "1 month" ++ "'")) ++ ")")
      = (monthPair column).previous := by
    rw [← String.toList_inj]
    unfold monthPair
    simp
  exact ⟨hmonth.equation hthis hcurrent, hmonth.equation hlast hprevious⟩

end MetricLayer.Sql
