import MetricLayer.Proofs.Calendar.IsoText
import MetricLayer.Proofs.Number.DecimalText
import MetricLayer.Proofs.Sql.Writable

/-!
# Cells read back from their literals

A literal does not say what it stands for: a number may be whole or decimal, a string a text, a date
or a moment.  The column says so (`CellKind`).  Read as what the column holds, the literal of a
value that the column can hold is that value, and every column reads NULL (`literalTerm_valueAs`).
-/

namespace MetricLayer.Sql

open Number Text

/-- What the cells of a column are. -/
inductive CellKind where
  /-- Truth values. -/
  | truth
  /-- Whole numbers. -/
  | whole
  /-- Decimal numbers with their exponents. -/
  | decimal
  /-- Texts. -/
  | text
  /-- Dates. -/
  | date
  /-- Dates with a time of day. -/
  | moment
  deriving DecidableEq, Repr

/-- A column of the kind can hold the value.  Any column can be null; a decimal number has to be
finite and a text free of NUL. -/
def CellKind.Holds : CellKind → Value → Prop
  | _, .null => True
  | truth, .bool _ => True
  | whole, .int _ => True
  | decimal, .decimal d => d.isFinite = true
  | text, .text s => '\x00' ∉ s.toList
  | date, .date _ => True
  | moment, .moment _ => True
  | _, _ => False

/-- Some column can hold the value. -/
def IsCell (v : Value) : Prop := ∃ kind : CellKind, kind.Holds v

theorem IsCell.isWritable {v : Value} (h : IsCell v) : v.IsWritable := by
  obtain ⟨kind, h⟩ := h
  cases v with
  | text s =>
    cases kind with
    | text => exact h
    | _ => exact h.elim
  | duration | bytes | list | tuple | object => cases kind <;> exact h.elim
  | _ => trivial

/-! ## The value of a literal -/

/-- The literal is NULL. -/
def Term.isNull : Term → Bool
  | .constant word => word = "null"
  | _ => false

/-- The sign and the digits of a number. -/
def Term.numeral? : Term → Option (Bool × List Char)
  | .number s => some (false, s.toList)
  | .negate (.number s) => some (true, s.toList)
  | _ => none

/-- The content of a string. -/
def Term.string? : Term → Option String
  | .text s => some s
  | _ => none

/-- The value that a literal other than NULL has in a column of the kind. -/
def CellKind.value? (kind : CellKind) (t : Term) : Option Value :=
  match kind with
  | truth =>
    match t with
    | .constant word =>
      if word = "true" then some (.bool true)
      else if word = "false" then some (.bool false)
      else none
    | _ => none
  | whole => do
    let (negative, cs) ← t.numeral?
    let n ← readDecimal? cs
    return .int (if negative then -n else n)
  | decimal => do
    let (negative, cs) ← t.numeral?
    let d ← readUnsigned? cs
    return .decimal (.finite negative d.significand d.exponent)
  | text => t.string?.map .text
  | date => (t.string?.bind Date.ofIsoText?).map .date
  | moment => (t.string?.bind Moment.ofIsoText?).map .moment

/-- The value that a literal has in a column of the kind. -/
def Term.valueAs (kind : CellKind) (t : Term) : Option Value :=
  if t.isNull then some .null else kind.value? t

/-! ## Numbers -/

theorem numeral?_numeralTerm {s : String} (h : IsNumeral s.toList) (negative : Bool) :
    (numeralTerm ((if negative then "-" else "") ++ s)).numeral? = some (negative, s.toList) := by
  cases negative with
  | true =>
    have hchars : ("-" ++ s).toList = '-' :: s.toList := by simp
    simp only [if_true, numeralTerm, hchars, Term.numeral?, String.toList_ofList]
  | false =>
    have hterm : numeralTerm s = .number s := by
      unfold numeralTerm
      split
      · next ds heq => exact absurd heq (h.ne_minus ds)
      · rfl
    simp [hterm, Term.numeral?]

theorem isNull_numeralTerm (s : String) : (numeralTerm s).isNull = false := by
  unfold numeralTerm
  split <;> rfl

theorem integerText_eq (i : Int) :
    integerText i = (if decide (i < 0) then "-" else "") ++ decimalText i.natAbs := by
  rw [integerText]
  by_cases hneg : i < 0
  · rw [if_pos hneg, if_pos (decide_eq_true hneg)]
  · rw [if_neg hneg, if_neg (by simpa using hneg), String.empty_append]

theorem valueAs_integerText (i : Int) :
    (numeralTerm (integerText i)).valueAs .whole = some (.int i) := by
  have hd := isDigits_decimalChars i.natAbs
  have htext : (decimalText i.natAbs).toList = decimalChars i.natAbs := String.toList_ofList
  have hnumeral : IsNumeral (decimalText i.natAbs).toList := htext ▸ (IsMantissa.whole hd).isNumeral
  have hread : readDecimal? (decimalChars i.natAbs) = some i.natAbs := by
    rw [readDecimal?_digits hd, digitsValue_decimalChars]
  have hsign : (if decide (i < 0) = true then -(i.natAbs : Int) else i.natAbs) = i := by
    simp only [decide_eq_true_eq]
    split_ifs <;> omega
  rw [Term.valueAs, isNull_numeralTerm, integerText_eq, CellKind.value?,
    numeral?_numeralTerm hnumeral, htext]
  simp only [Option.bind_eq_bind, Option.bind_some, hread, hsign, Option.pure_def,
    Bool.false_eq_true, if_false]

theorem valueAs_decimalText {d : Decimal} (h : d.isFinite = true) :
    (numeralTerm d.text).valueAs .decimal = some (.decimal d) := by
  cases d with
  | finite negative coefficient exponent =>
    have hread := Decimal.readUnsigned?_magnitudeText coefficient exponent
    rw [Term.valueAs, isNull_numeralTerm, Decimal.text, CellKind.value?,
      numeral?_numeralTerm (isNumeral_magnitudeText coefficient exponent)]
    simp [hread]
  | infinite | nan => cases h

/-! ## Literals -/

theorem valueAs_text (kind : CellKind) (s : String) :
    (Term.text s).valueAs kind = kind.value? (.text s) := if_neg Bool.false_ne_true

/-- The literal of a cell is read as the cell. -/
theorem literalTerm_valueAs {kind : CellKind} {v : Value} (h : kind.Holds v) :
    (literalTerm v).valueAs kind = some v := by
  cases v with
  | null => rfl
  | bool b =>
    cases kind with
    | truth => cases b <;> rfl
    | _ => exact h.elim
  | int i =>
    cases kind with
    | whole => exact valueAs_integerText i
    | _ => exact h.elim
  | decimal d =>
    cases kind with
    | decimal =>
      have hfinite : d.isFinite = true := h
      rw [literalTerm, if_pos hfinite]
      exact valueAs_decimalText hfinite
    | _ => exact h.elim
  | text s =>
    cases kind with
    | text => rfl
    | _ => exact h.elim
  | date d =>
    cases kind with
    | date =>
      rw [literalTerm, valueAs_text, CellKind.value?, Term.string?, Option.bind_some,
        d.ofIsoText?_text]
      rfl
    | _ => exact h.elim
  | moment m =>
    cases kind with
    | moment =>
      rw [literalTerm, valueAs_text, CellKind.value?, Term.string?, Option.bind_some,
        m.ofIsoText?_text]
      rfl
    | _ => exact h.elim
  | float | duration | bytes | list | tuple | object => cases kind <;> exact h.elim

end MetricLayer.Sql
