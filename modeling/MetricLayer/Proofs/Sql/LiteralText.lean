import MetricLayer.Proofs.Number.FloatText
import MetricLayer.Proofs.Sql.Clause

/-!
# Literals read back

`literalTerm` is the term that a value stands for in SQL.  The literal of a value spells it, and
quotes and parentheses are balanced in it (`sqlLiteral_spells`).
-/

namespace MetricLayer.Sql

open Number Text

/-- The term of a numeral that may have a minus in front. -/
def numeralTerm (s : String) : Term :=
  match s.toList with
  | '-' :: cs => .negate (.number (String.ofList cs))
  | _ => .number s

/-- The term that a value stands for; what has no literal stands for no value. -/
def literalTerm : Value → Term
  | .bool b => .constant (if b then "true" else "false")
  | .int i => numeralTerm (integerText i)
  | .float x => if x.isFinite then numeralTerm (floatText x) else .constant "null"
  | .decimal d => if d.isFinite then numeralTerm d.text else .constant "null"
  | .text s => .text s
  | .date d => .text d.text
  | .moment m => .text m.text
  | _ => .constant "null"

/-! ## Numbers -/

theorem IsSignedNumeral.unpaired {s : String} (h : IsSignedNumeral s) :
    s.toList.all isUnpaired = true := by
  have hall : numeralChars.all isUnpaired = true := by decide
  exact List.all_eq_true.2 fun c hc => List.all_eq_true.1 hall c (h.chars c hc)

/-- A numeral starts with no minus. -/
theorem IsNumeral.ne_minus {cs : List Char} (h : IsNumeral cs) (ds : List Char) :
    cs ≠ '-' :: ds := by
  obtain ⟨m, x, hm, -, rfl⟩ := h
  obtain ⟨c, ms, rfl, hc⟩ := hm.head
  rintro heq
  rw [List.cons_append, List.cons.injEq] at heq
  rw [heq.1] at hc
  revert hc
  decide

theorem IsSignedNumeral.spells {s : String} (h : IsSignedNumeral s) :
    Spells .signed s (numeralTerm s) := by
  obtain ⟨cs, hcs, hs | hs⟩ := h
  · have hterm : numeralTerm s = .number s := by
      unfold numeralTerm
      split
      · next ds heq => exact absurd (hs.symm.trans heq) (hcs.ne_minus ds)
      · rfl
    rw [hterm]
    exact (Spells.number (hs ▸ hcs)).signed
  · have hsplit : s = "-" ++ String.ofList cs := by
      rw [← String.toList_inj, hs]
      simp
    have hterm : numeralTerm s = .negate (.number (String.ofList cs)) := by
      simp only [numeralTerm, hs]
    rw [hterm, hsplit]
    exact (Spells.number (by rwa [String.toList_ofList])).negate

/-! ## Literals -/

/-- The text spells a term, and quotes and parentheses are balanced in it. -/
structure SpellsLiteral (s : String) (t : Term) : Prop where
  /-- The text is read as the term. -/
  spells : Spells .signed s t
  /-- The text is passed over by the search for a closing parenthesis. -/
  balanced : Balanced s.toList

theorem SpellsLiteral.quoted (s : String) : SpellsLiteral (enclosed '\'' s) (.text s) :=
  ⟨(Spells.text s).signed, Balanced.enclosed (.inl rfl) s⟩

theorem SpellsLiteral.numeral {s : String} (h : IsSignedNumeral s) :
    SpellsLiteral s (numeralTerm s) :=
  ⟨h.spells, Balanced.unpaired h.unpaired⟩

theorem SpellsLiteral.null : SpellsLiteral "NULL" (.constant "null") :=
  ⟨(Spells.constant (s := "NULL") (by decide) (by decide) (by decide)).signed,
    Balanced.unpaired (by decide)⟩

theorem SpellsLiteral.truth (b : Bool) :
    SpellsLiteral (if b then "TRUE" else "FALSE") (.constant (if b then "true" else "false")) := by
  cases b with
  | true =>
    exact ⟨(Spells.constant (s := "TRUE") (by decide) (by decide) (by decide)).signed,
      Balanced.unpaired (by decide)⟩
  | false =>
    exact ⟨(Spells.constant (s := "FALSE") (by decide) (by decide) (by decide)).signed,
      Balanced.unpaired (by decide)⟩

theorem sqlText_spells {s sql : String} (h : sqlText s = .ok sql) : SpellsLiteral sql (.text s) := by
  rw [sqlText_inv h]
  exact .quoted s

/-- The literal of a value is read as the term of the value. -/
theorem sqlLiteral_spells {v : Value} {sql : String} (h : sqlLiteral v = .ok sql) :
    SpellsLiteral sql (literalTerm v) := by
  cases v with
  | null =>
    rw [← Except.ok.inj h]
    exact .null
  | bool b =>
    rw [← Except.ok.inj h]
    exact .truth b
  | int i =>
    rw [← Except.ok.inj h]
    exact .numeral (signedNumeral_integerText i)
  | float x =>
    rw [← Except.ok.inj h]
    by_cases hx : x.isFinite = true
    · simpa only [literalTerm, if_pos hx] using .numeral (signedNumeral_floatText hx)
    · simpa only [literalTerm, if_neg hx] using .null
  | decimal d =>
    rw [← Except.ok.inj h]
    by_cases hd : d.isFinite = true
    · simpa only [literalTerm, if_pos hd] using .numeral (signedNumeral_decimalText hd)
    · simpa only [literalTerm, if_neg hd] using .null
  | text s => exact sqlText_spells h
  | date d =>
    rw [← Except.ok.inj h]
    exact .quoted d.text
  | moment m =>
    rw [← Except.ok.inj h]
    exact .quoted m.text
  | duration | bytes | list | tuple | object => cases h

end MetricLayer.Sql
