import MetricLayer.Dataset.Loading
import MetricLayer.Proofs.Calendar.IsoReading

/-!
# Dates in columns of texts and of dates

A date that is stored as a text can be stored as a date later.  `moment_of_text` says for every value
that is or spells a date what its text spells: the same moment, unless the value is a moment whose
offset is a fraction of a second (`microOffset_lost`).
-/

namespace MetricLayer

/-- What a value is or spells, its text spells too, with its offset as texts are read.  Only a moment
can have an offset that is read as another one.  So a date or moment is stored in a column of dates
as it is when its text is stored there. -/
theorem moment_of_text {v : Value} {m : Moment} (h : v.toMoment? = some m) :
    (Value.text m.text).toMoment? = some m.asRead
      ∧ (m.asRead = m ↔ ¬m.HasFractionOffset)
      ∧ (m.HasFractionOffset → v = .moment m)
      ∧ ((∀ s, v ≠ .text s) → ColumnType.date.conform v = .moment m
        ∧ ColumnType.date.conform (ColumnType.string.conform v) = .moment m.asRead) := by
  have hstored : ColumnType.date.conform v = .moment m := by
    rw [ColumnType.conform, h]
    rfl
  refine ⟨m.ofText?_text, m.asRead_eq_self_iff, fun hfraction => ?_, fun htext => ⟨hstored, ?_⟩⟩
  · cases v with
    | moment => cases h; rfl
    | date d =>
      cases h
      obtain ⟨o, ho, -⟩ := hfraction
      cases ho
    | text s =>
      rw [Value.toMoment?] at h
      exact absurd hfraction (Moment.ofText?_whole h)
    | _ => cases h
  · cases v with
    | moment =>
      cases h
      show ((Moment.ofText? m.text).map Value.moment).getD .null = _
      rw [m.ofText?_text]
      rfl
    | date d =>
      cases h
      show ((Moment.ofText? d.text).map Value.moment).getD .null = _
      rw [d.ofText?_text]
      rfl
    | text s => exact absurd rfl (htext s)
    | _ => cases h

/-- A moment to the west whose offset has seconds and microseconds. -/
def westernMoment : Moment :=
  ⟨⟨2024, 2, 29, by decide⟩, ⟨23, 59, 7, 40, by decide⟩, some ⟨-19807000250, by decide⟩⟩

theorem westernMoment_of_text :
    (Value.moment westernMoment).toMoment? = some westernMoment
      ∧ (Value.text westernMoment.text).toMoment? = some westernMoment
      ∧ ColumnType.date.conform (ColumnType.string.conform (.moment westernMoment))
        = ColumnType.date.conform (.moment westernMoment) := by
  have hmoment : (Value.moment westernMoment).toMoment? = some westernMoment := rfl
  obtain ⟨htext, -, -, hstored⟩ := moment_of_text hmoment
  have hsame : westernMoment.asRead = westernMoment := by decide
  obtain ⟨hdate, hread⟩ := hstored fun s hs => nomatch hs
  rw [hsame] at htext hread
  exact ⟨hmoment, htext, hread.trans hdate.symm⟩

/-- A moment whose offset is a microsecond. -/
def microMoment : Moment := ⟨⟨2024, 12, 31, by decide⟩, .midnight, some ⟨1, by decide⟩⟩

/-- An offset of a microsecond is lost in the text. -/
theorem microOffset_lost :
    (Value.moment microMoment).toMoment? = some microMoment
      ∧ (Value.text microMoment.text).toMoment? ≠ some microMoment
      ∧ ColumnType.date.conform (ColumnType.string.conform (.moment microMoment))
        ≠ ColumnType.date.conform (.moment microMoment) := by
  have hlost : microMoment.asRead ≠ microMoment := by decide
  have hread : (Value.text microMoment.text).toMoment? = some microMoment.asRead :=
    microMoment.ofText?_text
  refine ⟨rfl, ?_, ?_⟩
  · rw [hread]
    exact fun h => hlost (Option.some.inj h)
  · show (((Value.text microMoment.text).toMoment?).map Value.moment).getD .null ≠ .moment microMoment
    rw [hread]
    exact fun h => hlost (Value.moment.inj h)

end MetricLayer
