import MetricLayer.Dataset.Loading
import MetricLayer.Proofs.Metric.Executable
import MetricLayer.Proofs.Sql.LiteralText
import MetricLayer.Proofs.Value.Display

/-!
# Rows that can be written

The checks of rows look at the types of cells only, and so does the value that is stored for a cell.
Writing looks at one thing more: a text must not hold a NUL.  Texts that are made of numbers, dates
or truth values never do, so what remains are the texts of the rows themselves
(`insertStatement_failure?`).
-/

namespace MetricLayer

open Number Text

/-! ## Texts of dates and numbers -/

theorem noNul_of_digits {cs : List Char} (h : Sql.IsDigits cs) : NoNul (String.ofList cs) := by
  have hchars : ∀ c ∈ (String.ofList cs).toList, c ∈ "0123456789".toList := by
    rw [String.toList_ofList]
    exact fun c hc => Sql.mem_digits_of_isDigit (h.2 c hc)
  exact .of_chars hchars (by decide)

theorem decimalText_noNul (n : Nat) : NoNul (decimalText n) :=
  noNul_of_digits (Sql.isDigits_decimalChars n)

theorem paddedDecimal_noNul (width n : Nat) : NoNul (paddedDecimal width n) :=
  noNul_of_digits (isDigits_padZeros (Sql.isDigits_decimalChars n) width)

theorem Date.text_noNul (d : Date) : NoNul d.text := by
  have hday := (paddedDecimal_noNul 4 d.year).append (t := "-") (by decide)
  have hmonth := (hday.append (paddedDecimal_noNul 2 d.month)).append (t := "-") (by decide)
  exact hmonth.append (paddedDecimal_noNul 2 d.day)

theorem Clock.text_noNul (c : Clock) : NoNul c.text := by
  have hhour := (paddedDecimal_noNul 2 c.hour).append (t := ":") (by decide)
  have hminute := (hhour.append (paddedDecimal_noNul 2 c.minute)).append (t := ":") (by decide)
  have hsecond := hminute.append (paddedDecimal_noNul 2 c.second)
  unfold Clock.text
  dsimp only
  split_ifs
  · exact hsecond
  · exact (hsecond.append (t := ".") (by decide)).append (paddedDecimal_noNul 6 c.micro)

theorem UtcOffset.text_noNul (o : UtcOffset) : NoNul o.text := by
  unfold UtcOffset.text
  generalize o.micros.natAbs = n
  dsimp only
  have hhour := (paddedDecimal_noNul 2 (n / 1000000 / 3600)).append (t := ":") (by decide)
  refine .append (.append (.append ?_ (hhour.append (paddedDecimal_noNul 2 _))) ?_) ?_
  · split_ifs <;> decide
  · split_ifs
    · decide
    · exact .append (s := ":") (by decide) (paddedDecimal_noNul 2 _)
  · split_ifs
    · decide
    · exact .append (s := ".") (by decide) (paddedDecimal_noNul 6 _)

theorem Moment.text_noNul (m : Moment) : NoNul m.text := by
  refine .append (.append (.append m.date.text_noNul (by decide)) m.clock.text_noNul) ?_
  cases m.offset with
  | none => decide
  | some offset => exact offset.text_noNul

theorem Decimal.text_noNul (d : Decimal) : NoNul d.text := by
  cases d with
  | finite negative coefficient exponent =>
    exact .of_chars (Sql.signedNumeral_decimalText rfl).chars (by decide)
  | infinite negative => cases negative <;> decide
  | nan negative signalling payload =>
    refine .append (.append ?_ ?_) ?_
    · cases negative <;> decide
    · cases signalling <;> decide
    · cases payload with
      | none => decide
      | some n => exact decimalText_noNul n

/-! ## Cells -/

/-- The value is a text that holds a NUL. -/
def Value.holdsNul : Value → Bool
  | .text s => MetricLayer.holdsNul s
  | _ => false

/-- The failure to write what may hold a NUL. -/
def nulFailure? (holds : Bool) : Option Failure :=
  if holds then some (.sqlText .nulInText) else none

theorem sqlText_failure? (s : String) : failure? (sqlText s) = nulFailure? (holdsNul s) := by
  unfold sqlText nulFailure?
  split_ifs <;> rfl

theorem sqlText_noNul_failure? {s : String} (h : NoNul s) : failure? (sqlText s) = none :=
  failure?_eq_none.2 (succeeds_sqlText.2 h)

/-- A cell is written unless it is a text with a NUL in a column of texts. -/
theorem conform_failure? (type : ColumnType) (v : Value) :
    failure? (sqlLiteral (type.conform v)) = nulFailure? (type = .string && v.holdsNul) := by
  cases type with
  | string =>
    cases v with
    | text s => exact sqlText_failure? s
    | bool b => cases b <;> rfl
    | int i => exact sqlText_noNul_failure? (integerText_noNul i)
    | float x => exact sqlText_noNul_failure? (floatText_noNul x)
    | decimal d => exact sqlText_noNul_failure? d.text_noNul
    | date d => exact sqlText_noNul_failure? d.text_noNul
    | moment m => exact sqlText_noNul_failure? m.text_noNul
    | _ => rfl
  | number =>
    show failure? (sqlLiteral (if v.isNumber then v else .null)) = none
    split_ifs with hnumber
    · cases v <;> first | rfl | cases hnumber
    · rfl
  | date =>
    show failure? (sqlLiteral ((v.toMoment?.map .moment).getD .null)) = none
    cases v.toMoment? <;> rfl
  | boolean =>
    cases v <;> rfl

/-! ## Physical tables -/

theorem toLower_ne_nul {c : Char} (h : isPlainChar c = true) : c.toLower ≠ '\x00' := by
  intro hnul
  have halpha : c.isAlpha = false := by
    rw [← Char.isAlpha_toLower_eq_isAlpha, hnul]
    rfl
  have hupper : ¬c.isUpper = true := fun h => by simp [Char.isAlpha, h] at halpha
  rw [Char.toLower_eq_of_not_isUpper hupper] at hnul
  rw [hnul] at h
  exact absurd h (by decide)

/-- The name of a physical table can be written. -/
theorem isSqlName_physicalNameFor (sourceId table : String) :
    IsSqlName (physicalNameFor sourceId table) := by
  have hplain : ∀ s, '\x00' ∉ (plainName s).toList := by
    intro s hnul
    rw [plainName, String.toList_ofList, List.mem_map] at hnul
    obtain ⟨c, -, hc⟩ := hnul
    split_ifs at hc with hplain
    · exact toLower_ne_nul hplain hc
    · exact absurd hc (by decide)
  obtain ⟨rest, hrest⟩ : ∃ rest, physicalNameFor sourceId table
      = cutTo identifierLimit (plainName ("ds_" ++ rest)) :=
    ⟨String.ofList (sourceId.toList.take 8) ++ ("_" ++ table), by
      rw [← String.append_assoc, ← String.append_assoc]
      rfl⟩
  have hname : (physicalNameFor sourceId table).toList
      = (plainName ("ds_" ++ rest)).toList.take identifierLimit := by
    rw [hrest, cutTo, if_pos (by decide), String.toList_ofList]
    rfl
  constructor
  · rw [isBlankText, hname, plainName, String.toList_ofList, String.toList_append, List.map_append]
    rfl
  · rw [hname]
    exact fun hnul => hplain _ (List.mem_of_mem_take hnul)

/-! ## Rows -/

/-- The row holds a text with a NUL in a column of texts. -/
def Row.holdsNul (schema : Schema) (row : Row) : Bool :=
  schema.columns.any fun c => c.type = .string && (row.cell c.name).holdsNul

/-- Parts of which each is written unless it holds a NUL are written unless one of them does. -/
theorem mapM_failure? {α β : Type} {f : α → Outcome β} {holds : α → Bool} {as : List α}
    (h : ∀ a ∈ as, failure? (f a) = nulFailure? (holds a)) :
    failure? (as.mapM f) = nulFailure? (as.any holds) := by
  induction as with
  | nil => rfl
  | cons a as ih =>
    rw [List.mapM_cons, failure?_bind fun _ _ => failure?_bind_pure, h a List.mem_cons_self,
      ih fun b hb => h b (List.mem_cons_of_mem a hb), List.any_cons]
    cases holds a <;> rfl

/-- Of columns with distinct names each is found under its own. -/
theorem lookup_columns {columns : List Column} (hnames : (columns.map Column.name).Nodup)
    (cell : Column → Value) {c : Column} (hc : c ∈ columns) :
    List.lookup c.name (columns.map fun c => (c.name, cell c)) = some (cell c) := by
  induction columns with
  | nil => cases hc
  | cons first others ih =>
    rw [List.map_cons, List.nodup_cons] at hnames
    rw [List.map_cons, List.lookup_cons]
    rcases List.mem_cons.1 hc with rfl | hc
    · rw [beq_self_eq_true]
    · have hne : c.name ≠ first.name := fun h => hnames.1 (h ▸ List.mem_map_of_mem hc)
      rw [beq_false_of_ne hne]
      exact ih hnames.2 hc

/-- The stored cell of a column. -/
theorem cell_conformRow {schema : Schema} {c : Column} (hc : c ∈ schema.columns) (row : Row) :
    (conformRow schema row).cell c.name = c.type.conform (row.cell c.name) := by
  have hlookup := lookup_columns schema.distinct_names (fun c => c.type.conform (row.cell c.name)) hc
  rw [Row.cell, Fields.get?, conformRow, hlookup, Option.getD_some]

theorem rowTuple_failure? (schema : Schema) (row : Row) :
    failure? (rowTuple schema.columnNames (conformRow schema row))
      = nulFailure? (row.holdsNul schema) := by
  rw [rowTuple, failure?_bind_pure, Schema.columnNames, List.mapM_map]
  refine mapM_failure? fun c hc => ?_
  rw [Function.comp_apply, cell_conformRow hc, conform_failure?]

/-- A batch is written unless one of its rows holds a NUL in a column of texts. -/
theorem insertStatement_failure? {physical : String} {schema : Schema}
    (hphysical : IsSqlName physical) (hnames : ∀ c ∈ schema.columns, IsSqlName c.name)
    {batch : List Row} (hne : batch ≠ []) :
    failure? (insertStatement physical schema.columnNames (batch.map (conformRow schema)))
      = nulFailure? (batch.any (Row.holdsNul schema)) := by
  obtain ⟨table, htable⟩ := succeeds_sqlName.2 hphysical
  obtain ⟨names, hquoted⟩ : Succeeds (schema.columnNames.mapM sqlName) :=
    succeeds_mapM.2 (List.forall_mem_map.2 fun c hc => succeeds_sqlName.2 (hnames c hc))
  have htuples : failure? ((batch.map (conformRow schema)).mapM (rowTuple schema.columnNames))
      = nulFailure? (batch.any (Row.holdsNul schema)) := by
    rw [List.mapM_map]
    exact mapM_failure? fun row _ => rowTuple_failure? schema row
  have hempty : (batch.map (conformRow schema)).isEmpty = false := by
    simpa using hne
  rw [insertStatement, hempty, hquoted, htable]
  exact failure?_bind_pure.trans htuples

end MetricLayer
