import MetricLayer.Proofs.Number.Shortest
import MetricLayer.Proofs.Sql.Numerals

/-!
# Doubles read back

The text of a finite double is a numeral (`signedNumeral_floatText`), and read as a decimal it is
the shortest one that rounds to the double (`readUnsigned?_magnitudeText`).  So finite doubles with
one text are one double (`floatText_finite_inj`).
-/

namespace MetricLayer.Number

open Sql

/-! ## Reading numerals -/

theorem digitValue_of_isDigit {c : Char} (h : c.isDigit = true) : digitValue c = c.toNat - 48 := by
  have hlt : c.toNat < 58 := by
    rw [Char.isDigit, Bool.and_eq_true, decide_eq_true_eq, decide_eq_true_eq] at h
    exact Nat.lt_succ_of_le (UInt32.le_iff_toNat_le.1 h.2)
  rw [digitValue, if_pos hlt]

/-- ASCII digits read as the number that they spell. -/
theorem readDecimal?_digits {ds : List Char} (hd : IsDigits ds) :
    readDecimal? ds = some (digitsValue 10 ds) := by
  have key : ∀ cs : List Char, (∀ c ∈ cs, c.isDigit = true) → ∀ n : Nat,
      cs.foldl (fun n c => n.bind fun n =>
        if c.isDigit then some (10 * n + (c.toNat - 48)) else none) (some n)
        = some (digitsValueFrom 10 n cs) := by
    intro cs hcs
    induction cs with
    | nil => exact fun n => rfl
    | cons c cs ih =>
      intro n
      have hc := hcs c List.mem_cons_self
      rw [List.foldl_cons, Option.bind_some, if_pos hc, ← digitValue_of_isDigit hc,
        ih fun d hd => hcs d (List.mem_cons_of_mem _ hd)]
      rfl
  obtain ⟨d, ds, rfl⟩ := List.exists_cons_of_ne_nil hd.1
  exact key (d :: ds) hd.2 0

theorem takeWhile_digits {ws : List Char} (hw : ∀ c ∈ ws, c.isDigit = true) (rest : List Char)
    (hrest : ∀ c ∈ rest.head?, c.isDigit = false) :
    (ws ++ rest).takeWhile Char.isDigit = ws ∧ (ws ++ rest).dropWhile Char.isDigit = rest := by
  rw [List.takeWhile_append_of_pos hw, List.dropWhile_append_of_pos hw]
  cases rest with
  | nil => simp
  | cons c rest =>
    have hc := hrest c rfl
    rw [List.takeWhile_cons_of_neg (by simp [hc]), List.dropWhile_cons_of_neg (by simp [hc])]
    simp

/-- Digits with a point among them. -/
theorem readUnsigned?_point (ws fs : List Char) (h : IsDigits (ws ++ fs)) :
    readUnsigned? (ws ++ '.' :: fs) = some ⟨digitsValue 10 (ws ++ fs), -(fs.length : Int)⟩ := by
  have hw : ∀ c ∈ ws, c.isDigit = true := fun c hc => h.2 c (List.mem_append_left _ hc)
  have hf : ∀ c ∈ fs, c.isDigit = true := fun c hc => h.2 c (List.mem_append_right _ hc)
  have hwhole := takeWhile_digits hw ('.' :: fs) (by rintro _ ⟨⟩; decide)
  have hfraction := takeWhile_digits hf [] (by simp)
  rw [List.append_nil] at hfraction
  simp only [readUnsigned?, hwhole.1, List.drop_left, hfraction.1, hfraction.2,
    readDecimal?_digits h]
  simp

/-- Digits alone. -/
theorem readUnsigned?_whole {ds : List Char} (h : IsDigits ds) :
    readUnsigned? ds = some ⟨digitsValue 10 ds, 0⟩ := by
  have hwhole := (takeWhile_digits h.2 [] (by simp)).1
  rw [List.append_nil] at hwhole
  simp [readUnsigned?, hwhole, readDecimal?_digits h]

/-- A first digit, other digits after a point, and a power of ten. -/
theorem readUnsigned?_power {mark d : Char} {fs xs : List Char} (hmark : mark = 'e' ∨ mark = 'E')
    (h : IsDigits (d :: fs)) (hx : IsDigits xs) (negative : Bool) :
    readUnsigned? ([d] ++ (if fs.isEmpty then [] else '.' :: fs)
        ++ ([mark, if negative then '-' else '+'] ++ xs))
      = some ⟨digitsValue 10 (d :: fs),
          (if negative then -(digitsValue 10 xs : Int) else digitsValue 10 xs) - fs.length⟩ := by
  have hd : ∀ c ∈ [d], c.isDigit = true :=
    fun c hc => h.2 c (List.mem_cons.2 (.inl (by simpa using hc)))
  have hf : ∀ c ∈ fs, c.isDigit = true := fun c hc => h.2 c (List.mem_cons_of_mem _ hc)
  have htail : ∀ sign, ∀ c ∈ (mark :: sign :: xs).head?, c.isDigit = false := by
    rintro sign _ ⟨⟩
    rcases hmark with rfl | rfl <;> decide
  have hpoint : mark ≠ '.' := by rcases hmark with rfl | rfl <;> decide
  have hvalue := readDecimal?_digits h
  have hpower := readDecimal?_digits hx
  cases fs with
  | nil =>
    have hwhole := fun sign => (takeWhile_digits hd _ (htail sign)).1
    simp only [List.cons_append, List.nil_append] at hwhole
    cases negative with
    | true => simp [readUnsigned?, hwhole, hvalue, hpower, hmark, hpoint]
    | false => simp [readUnsigned?, hwhole, hvalue, hpower, hmark, hpoint]
  | cons f fs =>
    have hwhole := fun rest => (takeWhile_digits hd ('.' :: rest) (by rintro _ ⟨⟩; decide)).1
    have hfraction := fun sign => takeWhile_digits hf _ (htail sign)
    simp only [List.cons_append, List.nil_append] at hwhole hfraction
    cases negative with
    | true => simp [readUnsigned?, hwhole, hfraction, hvalue, hpower, hmark]
    | false => simp [readUnsigned?, hwhole, hfraction, hvalue, hpower, hmark]

/-! ## The layout of digits -/

theorem isDigits_padZeros {ds : List Char} (hd : IsDigits ds) (width : Nat) :
    IsDigits (padZeros width ds) :=
  isDigits_zeros_append hd _

/-- The text of the positive decimal with these digits is a numeral. -/
theorem isNumeral_layoutDigits {ds : List Char} (hd : IsDigits ds) (point : Int) :
    IsNumeral (layoutDigits ds point).toList := by
  simp only [layoutDigits]
  split
  · -- the first digit, the other digits after a point, and a power of ten
    obtain ⟨d, fs, rfl⟩ := List.exists_cons_of_ne_nil hd.1
    have hmantissa : IsMantissa ([d] ++ if fs.isEmpty then [] else '.' :: fs) := by
      cases fs with
      | nil => exact .whole hd
      | cons f fs => exact .point [d] _ hd
    have hpower := isDigits_padZeros (isDigits_decimalChars (point - 1).natAbs) 2
    have hexponent : IsExponent ('e' :: ([if point - 1 < 0 then '-' else '+']
        ++ padZeros 2 (decimalChars (point - 1).natAbs))) := by
      refine .power (.inl rfl) ?_ hpower
      split
      · exact .inr (.inr rfl)
      · exact .inr (.inl rfl)
    rw [String.toList_ofList]
    exact ⟨_, _, hmantissa, hexponent, by simp⟩
  · split
    · rw [String.toList_ofList]
      exact (isMantissa_before hd _).isNumeral
    · split
      · rw [String.toList_ofList]
        exact (IsMantissa.point _ ['0']
          (isDigits_append_zeros (isDigits_append_zeros hd _) 1)).isNumeral
      · rw [String.toList_ofList]
        exact (isMantissa_among hd _).isNumeral

/-- Digits remain when the zeros at the end are dropped, if one is not zero. -/
theorem isDigits_dropTrailingZeros {ds : List Char} (hd : ∀ c ∈ ds, c.isDigit = true)
    (hne : ∃ c ∈ ds, c ≠ '0') : IsDigits (dropTrailingZeros ds) := by
  constructor
  · intro hnil
    obtain ⟨c, hc, hzero⟩ := hne
    rw [dropTrailingZeros, List.reverse_eq_nil_iff, List.dropWhile_eq_nil_iff] at hnil
    exact hzero (by simpa using hnil c (by simpa using hc))
  · intro c hc
    refine hd c ?_
    rw [dropTrailingZeros, List.mem_reverse] at hc
    exact List.mem_reverse.1 ((List.dropWhile_sublist _).subset hc)

/-- A text of digits with a point reads back as the number that they spell, the point put in. -/
theorem readUnsigned?_layoutDigits {ds : List Char} (hd : IsDigits ds) (point : Int) :
    ∃ d, readUnsigned? (layoutDigits ds point).toList = some d ∧
      d.value = digitsValue 10 ds * 10 ^ (point - ds.length) := by
  simp only [layoutDigits]
  split
  · -- a power of ten
    obtain ⟨d, fs, rfl⟩ := List.exists_cons_of_ne_nil hd.1
    have hx := isDigits_padZeros (isDigits_decimalChars (point - 1).natAbs) 2
    have hread := readUnsigned?_power (.inl rfl) hd hx (decide (point - 1 < 0))
    have hnat : digitsValue 10 (padZeros 2 (decimalChars (point - 1).natAbs))
        = (point - 1).natAbs := by
      rw [digitsValue_padZeros, decimalChars, digitsValue_digits (by decide) (by decide)]
    have hexp : (if decide (point - 1 < 0) then -((point - 1).natAbs : Int)
        else (point - 1).natAbs) = point - 1 := by
      by_cases hneg : point - 1 < 0
      · rw [if_pos (by simpa using hneg)]
        omega
      · rw [if_neg (by simpa using hneg)]
        omega
    rw [hnat, hexp] at hread
    refine ⟨_, (congrArg readUnsigned? ?_).trans hread, ?_⟩
    · simp
    · rw [DecimalForm.value_mk, List.length_cons]
      congr 2
      push_cast
      ring
  · split
    · -- zeros before the digits
      have hread := readUnsigned?_point ['0'] _
        (isDigits_append (by simp) (isDigits_zeros_append hd (-point).toNat))
      have hvalue : digitsValue 10 (['0'] ++ (List.replicate (-point).toNat '0' ++ ds))
          = digitsValue 10 ds := by
        rw [← digitsValue_zeros_append (-point).toNat ds]
        exact digitsValue_zeros_append 1 _
      refine ⟨_, (congrArg readUnsigned? ?_).trans hread, ?_⟩
      · simp
      · rw [hvalue, DecimalForm.value_mk, List.length_append, List.length_replicate]
        congr 2
        omega
    · split
      · -- zeros behind the digits
        have hread := readUnsigned?_point _ ['0']
          (isDigits_append_zeros (isDigits_append_zeros hd (point.toNat - ds.length)) 1)
        have hvalue : digitsValue 10 (ds ++ List.replicate (point.toNat - ds.length) '0' ++ ['0'])
            = digitsValue 10 ds * 10 ^ (point.toNat - ds.length + 1) := by
          rw [Nat.pow_succ, ← Nat.mul_assoc, ← digitsValue_append_zeros]
          exact digitsValue_append_zeros 1 _
        refine ⟨_, (congrArg readUnsigned? ?_).trans hread, ?_⟩
        · simp
        · rw [hvalue, DecimalForm.value_mk, Nat.cast_mul, Nat.cast_pow, mul_assoc, Nat.cast_ofNat,
            ← zpow_natCast, ← zpow_add₀ (by norm_num), List.length_singleton]
          congr 2
          omega
      · -- the point among the digits
        have hread := readUnsigned?_point (ds.take point.toNat) (ds.drop point.toNat)
          (by rwa [List.take_append_drop])
        refine ⟨_, (congrArg readUnsigned? ?_).trans hread, ?_⟩
        · simp
        · rw [List.take_append_drop, DecimalForm.value_mk, List.length_drop]
          congr 2
          omega

/-- Digits are laid out with a point or a power of ten. -/
theorem layoutDigits_marked (ds : List Char) (point : Int) :
    ∃ c ∈ (layoutDigits ds point).toList, c = '.' ∨ c = 'e' := by
  simp only [layoutDigits]
  split
  · exact ⟨'e', by simp, .inr rfl⟩
  · split
    · exact ⟨'.', by simp, .inl rfl⟩
    · split
      · exact ⟨'.', by simp, .inl rfl⟩
      · exact ⟨'.', by simp, .inl rfl⟩

/-! ## The text of a magnitude -/

theorem exists_decimalChars_ne_zero {n : Nat} (hn : n ≠ 0) : ∃ c ∈ decimalChars n, c ≠ '0' := by
  obtain ⟨d, hd, hne⟩ := exists_digit_ne_zero [] hn Nat.lt_log2_self
  refine ⟨digitChar d, List.mem_map_of_mem hd, digitChar_ne_zero ?_ hne⟩
  exact digits_lt (by decide) d hd

theorem exists_dropTrailingZeros (ds : List Char) :
    ∃ k, ds = dropTrailingZeros ds ++ List.replicate k '0' := by
  refine ⟨(ds.reverse.takeWhile (· = '0')).length, ?_⟩
  have hzeros : ds.reverse.takeWhile (· = '0')
      = List.replicate (ds.reverse.takeWhile (· = '0')).length '0' :=
    List.eq_replicate_of_mem fun c hc => by simpa using List.mem_takeWhile_imp hc
  have hsplit := congrArg List.reverse
    (List.takeWhile_append_dropWhile (p := fun c : Char => decide (c = '0')) (l := ds.reverse))
  rw [List.reverse_append, List.reverse_reverse] at hsplit
  calc ds = _ := hsplit.symm
    _ = _ := by
      rw [dropTrailingZeros]
      conv_lhs => rw [hzeros, List.reverse_replicate]

/-- The text of a positive double reads back as its shortest decimal. -/
theorem readUnsigned?_shortest {b : Binary} (hb : b.mantissa ≠ 0) :
    ∃ d, readUnsigned? (layoutDigits (dropTrailingZeros (decimalChars b.shortest.significand))
        (b.shortest.exponent + (decimalChars b.shortest.significand).length)).toList = some d ∧
      d.value = b.shortest.value := by
  have hne := exists_decimalChars_ne_zero (Binary.shortest_significand_ne_zero hb)
  have hdigits := isDigits_dropTrailingZeros (isDigits_decimalChars _).2 hne
  obtain ⟨d, hread, hvalue⟩ := readUnsigned?_layoutDigits hdigits
    (b.shortest.exponent + (decimalChars b.shortest.significand).length)
  refine ⟨d, hread, hvalue.trans ?_⟩
  obtain ⟨k, hk⟩ := exists_dropTrailingZeros (decimalChars b.shortest.significand)
  have hspelled : b.shortest.significand
      = digitsValue 10 (dropTrailingZeros (decimalChars b.shortest.significand)) * 10 ^ k := by
    rw [← digitsValue_append_zeros, ← hk, decimalChars, digitsValue_digits (by decide) (by decide)]
  have hlength : (decimalChars b.shortest.significand).length
      = (dropTrailingZeros (decimalChars b.shortest.significand)).length + k := by
    conv_lhs => rw [hk]
    simp
  rw [DecimalForm.value, hlength]
  conv_rhs => rw [hspelled]
  rw [Nat.cast_mul, Nat.cast_pow, Nat.cast_ofNat, mul_assoc, ← zpow_natCast,
    ← zpow_add₀ (by norm_num)]
  congr 2
  push_cast
  ring

/-- The text of a finite double without its sign. -/
def magnitudeText (magnitude : Nat) : String :=
  if magnitude = 0 then "0.0"
  else
    let form := (Binary.ofBits magnitude).shortest
    let ds := decimalChars form.significand
    layoutDigits (dropTrailingZeros ds) (form.exponent + ds.length)

/-- The text of a magnitude is a numeral. -/
theorem isNumeral_magnitudeText {magnitude : Nat} (h : magnitude < 0x7FF0000000000000) :
    IsNumeral (magnitudeText magnitude).toList := by
  rw [magnitudeText]
  split
  · exact (IsMantissa.point ['0'] ['0'] (isDigits_of_all (by decide))).isNumeral
  · next hne =>
    have hmantissa := Binary.ofBits_mantissa_ne_zero hne (by rw [Binary.pow2_63]; omega)
    exact isNumeral_layoutDigits (isDigits_dropTrailingZeros (isDigits_decimalChars _).2
      (exists_decimalChars_ne_zero (Binary.shortest_significand_ne_zero hmantissa))) _

theorem magnitudeText_marked (magnitude : Nat) :
    ∃ c ∈ (magnitudeText magnitude).toList, c = '.' ∨ c = 'e' := by
  rw [magnitudeText]
  split
  · exact ⟨'.', by decide, .inl rfl⟩
  · exact layoutDigits_marked _ _

/-- The text of a finite double reads back as a decimal that rounds to it. -/
theorem readUnsigned?_magnitudeText {magnitude : Nat} (h : magnitude < 0x7FF0000000000000) :
    ∃ d, readUnsigned? (magnitudeText magnitude).toList = some d ∧
      (Binary.ofBits magnitude).RoundsTo d.value := by
  rw [magnitudeText]
  split
  · next hzero =>
    subst hzero
    refine ⟨⟨0, -1⟩, by decide, ?_⟩
    have heven : (Binary.ofBits 0).mantissa % 2 = 0 := Binary.ofBits_mantissa_mod_two 0
    have hlow : (Binary.ofBits 0).lowerQuarters = 0 := by decide
    rw [Binary.RoundsTo, if_pos heven, Binary.lower, hlow, Nat.cast_zero, zero_mul,
      DecimalForm.value_mk, Nat.cast_zero, zero_mul]
    refine ⟨le_refl _, mul_nonneg (Nat.cast_nonneg _) (Binary.unit_pos _).le⟩
  · next hne =>
    have hmantissa := Binary.ofBits_mantissa_ne_zero hne (by rw [Binary.pow2_63]; omega)
    obtain ⟨d, hread, hvalue⟩ := readUnsigned?_shortest hmantissa
    refine ⟨d, hread, ?_⟩
    rw [hvalue]
    exact Binary.roundsTo_shortest hmantissa

/-- Different finite magnitudes have different texts. -/
theorem magnitudeText_injective {m n : Nat} (hm : m < 0x7FF0000000000000)
    (hn : n < 0x7FF0000000000000) (h : magnitudeText m = magnitudeText n) : m = n := by
  obtain ⟨d, hread, hround⟩ := readUnsigned?_magnitudeText hm
  obtain ⟨e, hread', hround'⟩ := readUnsigned?_magnitudeText hn
  rw [h, hread'] at hread
  cases hread
  exact Binary.ofBits_eq_of_roundsTo hm hn hround hround'

/-! ## The text of a double -/

/-- The bits of a double without its sign. -/
def magnitude (x : Float) : Nat := x.toBits.toNat % pow2 63

/-- The sign of a double as a text. -/
def signText (x : Float) : String := if x.toBits.toNat < pow2 63 then "" else "-"

theorem textOfBits_finite {bits : Nat} (h : bits % pow2 63 < 0x7FF0000000000000) :
    textOfBits bits = (if bits < pow2 63 then "" else "-") ++ magnitudeText (bits % pow2 63) := by
  rw [textOfBits, magnitudeText]
  simp only [if_neg (Nat.lt_asymm h), if_neg (Nat.ne_of_lt h)]
  by_cases hzero : bits % pow2 63 = 0
  · rw [if_pos hzero, if_pos hzero]
  · rw [if_neg hzero, if_neg hzero]

theorem floatText_finite {x : Float} (h : magnitude x < 0x7FF0000000000000) :
    floatText x = signText x ++ magnitudeText (magnitude x) :=
  textOfBits_finite h

theorem floatText_infinite {x : Float} (h : magnitude x = 0x7FF0000000000000) :
    floatText x = signText x ++ "inf" := by
  have hbits : x.toBits.toNat % pow2 63 = 0x7FF0000000000000 := h
  simp [floatText, textOfBits, hbits, signText]

theorem floatText_nan {x : Float} (h : 0x7FF0000000000000 < magnitude x) : floatText x = "nan" :=
  if_pos h

theorem eq_of_toBits {x y : Float} (h : x.toBits = y.toBits) : x = y := by
  obtain ⟨⟨bits, hx⟩⟩ := x
  obtain ⟨⟨bits', hy⟩⟩ := y
  obtain rfl : bits = bits' := h
  rfl

theorem eq_of_magnitude {x y : Float} (hsign : signText x = signText y)
    (h : magnitude x = magnitude y) : x = y := by
  apply eq_of_toBits
  apply UInt64.toNat_inj.1
  have hx := x.toBits.toNat_lt
  have hy := y.toBits.toNat_lt
  simp only [magnitude, signText, Binary.pow2_63] at h hsign
  by_cases hx' : x.toBits.toNat < 9223372036854775808
  · by_cases hy' : y.toBits.toNat < 9223372036854775808
    · omega
    · rw [if_pos hx', if_neg hy'] at hsign
      exact absurd hsign (by decide)
  · by_cases hy' : y.toBits.toNat < 9223372036854775808
    · rw [if_neg hx', if_pos hy'] at hsign
      exact absurd hsign (by decide)
    · omega

/-- There is one NaN. -/
theorem eq_of_nan {x y : Float} (hx : 0x7FF0000000000000 < magnitude x)
    (hy : 0x7FF0000000000000 < magnitude y) : x = y := by
  have key : ∀ z : Float, 0x7FF0000000000000 < magnitude z →
      z.toModel.toBits.toBitVec = Float.Model.UnpackedFloat.packedNaN .binary64 := by
    intro z hz
    have hdef : z.toBits.toNat = z.toModel.toBits.toNat := rfl
    have hlt := z.toBits.toNat_lt
    simp only [magnitude, Binary.pow2_63] at hz
    refine z.toModel.valid.eq_packedNaN ?_ ?_
    · have hbits : z.toModel.toBits.toNat / 4503599627370496 % 2048 = 2047 := by omega
      apply BitVec.eq_of_toNat_eq
      simpa [Float.Model.UnpackedFloat.unpackExponent, BitVec.extractLsb, BitVec.extractLsb',
        Nat.shiftRight_eq_div_pow] using hbits
    · intro hzero
      have hbits : z.toModel.toBits.toNat % 4503599627370496 ≠ 0 := by omega
      apply hbits
      simpa [Float.Model.UnpackedFloat.unpackMantissa, BitVec.extractLsb, BitVec.extractLsb',
        Nat.shiftRight_eq_div_pow] using congrArg BitVec.toNat hzero
  apply eq_of_toBits
  apply UInt64.toBitVec_inj.1
  exact (key x hx).trans (key y hy).symm

theorem signText_cases (x : Float) : signText x = "" ∨ signText x = "-" := by
  rw [signText]
  split
  · exact .inl rfl
  · exact .inr rfl

/-- A sign before texts without one is part of neither. -/
theorem signText_append_inj {x y : Float} {s t : String} (hs : s.toList.head? ≠ some '-')
    (ht : t.toList.head? ≠ some '-') (h : signText x ++ s = signText y ++ t) :
    signText x = signText y ∧ s = t := by
  have hchars := congrArg String.toList h
  rw [String.toList_append, String.toList_append] at hchars
  rcases signText_cases x with hx | hx <;> rcases signText_cases y with hy | hy <;>
    rw [hx, hy] at hchars ⊢
  · exact ⟨rfl, String.toList_inj.1 hchars⟩
  · exact absurd (congrArg List.head? hchars) hs
  · exact absurd (congrArg List.head? hchars).symm ht
  · exact ⟨rfl, String.toList_inj.1 (List.cons.inj hchars).2⟩

theorem head?_magnitudeText {magnitude : Nat} (h : magnitude < 0x7FF0000000000000) :
    (magnitudeText magnitude).toList.head? ≠ some '-' := by
  obtain ⟨m, x, hm, -, htext⟩ := isNumeral_magnitudeText h
  obtain ⟨c, cs, rfl, hc⟩ := hm.head
  rw [htext, List.cons_append, List.head?_cons]
  rintro ⟨⟩
  revert hc
  decide

/-- Different finite doubles have different texts. -/
theorem floatText_finite_inj {x y : Float} (hx : magnitude x < 0x7FF0000000000000)
    (hy : magnitude y < 0x7FF0000000000000) (h : floatText x = floatText y) : x = y := by
  rw [floatText_finite hx, floatText_finite hy] at h
  obtain ⟨hsign, htext⟩ := signText_append_inj (head?_magnitudeText hx) (head?_magnitudeText hy) h
  exact eq_of_magnitude hsign (magnitudeText_injective hx hy htext)

/-- The text of a finite double is no text that cannot be read. -/
theorem floatText_ne {x : Float} (hx : magnitude x < 0x7FF0000000000000) {s : String}
    (hs : readUnsigned? s.toList = none) (hs' : readUnsigned? (s.toList.drop 1) = none) :
    floatText x ≠ s := by
  rintro rfl
  obtain ⟨d, hread, -⟩ := readUnsigned?_magnitudeText hx
  rw [floatText_finite hx, String.toList_append] at hs hs'
  rcases signText_cases x with hsign | hsign <;> rw [hsign] at hs hs'
  · exact absurd (hread.symm.trans hs) (by simp)
  · exact absurd (hread.symm.trans hs') (by simp)

/-- The bits of a finite double, sign aside, are below those of infinity. -/
theorem magnitude_lt_of_isFinite {x : Float} (h : x.isFinite = true) :
    magnitude x < 0x7FF0000000000000 := by
  rw [magnitude, Binary.pow2_63]
  by_contra hge
  have hexponent : @Float.Model.UnpackedFloat.unpackExponent .binary64
      x.toModel.toBits.toBitVec = -1#_ := by
    have hbits : x.toModel.toBits.toNat / 4503599627370496 % 2048 = 2047 := by
      have hdef : x.toBits.toNat = x.toModel.toBits.toNat := rfl
      omega
    apply BitVec.eq_of_toNat_eq
    simpa [Float.Model.UnpackedFloat.unpackExponent, BitVec.extractLsb, BitVec.extractLsb',
      Nat.shiftRight_eq_div_pow] using hbits
  have hunpack : x.toModel.unpack.isFinite = false := by
    delta Float.Model.unpack Float.Model.UnpackedFloat.unpack
    rw [if_pos hexponent]
    split <;> rfl
  rw [Float.isFinite, Float.Model.isFinite, hunpack] at h
  cases h

theorem signedNumeral_of_magnitude {x : Float} (h : magnitude x < 0x7FF0000000000000) :
    IsSignedNumeral (floatText x) := by
  have htext := isNumeral_magnitudeText h
  rw [floatText_finite h]
  rcases signText_cases x with hsign | hsign <;> rw [hsign]
  · exact htext.signed false
  · exact htext.signed true

/-- The text of a finite double is a numeral, possibly after a minus. -/
theorem signedNumeral_floatText {x : Float} (h : x.isFinite = true) :
    IsSignedNumeral (floatText x) :=
  signedNumeral_of_magnitude (magnitude_lt_of_isFinite h)

end MetricLayer.Number
