import MetricLayer.Catalog.Record
import MetricLayer.Number.Digits
import Mathlib.Tactic

/-!
# Reading digits back

The digits of a number spell it (`digitsValue_digits`), also with zeros in front of them
(`digitsValue_padZeros`).  So numbers with one text are one number: the decimal texts of numbers
differ (`decimalChars_injective`), and so do the ids of records (`recordId_injective`).
-/

namespace MetricLayer.Number

variable {base : Nat}

/-! ## Which digits there are -/

theorem isDigit_digitChar {d : Nat} (h : d < 10) : (digitChar d).isDigit = true := by
  interval_cases d <;> decide

theorem digitChar_ne_zero {d : Nat} (h : d < 10) (hd : d ≠ 0) : digitChar d ≠ '0' := by
  interval_cases d
  · exact absurd rfl hd
  all_goals decide

theorem digitsAux_lt {fuel n : Nat} {tail : List Nat} (hbase : 0 < base)
    (htail : ∀ d ∈ tail, d < base) : ∀ d ∈ digitsAux base fuel n tail, d < base := by
  induction fuel generalizing n tail with
  | zero => exact htail
  | succ fuel ih =>
    rw [digitsAux]
    split
    · next hn =>
      intro d hd
      rcases List.mem_cons.1 hd with rfl | hd
      · exact hn
      · exact htail d hd
    · refine ih fun d hd => ?_
      rcases List.mem_cons.1 hd with rfl | hd
      · exact Nat.mod_lt _ hbase
      · exact htail d hd

theorem digits_lt {n : Nat} (hbase : 0 < base) : ∀ d ∈ digits base n, d < base :=
  digitsAux_lt hbase (by simp)

theorem digitsAux_length (base fuel n : Nat) (tail : List Nat) :
    tail.length ≤ (digitsAux base fuel n tail).length := by
  induction fuel generalizing n tail with
  | zero => exact Nat.le_refl _
  | succ fuel ih =>
    rw [digitsAux]
    split
    · simp
    · exact Nat.le_trans (by simp) (ih (n / base) (n % base :: tail))

/-- A number below a power of the base has no more digits than the power. -/
theorem digitsAux_length_le {fuel n k : Nat} (tail : List Nat) (hn : n < base ^ k)
    (hk : k ≠ 0) : (digitsAux base fuel n tail).length ≤ k + tail.length := by
  induction fuel generalizing n k tail with
  | zero => exact Nat.le_add_left _ _
  | succ fuel ih =>
    rw [digitsAux]
    split_ifs with hsmall
    · rw [List.length_cons]
      omega
    · obtain ⟨k, rfl⟩ := Nat.exists_eq_succ_of_ne_zero hk
      have hquotient : n / base < base ^ k := by
        rw [Nat.pow_succ] at hn
        exact Nat.div_lt_of_lt_mul (by rwa [Nat.mul_comm])
      have hk : k ≠ 0 := by
        rintro rfl
        rw [Nat.pow_one] at hn
        exact hsmall hn
      have hlength := ih (n % base :: tail) hquotient hk
      rw [List.length_cons] at hlength
      omega

theorem digits_ne_nil (base n : Nat) : digits base n ≠ [] := by
  rw [digits, digitsAux]
  split
  · simp
  · intro hnil
    have hlen := digitsAux_length base n.log2 (n / base) [n % base]
    rw [hnil] at hlen
    simp at hlen

/-- The first digit of a positive number is not zero. -/
theorem exists_digit_ne_zero {fuel n : Nat} (tail : List Nat) (hn : n ≠ 0) (hfuel : n < 2 ^ fuel) :
    ∃ d ∈ digitsAux 10 fuel n tail, d ≠ 0 := by
  induction fuel generalizing n tail with
  | zero => omega
  | succ fuel ih =>
    rw [digitsAux]
    split
    · exact ⟨n, by simp, hn⟩
    · refine ih (n % 10 :: tail) (by omega) ?_
      rw [Nat.pow_succ] at hfuel
      omega

/-! ## What digits spell -/

/-- The value of a digit. -/
def digitValue (c : Char) : Nat := if c.toNat < 58 then c.toNat - 48 else c.toNat - 87

/-- The number that digits spell in a base, after the digits of `n`. -/
def digitsValueFrom (base n : Nat) (cs : List Char) : Nat :=
  cs.foldl (fun n c => base * n + digitValue c) n

/-- The number that digits spell in a base. -/
def digitsValue (base : Nat) (cs : List Char) : Nat := digitsValueFrom base 0 cs

theorem digitValue_digitChar {d : Nat} (h : d < 16) : digitValue (digitChar d) = d := by
  revert d
  decide

/-- More digits come before the digits that were there. -/
theorem digitsAux_eq_append (fuel n : Nat) (tail : List Nat) :
    digitsAux base fuel n tail = digitsAux base fuel n [] ++ tail := by
  induction fuel generalizing n tail with
  | zero => rfl
  | succ fuel ih =>
    rw [digitsAux, digitsAux]
    split_ifs
    · rfl
    · rw [ih, ih _ [n % base], List.append_assoc, List.singleton_append]

theorem digitsValueFrom_append (n : Nat) (cs ds : List Char) :
    digitsValueFrom base n (cs ++ ds) = digitsValueFrom base (digitsValueFrom base n cs) ds :=
  List.foldl_append

theorem digitsValue_digitsAux (hbase : 2 ≤ base) (hle : base ≤ 16) {fuel n : Nat}
    (hn : n < base ^ fuel) : digitsValue base ((digitsAux base fuel n []).map digitChar) = n := by
  induction fuel generalizing n with
  | zero =>
    rw [Nat.pow_zero, Nat.lt_one_iff] at hn
    rw [hn]
    rfl
  | succ fuel ih =>
    rw [digitsAux]
    split_ifs with hsmall
    · show base * 0 + digitValue (digitChar n) = n
      rw [digitValue_digitChar (by omega)]
      omega
    · have hquotient : n / base < base ^ fuel := by
        rw [Nat.pow_succ] at hn
        exact Nat.div_lt_of_lt_mul (by rwa [Nat.mul_comm])
      have hrest : n % base < 16 := Nat.lt_of_lt_of_le (Nat.mod_lt n (by omega)) hle
      rw [digitsAux_eq_append, List.map_append, digitsValue, digitsValueFrom_append]
      show base * digitsValue base _ + digitValue (digitChar (n % base)) = n
      rw [ih hquotient, digitValue_digitChar hrest]
      exact Nat.div_add_mod n base

/-- The digits of a number spell it. -/
theorem digitsValue_digits (hbase : 2 ≤ base) (hle : base ≤ 16) (n : Nat) :
    digitsValue base ((digits base n).map digitChar) = n := by
  refine digitsValue_digitsAux hbase hle ?_
  calc n < 2 ^ (n.log2 + 1) := Nat.lt_log2_self
    _ ≤ base ^ (n.log2 + 1) := Nat.pow_le_pow_left hbase _

theorem digitsValueFrom_zeros (n k : Nat) :
    digitsValueFrom base n (List.replicate k '0') = n * base ^ k := by
  induction k generalizing n with
  | zero => exact (Nat.mul_one n).symm
  | succ k ih =>
    show digitsValueFrom base (base * n) (List.replicate k '0') = n * base ^ (k + 1)
    rw [ih, Nat.pow_succ]
    ring

theorem digitsValue_zeros_append (k : Nat) (cs : List Char) :
    digitsValue base (List.replicate k '0' ++ cs) = digitsValue base cs := by
  rw [digitsValue, digitsValueFrom_append, digitsValueFrom_zeros, Nat.zero_mul, digitsValue]

theorem digitsValue_append_zeros (k : Nat) (cs : List Char) :
    digitsValue base (cs ++ List.replicate k '0') = digitsValue base cs * base ^ k := by
  rw [digitsValue, digitsValueFrom_append, digitsValueFrom_zeros, digitsValue]

/-- Zeros in front of digits do not change what they spell. -/
theorem digitsValue_padZeros (width : Nat) (cs : List Char) :
    digitsValue base (padZeros width cs) = digitsValue base cs :=
  digitsValue_zeros_append _ cs

theorem decimalChars_injective {m n : Nat} (h : decimalChars m = decimalChars n) : m = n := by
  rw [← digitsValue_digits (by decide : 2 ≤ 10) (by decide) m,
    ← digitsValue_digits (by decide : 2 ≤ 10) (by decide) n]
  exact congrArg (digitsValue 10) h

theorem paddedHex_injective {width m n : Nat} (h : paddedHex width m = paddedHex width n) :
    m = n := by
  have hchars := congrArg (digitsValue 16) (String.ofList_inj.1 h)
  rwa [digitsValue_padZeros, digitsValue_padZeros, digitsValue_digits (by decide) (by decide),
    digitsValue_digits (by decide) (by decide)] at hchars

end MetricLayer.Number

namespace MetricLayer

open Number

/-- Two texts that go on with the same character are the same up to its first occurrence. -/
theorem append_cons_inj {α : Type} {x : α} {as bs cs ds : List α} (has : x ∉ as) (hbs : x ∉ bs)
    (h : as ++ x :: cs = bs ++ x :: ds) : as = bs ∧ cs = ds := by
  induction as generalizing bs with
  | nil =>
    cases bs with
    | nil => exact ⟨rfl, (List.cons.inj h).2⟩
    | cons b bs =>
      rw [(List.cons.inj h).1] at hbs
      exact absurd List.mem_cons_self hbs
  | cons a as ih =>
    cases bs with
    | nil =>
      rw [← (List.cons.inj h).1] at has
      exact absurd List.mem_cons_self has
    | cons b bs =>
      obtain ⟨rfl, htail⟩ := List.cons.inj h
      obtain ⟨rfl, hrest⟩ := ih (fun hmem => has (List.mem_cons_of_mem _ hmem))
        (fun hmem => hbs (List.mem_cons_of_mem _ hmem)) htail
      exact ⟨rfl, hrest⟩

/-- The digits of hexadecimal texts. -/
def hexChars : List Char := "0123456789abcdef".toList

theorem padZeros_hexChars (width n : Nat) :
    ∀ c ∈ padZeros width ((digits 16 n).map digitChar), c ∈ hexChars := by
  intro c hc
  rcases List.mem_append.1 hc with hc | hc
  · rw [List.eq_of_mem_replicate hc]
    decide
  · obtain ⟨d, hd, rfl⟩ := List.mem_map.1 hc
    have hlt := digits_lt (by decide) d hd
    interval_cases d <;> decide

theorem minus_notMem_padZeros (width n : Nat) :
    '-' ∉ padZeros width ((digits 16 n).map digitChar) :=
  fun hmem => absurd (padZeros_hexChars width n _ hmem) (by decide)

/-- Different records have different ids. -/
theorem recordId_injective {m n : Nat} (h : recordId m = recordId n) : m = n := by
  have hchars := congrArg String.toList h
  simp only [recordId, paddedHex, String.toList_append, String.toList_ofList, toString,
    List.append_assoc] at hchars
  have hmiddle : "-0000-4000-8000-".toList = '-' :: "0000-4000-8000-".toList := by decide
  rw [hmiddle, List.cons_append, List.cons_append] at hchars
  have hhead := append_cons_inj (minus_notMem_padZeros 8 m) (minus_notMem_padZeros 8 n) hchars
  exact paddedHex_injective (congrArg String.ofList hhead.1)

theorem recordId_ne_blank (n : Nat) : recordId n ≠ "" := by
  intro h
  have hchars := congrArg String.toList h
  simp only [recordId, toString, String.toList_append, String.toList_empty,
    List.append_eq_nil_iff] at hchars
  exact absurd hchars.1.2 (by decide)

end MetricLayer
