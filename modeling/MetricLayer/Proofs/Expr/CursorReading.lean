import MetricLayer.Proofs.Expr.Cursor
import MetricLayer.Proofs.Expr.Language

/-!
# The cursor reads what the reader reads

A reading with the cursor follows the reading of the tokens ahead of it (`Follows`): both are
refused for the same fault, or they give the same value, and then the tokens that are left are those
from the cursor on.  This is shown for one production after another (`expression_follows` and its
siblings), by the recursion of the cursor.  As the readings of the token list know no index, the
cursor never looks past the end mark, and it never passes the end mark either.
-/

namespace MetricLayer.Cursor

open MetricLayer.Parser MetricLayer.Text

variable {α β γ δ : Type} {low : Nat} {source : List Char} {ts rest : List Token} {i : Nat}

theorem ok_bind {ε : Type} (a : α) (f : α → Except ε β) : ((.ok a : Except ε α) >>= f) = f a := rfl

/-! ## Readings that agree -/

/-- The cursor stands at the end mark or before it, and the tokens ahead of it are those that are
left. -/
def Leaves (ts : List Token) (r : Read α low) (value : α) (rest : List Token) : Prop :=
  value = r.value ∧ r.next ≤ ts.length ∧ rest = ts.drop r.next

/-- A reading with the cursor does what a reading of the tokens ahead of it does: both refuse the
expression for the same fault, or they give the same value and leave the same tokens. -/
inductive Follows (ts : List Token) (value : β → α) (left : β → List Token) :
    Except Stop (Read α low) → Except ExprFault β → Prop
  | refused (fault : ExprFault) : Follows ts value left (.error (.refused fault)) (.error fault)
  | read {r : Read α low} {b : β} (h : Leaves ts r (value b) (left b)) :
      Follows ts value left (.ok r) (.ok b)

theorem Follows.bind {low' : Nat} {value : β → α} {left : β → List Token} {value' : δ → γ}
    {left' : δ → List Token} {x : Except Stop (Read α low)} {y : Except ExprFault β}
    {f : Read α low → Except Stop (Read γ low')} {g : β → Except ExprFault δ}
    (h : Follows ts value left x y)
    (hf : ∀ r b, value b = r.value → r.next ≤ ts.length → left b = ts.drop r.next →
      Follows ts value' left' (f r) (g b)) : Follows ts value' left' (x >>= f) (y >>= g) := by
  cases h with
  | refused fault => exact .refused fault
  | read h => exact hf _ _ h.1 h.2.1 h.2.2

/-- The tokens stand in the source where they say. -/
def InPlace (source : List Char) (ts : List Token) : Prop :=
  ∀ t ∈ ts, slice source t.pos t.stop = t.chars

/-! ## Looking at a token -/

theorem isKind_iff {kind : TokenKind} {o : Option Token} :
    isKind kind o = true ↔ ∃ t ∈ o, t.kind = kind := by
  cases o <;> simp [isKind]

theorem isKind_head {kind : TokenKind} {t : Token} {tail : List Token} :
    isKind kind (t :: tail).head? = true ↔ t.kind = kind := decide_eq_true_iff

theorem look_eq (hi : i ≤ ts.length) (hrest : rest = ts.drop i) :
    look ts i = .ok ⟨rest.head?, hi⟩ := by
  rw [look, dif_pos hi, hrest, List.head?_drop]

/-- What can be seen from an index that is not past the end mark. -/
theorem look_cases (hi : i ≤ ts.length) (hrest : rest = ts.drop i) :
    (rest = [] ∧ look ts i = .ok ⟨none, hi⟩ ∧ peek ts i = .ok none)
    ∨ ∃ t tail, rest = t :: tail ∧ tail = ts.drop (i + 1) ∧ i + 1 ≤ ts.length
      ∧ t ∈ ts ∧ look ts i = .ok ⟨some t, hi⟩ ∧ peek ts i = .ok tail.head? := by
  have hlook := look_eq hi hrest
  have hpeek : peek ts i = .ok (ts.drop (min (i + 1) ts.length)).head? := by
    rw [peek, look_eq (Nat.min_le_right _ _) rfl]
    rfl
  rcases Nat.lt_or_eq_of_le hi with hlt | rfl
  · have hcons : rest = ts[i] :: ts.drop (i + 1) := by rw [hrest, List.drop_eq_getElem_cons hlt]
    rw [Nat.min_eq_left hlt] at hpeek
    subst hcons
    exact .inr ⟨ts[i], ts.drop (i + 1), rfl, rfl, hlt, List.getElem_mem hlt, hlook, hpeek⟩
  · rw [Nat.min_eq_right (Nat.le_succ _), List.drop_length] at hpeek
    rw [List.drop_length] at hrest
    subst hrest
    exact .inl ⟨rfl, hlook, hpeek⟩

/-- A token that is ahead is within the list. -/
theorem drop_eq_cons {t : Token} {tail : List Token} (h : ts.drop i = t :: tail) :
    i + 1 ≤ ts.length ∧ tail = ts.drop (i + 1) := by
  constructor
  · by_contra hout
    rw [List.drop_eq_nil_of_le (by omega)] at h
    cases h
  · rw [← List.tail_drop, h, List.tail_cons]

/-- A closing parenthesis is passed, and anything else is refused. -/
theorem close_cases (source : List Char) (hi : i ≤ ts.length) (hrest : rest = ts.drop i) :
    (∃ t tail, rest = t :: tail ∧ t.kind = .rightParen ∧ tail = ts.drop (i + 1)
      ∧ i + 1 ≤ ts.length ∧ close source ts i = .ok ⟨t, i + 1, Nat.le_refl _⟩)
    ∨ ((∀ t ∈ rest.head?, t.kind ≠ .rightParen)
      ∧ close source ts i = .error (.refused (faultAt source.length .rightParen rest))) := by
  rcases look_cases hi hrest with ⟨rfl, hlook, -⟩ | ⟨t, tail, rfl, htail, hin, -, hlook, -⟩
  · refine .inr ⟨by simp, ?_⟩
    rw [close, hlook]
    rfl
  · by_cases ht : t.kind = .rightParen
    · refine .inl ⟨t, tail, rfl, ht, htail, hin, ?_⟩
      rw [close, hlook, ok_bind]
      exact if_pos ht
    · refine .inr ⟨by simpa using ht, ?_⟩
      rw [close, hlook, ok_bind]
      exact if_neg ht

/-! ## Names and plain text -/

/-- After a name comes no call, and more names may follow. -/
theorem lastName_name (finish : Nat) (last : Token) {t : Token} (ht : t.kind = .name)
    (tail : List Token) : lastName finish last (t :: tail)
      = if isKind .leftParen tail.head? then .error (faultAt finish .noCallAfterField [t])
        else do
          let c ← lastName finish t tail
          return ⟨c.value, c.rest, Nat.le_succ_of_le c.noLonger⟩ := by
  rw [lastName.eq_def]
  dsimp only
  rw [if_pos ht]
  cases tail with
  | nil => rfl
  | cons next others =>
    simp only [isKind, List.head?_cons, Option.any_some, decide_eq_true_eq]

theorem names_follows (source : List Char) (last : Token) {i : Nat} {rest : List Token}
    (hi : i ≤ ts.length) (hrest : rest = ts.drop i) :
    Follows ts Continuation.value Continuation.rest (names source ts last i)
      (lastName source.length last rest) := by
  rcases look_cases hi hrest with ⟨rfl, hlook, -⟩ | ⟨t, tail, rfl, htail, hin, -, hlook, hpeek⟩
  · rw [names, hlook, ok_bind, lastName]
    exact .read ⟨rfl, hi, hrest⟩
  · rw [names, hlook, ok_bind]
    dsimp only
    by_cases ht : t.kind = .name
    · rw [if_pos ht, hpeek, ok_bind, lastName_name _ _ ht]
      split
      · exact .refused _
      · exact (names_follows source t hin htail).bind fun more c hvalue hnext hleft =>
          .read ⟨hvalue, hnext, hleft⟩
    · rw [if_neg ht, lastName.eq_def]
      dsimp only
      rw [if_neg ht]
      exact .read ⟨rfl, hi, hrest⟩
termination_by ts.length + 1 - i

/-- The look-ahead stops at the first parenthesis or comma, or at the end mark. -/
theorem scan_eq {i : Nat} (hi : i ≤ ts.length) : ∃ r : Read (Option Token) i, scan ts i = .ok r
    ∧ r.next ≤ ts.length ∧ r.value = (ts.drop r.next).head?
    ∧ (ts.take r.next).drop i = (ts.drop i).takeWhile (!·.isDelimiter)
    ∧ ts.drop r.next = (ts.drop i).dropWhile (!·.isDelimiter) := by
  rcases look_cases hi rfl with ⟨hnil, hlook, -⟩ | ⟨t, tail, hcons, htail, hin, -, hlook, -⟩
  · refine ⟨⟨none, i, Nat.le_refl _⟩, ?_, hi, ?_, ?_, ?_⟩
    · rw [scan, hlook, ok_bind]
      rfl
    · rw [hnil]
      rfl
    · rw [hnil, List.drop_take_self]
      rfl
    · rw [hnil]
      rfl
  · cases ht : t.isDelimiter with
    | true =>
      refine ⟨⟨some t, i, Nat.le_refl _⟩, ?_, hi, ?_, ?_, ?_⟩
      · rw [scan, hlook, ok_bind]
        exact if_pos ht
      · rw [hcons]
        rfl
      · rw [hcons, List.drop_take_self, List.takeWhile_cons_of_neg (by simp [ht])]
      · rw [hcons, List.dropWhile_cons_of_neg (by simp [ht])]
    | false =>
      obtain ⟨r, hscan, hnext, hvalue, htake, hdrop⟩ := scan_eq hin
      refine ⟨⟨r.value, r.next, Nat.le_of_succ_le r.reached⟩, ?_, hnext, hvalue, ?_, ?_⟩
      · rw [scan, hlook, ok_bind]
        dsimp only
        rw [if_neg (by rw [ht]; decide), hscan]
        rfl
      · have hsub : r.next - i = r.next - (i + 1) + 1 := by
          have := r.reached
          omega
        rw [List.drop_take] at htake
        rw [List.drop_take, hcons, hsub, List.take_succ_cons,
          List.takeWhile_cons_of_pos (by simp [ht]), htail, htake]
      · rw [hdrop, hcons, List.dropWhile_cons_of_pos (by simp [ht]), htail]
termination_by ts.length + 1 - i

theorem plainArgument_follows (source : List Char) (distinct : Bool) (hi : i ≤ ts.length)
    (hrest : rest = ts.drop i) : ∃ o, plainArgument source ts distinct i = .ok o
      ∧ Option.Rel (fun r b => Leaves ts r b.value b.rest) o
        (plainArgument? source distinct rest) := by
  obtain ⟨r, hscan, -, hvalue, htake, hdrop⟩ := scan_eq hi
  rw [← hrest] at htake hdrop
  rw [hdrop] at hvalue
  unfold plainArgument?
  split
  · next hnil =>
    have hnone : r.value = none := by rw [hvalue, hnil, List.head?_nil]
    rw [plainArgument, hscan, ok_bind, hnone]
    exact ⟨none, rfl, .none⟩
  · next stop tail hcons =>
    obtain ⟨hnext, htail⟩ := drop_eq_cons (hdrop.trans hcons)
    have hstop : r.value = some stop := by rw [hvalue, hcons, List.head?_cons]
    rw [plainArgument, hscan, ok_bind, hstop]
    dsimp only
    rw [htake]
    split
    · exact ⟨_, rfl, .some ⟨rfl, hnext, htail⟩⟩
    · exact ⟨none, rfl, .none⟩

theorem letsLead_head (tail : List Token) :
    letsLead tail = !(isKind .rightParen tail.head? || isKind .operator tail.head?) := by
  cases tail <;> rfl

theorem bareField_follows (source : List Char) (hi : i ≤ ts.length) (hrest : rest = ts.drop i) :
    ∃ o, bareField source ts i = .ok o
      ∧ Option.Rel (fun r b => Leaves ts r b.value b.rest) o (plainField? source rest) := by
  rcases look_cases hi hrest with ⟨rfl, hlook, hpeek⟩ | ⟨t, tail, rfl, htail, hin, -, hlook, hpeek⟩
  · rw [bareField, hlook, ok_bind]
    dsimp only
    rw [hpeek, ok_bind]
    exact plainArgument_follows source false hi hrest
  · rw [bareField, hlook, ok_bind, plainField?_cons, letsLead_head]
    dsimp only
    rw [hpeek, ok_bind]
    dsimp only [Option.any_some]
    split
    · obtain ⟨o, hplain, hrel⟩ := plainArgument_follows source true hin htail
      rw [hplain, ok_bind]
      refine ⟨_, rfl, ?_⟩
      generalize plainArgument? source true tail = plain at hrel ⊢
      cases hrel with
      | none => exact .none
      | some h => exact .some h
    · exact plainArgument_follows source false hi hrest

theorem dropDistinct_head (t : Token) (tail : List Token) :
    (dropDistinct (t :: tail)).value
        = (t.isDistinct && (isKind .name tail.head? || isKind .quotedName tail.head?))
      ∧ (dropDistinct (t :: tail)).rest
        = if t.isDistinct && (isKind .name tail.head? || isKind .quotedName tail.head?) then tail
          else t :: tail := by
  cases tail with
  | nil =>
    have hnone : (t.isDistinct && (isKind .name none || isKind .quotedName none)) = false :=
      Bool.and_false _
    rw [List.head?_nil, hnone]
    exact ⟨rfl, rfl⟩
  | cons next others => exact dropDistinct_cons t next others

/-- A DISTINCT is passed if a name or a quoted name follows it. -/
theorem distinctMark_eq (hi : i ≤ ts.length) (hrest : rest = ts.drop i) :
    ∃ r, distinctMark ts i = .ok r
      ∧ Leaves ts r (dropDistinct rest).value (dropDistinct rest).rest := by
  rcases look_cases hi hrest with ⟨rfl, hlook, hpeek⟩ | ⟨t, tail, rfl, htail, hin, -, hlook, hpeek⟩
  · rw [distinctMark, hlook, ok_bind]
    dsimp only
    rw [hpeek, ok_bind]
    exact ⟨_, rfl, rfl, hi, hrest⟩
  · obtain ⟨hvalue, hleft⟩ := dropDistinct_head t tail
    rw [distinctMark, hlook, ok_bind]
    dsimp only
    rw [hpeek, ok_bind, hvalue, hleft]
    dsimp only [Option.any_some]
    split
    · next h => exact ⟨_, rfl, h, hin, htail⟩
    · next h => exact ⟨_, rfl, Bool.eq_false_iff.2 h, hi, hrest⟩

theorem Follows.orRefused_bind {ε : Type} {value : β → α} {left : β → List Token}
    {o : Except ExprFault ε} {f : ε → Except Stop (Read α low)} {g : ε → Except ExprFault β}
    (h : ∀ a, Follows ts value left (f a) (g a)) :
    Follows ts value left (orRefused o >>= f) (o >>= g) := by
  cases o with
  | error fault => exact .refused fault
  | ok a => exact h a

/-! ## Parts of productions -/

/-- A name that no parenthesis follows starts a field. -/
theorem primary_name {t : Token} {tail : List Token} (ht : t.kind = .name)
    (htail : ∀ next ∈ tail.head?, next.kind ≠ .leftParen)
    (hplace : slice source t.pos t.stop = t.chars) :
    Parser.primary source t tail = do
      let last ← lastName source.length t tail
      return ⟨.field (String.ofList (slice source t.pos last.value.stop)), last.rest,
        Nat.lt_succ_of_le last.noLonger⟩ := by
  unfold Parser.primary
  simp only [ht]
  cases tail with
  | nil =>
    rw [lastName, ok_bind]
    dsimp only
    rw [hplace]
    rfl
  | cons next others => exact if_neg (htail next rfl)

/-- A name that a parenthesis follows starts a call. -/
theorem primary_call {t left : Token} {others : List Token} (ht : t.kind = .name)
    (hleft : left.kind = .leftParen) :
    Parser.primary source t (left :: others) = do
      let c ← Parser.call source t left.pos others
      return ⟨c.value, c.rest,
        Nat.lt_succ_of_le (Nat.le_of_lt (Nat.lt_succ_of_lt c.shorter))⟩ := by
  rw [Parser.primary]
  simp only [ht]
  exact if_pos hleft

/-- Arguments that no parenthesis closes start with an expression. -/
theorem arguments_expression (h : ∀ t ∈ rest.head?, t.kind ≠ .rightParen) :
    Parser.arguments source rest = do
      let first ← Parser.expression source rest
      let more ← argumentTail source first.rest
      return ⟨⟨first.value :: more.value.args, more.value.closePos⟩, more.rest,
        Nat.lt_trans more.shorter first.shorter⟩ := by
  cases rest with
  | nil =>
    rw [Parser.arguments, Parser.expression, Parser.product, Parser.signed]
    rfl
  | cons t tail =>
    rw [Parser.arguments]
    exact if_neg (h t rfl)

/-- The star of COUNT is passed with the parenthesis after it. -/
theorem star_follows {name : Token} (hi : i ≤ ts.length) (hrest : rest = ts.drop i)
    (hstar : startsWithStar name rest = true) :
    ∃ y, (if name.upper = "COUNT" then starArgument? source rest else none) = some y
      ∧ Follows ts Reading.value Reading.rest
        (close source ts (i + 1) >>= fun right =>
          return (⟨.aggregate .count .star false, right.next,
            Nat.le_of_succ_le right.reached⟩ : Read Expr (i + 1))) y := by
  rw [startsWithStar, Bool.and_eq_true, decide_eq_true_eq] at hstar
  rw [if_pos hstar.1]
  rcases look_cases hi hrest with ⟨rfl, -, -⟩ | ⟨t, tail, rfl, htail, hin, -, -, -⟩
  · cases hstar.2
  · have ht : t.isOperator '*' = true := hstar.2
    rcases close_cases source hin htail with
      ⟨right, others, rfl, hright, hothers, hnext, hclose⟩ | ⟨hright, hclose⟩
    · refine ⟨_, by rw [starArgument?, if_pos ht, if_pos hright], ?_⟩
      rw [hclose]
      exact .read ⟨rfl, hnext, hothers⟩
    · rw [hclose]
      cases tail with
      | nil => exact ⟨_, if_pos ht, .refused _⟩
      | cons right others =>
        exact ⟨_, (if_pos ht).trans (if_neg (hright right rfl)), .refused _⟩

/-! ## Productions -/

mutual

theorem expression_follows (hp : InPlace source ts) {i : Nat} {rest : List Token}
    (hi : i ≤ ts.length) (hrest : rest = ts.drop i) :
    Follows ts Reading.value Reading.rest (expression source ts i)
      (Parser.expression source rest) := by
  rw [expression, Parser.expression]
  refine (product_follows hp hi hrest).bind fun first b hfirst hnext hleft => ?_
  have hpast := first.reached
  rw [hfirst]
  exact (sumLoop_follows hp first.value hnext hleft).bind fun whole c hwhole hnext' hleft' =>
    .read ⟨hwhole, hnext', hleft'⟩
termination_by (ts.length + 1 - i, 4)
decreasing_by
  all_goals
    simp only [Prod.lex_def, true_and]
    omega

theorem sumLoop_follows (hp : InPlace source ts) (left : Expr)
    {i : Nat} {rest : List Token} (hi : i ≤ ts.length) (hrest : rest = ts.drop i) :
    Follows ts Continuation.value Continuation.rest (sumLoop source ts left i)
      (sumTail source left rest) := by
  rcases look_cases hi hrest with ⟨rfl, hlook, -⟩ | ⟨t, tail, rfl, htail, hin, -, hlook, -⟩
  · rw [sumLoop, hlook, ok_bind, sumTail]
    exact .read ⟨rfl, hi, hrest⟩
  · rw [sumLoop, hlook, ok_bind, sumTail]
    dsimp only [Option.bind_some]
    cases sumOperator? t with
    | none => exact .read ⟨rfl, hi, hrest⟩
    | some op =>
      refine (product_follows hp hin htail).bind fun right b hright hnext hleft => ?_
      have hpast := right.reached
      rw [hright]
      exact (sumLoop_follows hp _ hnext hleft).bind fun whole c hwhole hnext' hleft' =>
        .read ⟨hwhole, hnext', hleft'⟩
termination_by (ts.length + 1 - i, 0)
decreasing_by
  all_goals
    simp only [Prod.lex_def]
    omega

theorem product_follows (hp : InPlace source ts) {i : Nat}
    {rest : List Token} (hi : i ≤ ts.length) (hrest : rest = ts.drop i) :
    Follows ts Reading.value Reading.rest (product source ts i) (Parser.product source rest) := by
  rw [product, Parser.product]
  refine (signed_follows hp hi hrest).bind fun first b hfirst hnext hleft => ?_
  have hpast := first.reached
  rw [hfirst]
  exact (productLoop_follows hp first.value hnext hleft).bind
    fun whole c hwhole hnext' hleft' => .read ⟨hwhole, hnext', hleft'⟩
termination_by (ts.length + 1 - i, 3)
decreasing_by
  all_goals
    simp only [Prod.lex_def, true_and]
    omega

theorem productLoop_follows (hp : InPlace source ts) (left : Expr)
    {i : Nat} {rest : List Token} (hi : i ≤ ts.length) (hrest : rest = ts.drop i) :
    Follows ts Continuation.value Continuation.rest (productLoop source ts left i)
      (productTail source left rest) := by
  rcases look_cases hi hrest with ⟨rfl, hlook, -⟩ | ⟨t, tail, rfl, htail, hin, -, hlook, -⟩
  · rw [productLoop, hlook, ok_bind, productTail]
    exact .read ⟨rfl, hi, hrest⟩
  · rw [productLoop, hlook, ok_bind, productTail]
    dsimp only [Option.bind_some]
    cases productOperator? t with
    | none => exact .read ⟨rfl, hi, hrest⟩
    | some op =>
      refine (signed_follows hp hin htail).bind fun right b hright hnext hleft => ?_
      have hpast := right.reached
      rw [hright]
      exact (productLoop_follows hp _ hnext hleft).bind fun whole c hwhole hnext' hleft' =>
        .read ⟨hwhole, hnext', hleft'⟩
termination_by (ts.length + 1 - i, 0)
decreasing_by
  all_goals
    simp only [Prod.lex_def]
    omega

theorem signed_follows (hp : InPlace source ts) {i : Nat}
    {rest : List Token} (hi : i ≤ ts.length) (hrest : rest = ts.drop i) :
    Follows ts Reading.value Reading.rest (signed source ts i) (Parser.signed source rest) := by
  rcases look_cases hi hrest with ⟨rfl, hlook, -⟩ | ⟨t, tail, rfl, htail, hin, -, hlook, -⟩
  · rw [signed, hlook, ok_bind, Parser.signed]
    dsimp only [Option.any_none]
    rw [if_neg Bool.false_ne_true, primary, hlook, ok_bind]
    exact .refused _
  · rw [signed, hlook, ok_bind, Parser.signed]
    dsimp only [Option.any_some]
    by_cases hminus : t.isOperator '-' = true
    · rw [if_pos hminus, if_pos hminus]
      exact (signed_follows hp hin htail).bind fun operand b hoperand hnext hleft =>
        .read ⟨congrArg Expr.negate hoperand, hnext, hleft⟩
    · rw [if_neg hminus, if_neg hminus]
      exact primary_follows hp hi hrest
termination_by (ts.length + 1 - i, 2)
decreasing_by
  all_goals
    simp only [Prod.lex_def, true_and]
    omega

theorem primary_follows (hp : InPlace source ts) {i : Nat} {t : Token} {tail : List Token}
    (hi : i ≤ ts.length) (hrest : t :: tail = ts.drop i) :
    Follows ts Reading.value Reading.rest (primary source ts i)
      (Parser.primary source t tail) := by
  rcases look_cases hi hrest with ⟨hnil, -, -⟩ | ⟨u, us, hcons, htail, hin, hmem, hlook, hpeek⟩
  · cases hnil
  obtain ⟨rfl, rfl⟩ := List.cons.inj hcons
  rw [primary, hlook, ok_bind]
  dsimp only
  cases hkind : t.kind with
  | number | string | quotedName =>
    unfold Parser.primary
    simp only [hkind]
    exact .read ⟨rfl, hin, htail⟩
  | operator | punctuation | rightParen | comma =>
    unfold Parser.primary
    simp only [hkind]
    exact .refused _
  | leftParen =>
    unfold Parser.primary
    simp only [hkind]
    refine (expression_follows hp hin htail).bind fun inside b hinside hnext hleft => ?_
    rcases close_cases source hnext hleft with
      ⟨right, others, hsplit, hright, hothers, hnext', hclose⟩ | ⟨hright, hclose⟩
    · rw [hclose, ok_bind]
      split
      · next hnil =>
        rw [hnil] at hsplit
        cases hsplit
      · next right' others' hcons =>
        obtain ⟨rfl, rfl⟩ := List.cons.inj (hsplit.symm.trans hcons)
        rw [if_pos hright]
        exact .read ⟨hinside, hnext', hothers⟩
    · split
      · next hnil =>
        rw [hnil] at hclose
        rw [hclose]
        exact .refused _
      · next right others hcons =>
        rw [hcons] at hright hclose
        rw [hclose, if_neg (hright right rfl)]
        exact .refused _
  | name =>
    dsimp only
    rw [hpeek, ok_bind]
    cases hparen : tail.head?.filter (·.kind = .leftParen) with
    | none =>
      have hnone : ∀ next ∈ tail.head?, next.kind ≠ .leftParen := by
        simpa [Option.filter_eq_none_iff] using hparen
      rw [primary_name hkind hnone (hp t hmem)]
      exact (names_follows source t hin htail).bind fun last c hlast hnext hleft =>
        .read ⟨by rw [hlast], hnext, hleft⟩
    | some left =>
      obtain ⟨hhead, hleft⟩ := Option.filter_eq_some_iff.1 hparen
      obtain ⟨others, rfl⟩ := List.head?_eq_some_iff.1 hhead
      obtain ⟨hnext, hothers⟩ := drop_eq_cons htail.symm
      rw [primary_call hkind (of_decide_eq_true hleft)]
      exact (call_follows hp t left.pos hnext hothers).bind fun whole c hwhole hnext' hleft' =>
        .read ⟨hwhole, hnext', hleft'⟩
termination_by (ts.length + 1 - i, 1)
decreasing_by
  all_goals
    simp only [Prod.lex_def]
    omega

theorem call_follows (hp : InPlace source ts) (name : Token) (openPos : Nat) {i : Nat}
    {rest : List Token} (hi : i ≤ ts.length) (hrest : rest = ts.drop i) :
    Follows ts Reading.value Reading.rest (call source ts name openPos i)
      (Parser.call source name openPos rest) := by
  rw [call, look_eq hi hrest, ok_bind, Parser.call]
  dsimp only
  by_cases hstar : startsWithStar name rest = true
  · obtain ⟨y, hy, hfollows⟩ := star_follows hi hrest hstar
    rw [hy]
    exact (if_pos hstar).symm ▸ hfollows
  · have hnostar : (if name.upper = "COUNT" then starArgument? source rest else none) = none := by
      split
      · next hcount =>
        rw [starArgument?_eq_none]
        simpa [startsWithStar, hcount] using hstar
      · rfl
    have hother : ¬(decide (name.upper = "COUNT") && rest.head?.any (·.isOperator '*')) = true :=
      hstar
    rw [if_neg hother, hnostar]
    dsimp only
    cases Aggregate.ofName? name.upper with
    | some func =>
      obtain ⟨bare, hbare, hrel⟩ := bareField_follows source hi hrest
      dsimp only
      rw [hbare, ok_bind]
      generalize plainField? source rest = plain at hrel ⊢
      cases hrel with
      | some h =>
        obtain ⟨hvalue, hnext, hleft⟩ := h
        exact .read ⟨by rw [hvalue], hnext, hleft⟩
      | none =>
        obtain ⟨head, hmark, hvalue, hnext, hleft⟩ := distinctMark_eq hi hrest
        have hpast := head.reached
        dsimp only
        rw [hmark, ok_bind]
        refine (arguments_follows hp hnext hleft).bind fun given b hgiven hnext' hleft' => ?_
        rw [hvalue, hgiven]
        exact .orRefused_bind fun e => .read ⟨rfl, hnext', hleft'⟩
    | none =>
      dsimp only
      split
      · refine (arguments_follows hp hi hrest).bind fun given b hgiven hnext hleft => ?_
        rw [hgiven]
        exact .orRefused_bind fun e => .read ⟨rfl, hnext, hleft⟩
      · exact .refused _
termination_by (ts.length + 1 - i, 6)
decreasing_by
  all_goals
    simp only [Prod.lex_def, true_and]
    omega

theorem arguments_follows (hp : InPlace source ts) {i : Nat} {rest : List Token}
    (hi : i ≤ ts.length) (hrest : rest = ts.drop i) :
    Follows ts Reading.value Reading.rest (arguments source ts i)
      (Parser.arguments source rest) := by
  rw [arguments, look_eq hi hrest, ok_bind]
  dsimp only
  rcases close_cases source hi hrest with
    ⟨right, tail, rfl, hright, htail, hnext, hclose⟩ | ⟨hright, -⟩
  · rw [if_pos (isKind_head.2 hright), hclose, ok_bind, Parser.arguments,
      if_pos hright]
    exact .read ⟨rfl, hnext, htail⟩
  · have hother : ¬isKind .rightParen rest.head? = true := fun h =>
      (isKind_iff.1 h).elim fun t ht => hright t ht.1 ht.2
    rw [if_neg hother, arguments_expression hright]
    refine (expression_follows hp hi hrest).bind fun first b hfirst hnext hleft => ?_
    have hpast := first.reached
    refine (argumentLoop_follows hp hnext hleft).bind fun more c hmore hnext' hleft' => ?_
    exact .read ⟨by rw [hfirst, hmore], hnext', hleft'⟩
termination_by (ts.length + 1 - i, 5)
decreasing_by
  all_goals
    simp only [Prod.lex_def, true_and]
    omega

theorem argumentLoop_follows (hp : InPlace source ts) {i : Nat} {rest : List Token}
    (hi : i ≤ ts.length) (hrest : rest = ts.drop i) :
    Follows ts Reading.value Reading.rest (argumentLoop source ts i)
      (argumentTail source rest) := by
  rw [argumentLoop, look_eq hi hrest, ok_bind]
  dsimp only
  rcases close_cases source hi hrest with
    ⟨right, tail, rfl, hright, htail, hnext, hclose⟩ | ⟨hright, hclose⟩
  · have hcomma : ¬isKind .comma (right :: tail).head? = true := by
      rw [isKind_head, hright]
      decide
    rw [if_neg hcomma, hclose, ok_bind, argumentTail, if_pos hright]
    exact .read ⟨rfl, hnext, htail⟩
  · rcases look_cases hi hrest with ⟨rfl, -, -⟩ | ⟨t, tail, rfl, htail, hin, -, -, -⟩
    · rw [if_neg (by decide), hclose, argumentTail]
      exact .refused _
    · rw [argumentTail, if_neg (hright t rfl)]
      by_cases hcomma : t.kind = .comma
      · rw [if_pos (isKind_head.2 hcomma), if_pos hcomma]
        refine (expression_follows hp hin htail).bind fun next b hvalue hnext hleft => ?_
        have hpast := next.reached
        refine (argumentLoop_follows hp hnext hleft).bind fun more c hmore hnext' hleft' => ?_
        exact .read ⟨by rw [hvalue, hmore], hnext', hleft'⟩
      · rw [if_neg (fun h => hcomma (isKind_head.1 h)), if_neg hcomma, hclose]
        exact .refused _
termination_by (ts.length + 1 - i, 0)
decreasing_by
  all_goals
    simp only [Prod.lex_def]
    omega

end

end MetricLayer.Cursor
