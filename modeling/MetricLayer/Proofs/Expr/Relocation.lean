import MetricLayer.Proofs.Expr.Completeness
import MetricLayer.Proofs.Expr.Excerpt

/-!
# Moving a part of the source of an expression

Tokens derive the same phrases in every source that holds the same text where they stand
(`derives_moved`).
-/

namespace MetricLayer

open MetricLayer.Parser MetricLayer.Text MetricLayer.Lexer

variable {source other : List Char} {start stop finish : Nat} {ts us : List Token}

/-- What the texts hold between the positions is the same, when one of them has it at another
position. -/
def SameBetween (source other : List Char) (start stop finish : Nat) : Prop :=
  ∀ a b, start ≤ a → b ≤ finish →
    slice other (a - start + stop) (b - start + stop) = slice source a b

/-- The tokens stand between the positions. -/
def Between (start finish : Nat) (ts : List Token) : Prop :=
  ∀ t ∈ ts, start ≤ t.pos ∧ t.stop ≤ finish

theorem Between.of_mem (h : Between start finish ts) (hsub : ∀ t ∈ us, t ∈ ts) :
    Between start finish us :=
  fun t ht => h t (hsub t ht)

/-- A part of two texts is the same in both. -/
theorem sameBetween_part {before before' cs after after' : List Char}
    (hstart : before.length = start) (hstop : before'.length = stop) :
    SameBetween (before ++ (cs ++ after)) (before' ++ (cs ++ after')) start stop
      (start + cs.length) := by
  intro a b ha hb
  rw [slice_between after hstart ha hb, slice_between after' hstop (by omega) (by omega),
    Nat.add_sub_cancel, Nat.add_sub_cancel]

@[simp]
theorem kind_moved (t : Token) : (moved start stop t).kind = t.kind := rfl

@[simp]
theorem isDistinct_moved (t : Token) : (moved start stop t).isDistinct = t.isDistinct := rfl

theorem stop_moved {t : Token} (h : start ≤ t.pos) :
    (moved start stop t).stop = t.stop - start + stop := by
  simp only [Token.stop, moved]
  omega

theorem startsWithStar_moved (name : Token) (ts : List Token) :
    startsWithStar (moved start stop name) (ts.map (moved start stop)) = startsWithStar name ts := by
  cases ts <;> rfl

theorem arePlain_moved (ts : List Token) : arePlain (ts.map (moved start stop)) = arePlain ts := by
  match ts with
  | [] | [_] => rfl
  | t :: u :: ts =>
    simp only [List.map_cons, arePlain, List.any_cons, List.any_map]
    rfl

theorem plainPart?_moved (ts : List Token) :
    plainPart? (ts.map (moved start stop))
      = (plainPart? ts).map fun r => (r.1, r.2.map (moved start stop)) := by
  have hdelim : (ts.map (moved start stop)).any (·.isDelimiter) = ts.any (·.isDelimiter) := by
    rw [List.any_map]
    rfl
  unfold plainPart?
  rw [hdelim]
  split
  · rfl
  · cases ts with
    | nil => rfl
    | cons t ts =>
      have hhead : (ts.map (moved start stop)).head?.any (·.kind ≠ .operator)
          = ts.head?.any (·.kind ≠ .operator) := by
        cases ts <;> rfl
      have hplain : arePlain (moved start stop t :: ts.map (moved start stop))
          = arePlain (t :: ts) := arePlain_moved (t :: ts)
      simp only [List.map_cons, isDistinct_moved, hhead, hplain, arePlain_moved]
      split_ifs <;> rfl

theorem mem_of_mem_plainPart? {distinct : Bool} (h : plainPart? ts = some (distinct, us)) :
    ∀ t ∈ us, t ∈ ts := by
  unfold plainPart? at h
  split at h
  · cases h
  · cases ts with
    | nil => cases h
    | cons t ts =>
      simp only at h
      split_ifs at h
      · cases h
        exact fun u hu => List.mem_cons_of_mem _ hu
      · cases h
        exact fun u hu => hu

/-- What is left after a DISTINCT that is dropped. -/
theorem dropDistinct_cons (t u : Token) (ts : List Token) :
    (dropDistinct (t :: u :: ts)).value
        = (t.isDistinct && (u.kind = .name || u.kind = .quotedName))
      ∧ (dropDistinct (t :: u :: ts)).rest
        = if t.isDistinct && (u.kind = .name || u.kind = .quotedName) then u :: ts
          else t :: u :: ts := by
  unfold dropDistinct
  dsimp only
  by_cases hdrop : (t.isDistinct && (decide (u.kind = .name) || decide (u.kind = .quotedName))) = true
  · rw [if_pos hdrop, if_pos hdrop]
    exact ⟨hdrop.symm, rfl⟩
  · rw [if_neg hdrop, if_neg hdrop]
    exact ⟨((Bool.not_eq_true _).mp hdrop).symm, rfl⟩

theorem dropDistinct_moved (start stop : Nat) (ts : List Token) :
    (dropDistinct (ts.map (moved start stop))).value = (dropDistinct ts).value
      ∧ (dropDistinct (ts.map (moved start stop))).rest
        = (dropDistinct ts).rest.map (moved start stop) := by
  match ts with
  | [] | [_] => exact ⟨rfl, rfl⟩
  | t :: u :: ts =>
    obtain ⟨hvalue, hrest⟩ := dropDistinct_cons t u ts
    obtain ⟨hvalue', hrest'⟩ := dropDistinct_cons (moved start stop t) (moved start stop u)
      (ts.map (moved start stop))
    refine ⟨hvalue'.trans hvalue.symm, ?_⟩
    rw [hrest, apply_ite (List.map (moved start stop))]
    exact hrest'

theorem fieldOf_moved (hsame : SameBetween source other start stop finish)
    (hts : Between start finish us) {right : Nat} (hright : right ≤ finish) :
    fieldOf other (right - start + stop) (us.map (moved start stop)) = fieldOf source right us := by
  cases us with
  | nil => rfl
  | cons t us =>
    have hslice := hsame t.pos right (hts t (by simp)).1 hright
    by_cases hquoted : t.kind = .quotedName
    · have hquoted' : (moved start stop t).kind = .quotedName := hquoted
      rw [List.map_cons, fieldOf, if_pos hquoted', fieldOf, if_pos hquoted]
      rfl
    · have hquoted' : ¬(moved start stop t).kind = .quotedName := hquoted
      rw [List.map_cons, fieldOf, if_neg hquoted', fieldOf, if_neg hquoted, ← hslice]
      rfl

theorem derives_moved_field {first : Token} {names : List Token} (hfirst : first.kind = .name)
    (hnames : ∀ t ∈ names, t.kind = .name) (hsame : SameBetween source other start stop finish)
    (hts : Between start finish (first :: names)) :
    Derives other
      (.primary (.field (String.ofList
        (slice source first.pos ((first :: names).getLast (by simp)).stop))))
      ((first :: names).map (moved start stop)) := by
  have hlast := hts _ (List.getLast_mem (l := first :: names) (by simp))
  have hfield : Derives other _ (moved start stop first :: names.map (moved start stop)) :=
    .field hfirst (by simpa using hnames)
  have hstop : ((moved start stop first :: names.map (moved start stop)).getLast (by simp)).stop
      = ((first :: names).getLast (by simp)).stop - start + stop := by
    rw [← stop_moved hlast.1]
    exact congrArg Token.stop (List.getLast_map (f := moved start stop) (l := first :: names) (by simp))
  rw [hstop] at hfield
  rw [← hsame _ _ (hts first (by simp)).1 hlast.2]
  exact hfield

/-- Tokens derive the same phrases wherever what they stand for is the same. -/
theorem derives_moved {phrase : Phrase} (h : Derives source phrase ts)
    (hsame : SameBetween source other start stop finish) (hts : Between start finish ts) :
    Derives other phrase (ts.map (moved start stop)) := by
  induction h with
  | sum _ ih => exact .sum (ih hts)
  | addition _ hop _ ihl ihr =>
    rw [List.map_append, List.map_cons]
    exact .addition (ihl (hts.of_mem (by simp +contextual))) hop
      (ihr (hts.of_mem (by simp +contextual)))
  | product _ ih => exact .product (ih hts)
  | multiplication _ hop _ ihl ihr =>
    rw [List.map_append, List.map_cons]
    exact .multiplication (ihl (hts.of_mem (by simp +contextual))) hop
      (ihr (hts.of_mem (by simp +contextual)))
  | signed _ ih => exact .signed (ih hts)
  | minus hop _ ih =>
    rw [List.map_cons]
    exact .minus hop (ih (hts.of_mem (by simp +contextual)))
  | @number t ht => exact Derives.number (t := moved start stop t) ht
  | @string t ht => exact Derives.string (t := moved start stop t) ht
  | @quotedName t ht => exact Derives.quotedName (t := moved start stop t) ht
  | @loneField t ht => exact Derives.loneField (t := moved start stop t) ht
  | field hfirst hnames => exact derives_moved_field hfirst hnames hsame hts
  | group hleft _ hright ih =>
    rw [List.map_cons, List.map_append]
    exact .group hleft (ih (hts.of_mem (by simp +contextual))) hright
  | countStar hname hcount hleft hstar hright => exact .countStar hname hcount hleft hstar hright
  | @plainAggregate name left right ts us func distinct hname hfunc hleft hstar hplain hright =>
    have hname' : (moved start stop name).kind = .name := hname
    have hleft' : (moved start stop left).kind = .leftParen := hleft
    have hright' : (moved start stop right).kind = .rightParen := hright
    have hstar' : startsWithStar (moved start stop name) (ts.map (moved start stop)) = false := by
      rw [startsWithStar_moved, hstar]
    have hplain' : plainPart? (ts.map (moved start stop))
        = some (distinct, us.map (moved start stop)) := by
      rw [plainPart?_moved, hplain]
      rfl
    have hus : Between start finish us := by
      refine hts.of_mem fun t ht => ?_
      have := mem_of_mem_plainPart? hplain t ht
      simp [this]
    have hend : right.pos ≤ finish :=
      Nat.le_trans (Nat.le_add_right _ _) (hts right (by simp)).2
    rw [List.map_cons, List.map_cons, List.map_append, ← fieldOf_moved hsame hus hend]
    have hderived : Derives other (.primary (.aggregate func
        (fieldOf other (moved start stop right).pos (us.map (moved start stop))) distinct)) _ :=
      .plainAggregate hname' hfunc hleft' hstar' hplain' hright'
    exact hderived
  | @aggregate name left right ts func e hname hfunc hleft hstar hplain _ hright ih =>
    have hname' : (moved start stop name).kind = .name := hname
    have hstar' : startsWithStar (moved start stop name) (ts.map (moved start stop)) = false := by
      rw [startsWithStar_moved, hstar]
    have hplain' : plainPart? (ts.map (moved start stop)) = none := by
      rw [plainPart?_moved, hplain]
      rfl
    obtain ⟨hvalue, hrest⟩ := dropDistinct_moved start stop ts
    have hinside : Between start finish (dropDistinct ts).rest := by
      refine hts.of_mem fun t ht => ?_
      have := mem_of_mem_dropDistinct ht
      simp [this]
    have hderived := ih hinside
    rw [← hrest] at hderived
    rw [List.map_cons, List.map_cons, List.map_append, ← hvalue]
    exact .aggregate hname' hfunc hleft hstar' hplain' hderived hright
  | @scalar name left right hname hfunc hleft hright =>
    have hname' : (moved start stop name).kind = .name := hname
    exact .scalar hname' hfunc hleft hright
  | @scalarCall name left right ts es hname hfunc hleft _ hright ih =>
    rw [List.map_cons, List.map_cons, List.map_append]
    have hname' : (moved start stop name).kind = .name := hname
    exact .scalarCall hname' hfunc hleft (ih (hts.of_mem (by simp +contextual))) hright
  | @timeCall name left right ts es func hname hfunc hleft _ hright ih =>
    have hname' : (moved start stop name).kind = .name := hname
    have hleft' : (moved start stop left).kind = .leftParen := hleft
    have hright' : (moved start stop right).kind = .rightParen := hright
    have hopen : left.pos - start + stop + 1 = left.pos + 1 - start + stop := by
      have := (hts left (by simp)).1
      omega
    have hend : right.pos ≤ finish :=
      Nat.le_trans (Nat.le_add_right _ _) (hts right (by simp)).2
    have hinside := hsame (left.pos + 1) right.pos
      (Nat.le_succ_of_le (hts left (by simp)).1) hend
    rw [List.map_cons, List.map_cons, List.map_append, ← hinside, ← hopen]
    have hargs := ih (hts.of_mem (by simp +contextual))
    have hderived := Derives.timeCall hname' hfunc hleft' hargs hright'
    exact hderived
  | lastArgument _ ih => exact .lastArgument (ih hts)
  | argument _ hcomma _ ihe ihs =>
    rw [List.map_append, List.map_cons]
    exact .argument (ihe (hts.of_mem (by simp +contextual))) hcomma
      (ihs (hts.of_mem (by simp +contextual)))

end MetricLayer
