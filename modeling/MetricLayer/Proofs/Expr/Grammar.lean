import MetricLayer.Expr.Parser
import MetricLayer.Proofs.Outcome
import Mathlib.Data.List.TakeWhile
import Mathlib.Tactic

/-!
# The grammar of metric expressions

`Derives source phrase ts` says that the tokens `ts` derive a phrase: a sum, a product, a signed
operand or a primary with the expression it stands for, or the arguments of a call.  The source
text matters only for names that are taken verbatim and for the text of the arguments of a time
function.

The reader of the language is sound for it: whatever `Parser.expression` returns has been derived
from the tokens that it used (`expression_sound`), so an expression that `Expr.parse` returns is
derived from all tokens of its text (`parse_sound`).
-/

namespace MetricLayer

open MetricLayer.Parser MetricLayer.Text

/-! ## Derivations -/

/-- What tokens can derive. -/
inductive Phrase where
  /-- Products joined by `+` and `-`. -/
  | sum (e : Expr)
  /-- Signed operands joined by `*`, `/` and `%`. -/
  | product (e : Expr)
  /-- A primary after any number of minus signs. -/
  | signed (e : Expr)
  /-- A literal, a field, a call or a sum in parentheses. -/
  | primary (e : Expr)
  /-- The arguments of a call, one or more sums between commas. -/
  | arguments (es : List Expr)

/-- The arguments of an aggregate start with a star that belongs to `COUNT(*)`. -/
def startsWithStar (name : Token) (ts : List Token) : Bool :=
  name.upper = "COUNT" && ts.head?.any (·.isOperator '*')

/-- The tokens of a plain argument without a leading DISTINCT, and whether there was one.  A
DISTINCT before an operator or alone is a name like any other. -/
def plainPart? (ts : List Token) : Option (Bool × List Token) :=
  if ts.any (·.isDelimiter) then none
  else
    match ts with
    | [] => none
    | t :: rest =>
      if t.isDistinct && rest.head?.any (·.kind ≠ .operator) then
        if arePlain rest then some (true, rest) else none
      else if arePlain (t :: rest) then some (false, t :: rest)
      else none

/-- The tokens derive the phrase. -/
inductive Derives (source : List Char) : Phrase → List Token → Prop
  | sum {ts : List Token} {e : Expr} (h : Derives source (.product e) ts) :
      Derives source (.sum e) ts
  | addition {ls rs : List Token} {l r : Expr} {t : Token} {op : Operator}
      (hl : Derives source (.sum l) ls) (hop : sumOperator? t = some op)
      (hr : Derives source (.product r) rs) :
      Derives source (.sum (.binary op l r)) (ls ++ t :: rs)
  | product {ts : List Token} {e : Expr} (h : Derives source (.signed e) ts) :
      Derives source (.product e) ts
  | multiplication {ls rs : List Token} {l r : Expr} {t : Token} {op : Operator}
      (hl : Derives source (.product l) ls) (hop : productOperator? t = some op)
      (hr : Derives source (.signed r) rs) :
      Derives source (.product (.binary op l r)) (ls ++ t :: rs)
  | signed {ts : List Token} {e : Expr} (h : Derives source (.primary e) ts) :
      Derives source (.signed e) ts
  | minus {ts : List Token} {e : Expr} {t : Token} (hop : t.isOperator '-' = true)
      (h : Derives source (.signed e) ts) : Derives source (.signed (.negate e)) (t :: ts)
  | number {t : Token} (ht : t.kind = .number) : Derives source (.primary (.number t.text)) [t]
  | string {t : Token} (ht : t.kind = .string) :
      Derives source (.primary (.string (unquotedText t))) [t]
  | quotedName {t : Token} (ht : t.kind = .quotedName) :
      Derives source (.primary (.field (unquotedName t))) [t]
  | loneField {t : Token} (ht : t.kind = .name) : Derives source (.primary (.field t.text)) [t]
  | field {first : Token} {names : List Token} (hfirst : first.kind = .name)
      (hnames : ∀ t ∈ names, t.kind = .name) :
      Derives source
        (.primary (.field (String.ofList
          (slice source first.pos ((first :: names).getLast (by simp)).stop))))
        (first :: names)
  | group {ts : List Token} {e : Expr} {left right : Token} (hleft : left.kind = .leftParen)
      (h : Derives source (.sum e) ts) (hright : right.kind = .rightParen) :
      Derives source (.primary e) (left :: (ts ++ [right]))
  | countStar {name left star right : Token} (hname : name.kind = .name)
      (hcount : name.upper = "COUNT") (hleft : left.kind = .leftParen)
      (hstar : star.isOperator '*' = true) (hright : right.kind = .rightParen) :
      Derives source (.primary (.aggregate .count .star false)) [name, left, star, right]
  | plainAggregate {name left right : Token} {ts us : List Token} {func : Aggregate}
      {distinct : Bool} (hname : name.kind = .name)
      (hfunc : Aggregate.ofName? name.upper = some func) (hleft : left.kind = .leftParen)
      (hstar : startsWithStar name ts = false) (hplain : plainPart? ts = some (distinct, us))
      (hright : right.kind = .rightParen) :
      Derives source (.primary (.aggregate func (fieldOf source right.pos us) distinct))
        (name :: left :: (ts ++ [right]))
  | aggregate {name left right : Token} {ts : List Token} {func : Aggregate} {e : Expr}
      (hname : name.kind = .name) (hfunc : Aggregate.ofName? name.upper = some func)
      (hleft : left.kind = .leftParen) (hstar : startsWithStar name ts = false)
      (hplain : plainPart? ts = none) (h : Derives source (.sum e) (dropDistinct ts).rest)
      (hright : right.kind = .rightParen) :
      Derives source (.primary (.aggregate func e (dropDistinct ts).value))
        (name :: left :: (ts ++ [right]))
  | scalar {name left right : Token} (hname : name.kind = .name)
      (hfunc : name.upper ∈ scalarFunctions) (hleft : left.kind = .leftParen)
      (hright : right.kind = .rightParen) :
      Derives source (.primary (.call name.text [])) [name, left, right]
  | scalarCall {name left right : Token} {ts : List Token} {es : List Expr}
      (hname : name.kind = .name) (hfunc : name.upper ∈ scalarFunctions)
      (hleft : left.kind = .leftParen) (h : Derives source (.arguments es) ts)
      (hright : right.kind = .rightParen) :
      Derives source (.primary (.call name.text es)) (name :: left :: (ts ++ [right]))
  | timeCall {name left right : Token} {ts : List Token} {es : List Expr} {func : TimeFunction}
      (hname : name.kind = .name) (hfunc : TimeFunction.ofUpper? name.upper = some func)
      (hleft : left.kind = .leftParen) (h : Derives source (.arguments es) ts)
      (hright : right.kind = .rightParen) :
      Derives source
        (.primary (.timeCall func es
          (String.ofList (stripBlanks (slice source (left.pos + 1) right.pos)))))
        (name :: left :: (ts ++ [right]))
  | lastArgument {ts : List Token} {e : Expr} (h : Derives source (.sum e) ts) :
      Derives source (.arguments [e]) ts
  | argument {ts us : List Token} {e : Expr} {es : List Expr} {t : Token}
      (h : Derives source (.sum e) ts) (hcomma : t.kind = .comma)
      (hs : Derives source (.arguments es) us) :
      Derives source (.arguments (e :: es)) (ts ++ t :: us)

namespace Parser

/-! ## Names and plain arguments -/

/-- The names that a field runs on over. -/
theorem lastName_sound {finish : Nat} {last : Token} {ts : List Token}
    {c : Continuation Token ts} (h : lastName finish last ts = .ok c) :
    ∃ names, ts = names ++ c.rest ∧ (∀ t ∈ names, t.kind = .name)
      ∧ c.value = (last :: names).getLast (by simp) := by
  fun_induction lastName finish last ts with
  | case1 =>
    cases h
    exact ⟨[], rfl, by simp, rfl⟩
  | case2 last t ht =>
    cases h
    exact ⟨[t], rfl, by simpa using ht, rfl⟩
  | case3 => cases h
  | case4 last t ht next others hnext ih =>
    obtain ⟨c', hc', h⟩ := bind_eq_ok.1 h
    rw [← pure_eq_ok.1 h]
    obtain ⟨names, hsplit, hnames, hvalue⟩ := ih hc'
    refine ⟨t :: names, congrArg (t :: ·) hsplit, ?_, ?_⟩
    · intro u hu
      rcases List.mem_cons.1 hu with rfl | hu
      · exact ht
      · exact hnames u hu
    · rw [hvalue]
      simp
  | case5 last t rest ht =>
    cases h
    exact ⟨[], rfl, by simp, rfl⟩

theorem plainArgument?_sound {source : List Char} {distinct : Bool} {ts : List Token}
    {r : Reading (Expr × Bool) ts} (h : plainArgument? source distinct ts = some r) :
    ∃ us right, ts = us ++ right :: r.rest ∧ right.kind = .rightParen
      ∧ us.any (·.isDelimiter) = false ∧ arePlain us = true
      ∧ r.value = (fieldOf source right.pos us, distinct) := by
  unfold plainArgument? at h
  split at h
  · cases h
  · next close rest hdrop =>
    dsimp only at h
    split at h
    · next hcond =>
      cases h
      rw [Bool.and_eq_true, decide_eq_true_eq] at hcond
      refine ⟨ts.takeWhile (!·.isDelimiter), close, ?_, hcond.1, ?_, hcond.2, rfl⟩
      · rw [← hdrop, List.takeWhile_append_dropWhile]
      · rw [List.any_eq_false]
        intro t ht
        have := List.mem_takeWhile_imp ht
        simpa using this
    · cases h

theorem arePlain_ne_nil {ts : List Token} (h : arePlain ts = true) : ∃ t us, ts = t :: us := by
  cases ts with
  | nil => cases h
  | cons t us => exact ⟨t, us, rfl⟩

theorem isDelimiter_of_isDistinct {t : Token} (h : t.isDistinct = true) :
    t.isDelimiter = false := by
  simp only [Token.isDistinct, Bool.and_eq_true, decide_eq_true_eq] at h
  simp [Token.isDelimiter, h.1]

theorem kind_ne_rightParen {t : Token} (h : t.isDelimiter = false) : t.kind ≠ .rightParen := by
  intro hkind
  simp [Token.isDelimiter, hkind] at h

/-- What follows a DISTINCT lets it lead a plain argument. -/
def letsLead : List Token → Bool
  | [] => true
  | next :: _ => !(next.kind = .rightParen || next.kind = .operator)

theorem plainField?_cons (source : List Char) (t : Token) (rest : List Token) :
    plainField? source (t :: rest)
      = if t.isDistinct && letsLead rest then
          (plainArgument? source true rest).map fun r =>
            ⟨r.value, r.rest, Nat.lt_succ_of_lt r.shorter⟩
        else plainArgument? source false (t :: rest) := by
  cases rest <;> rfl

/-- Whether a DISTINCT leads is seen on the tokens before the closing parenthesis. -/
theorem plainField?_sound {source : List Char} {ts : List Token}
    {r : Reading (Expr × Bool) ts} (h : plainField? source ts = some r) :
    ∃ us vs right, ts = us ++ right :: r.rest ∧ right.kind = .rightParen
      ∧ plainPart? us = some (r.value.2, vs) ∧ r.value.1 = fieldOf source right.pos vs := by
  cases ts with
  | nil => cases h
  | cons t rest =>
    rw [plainField?_cons] at h
    split at h
    · next hlead =>
      rw [Bool.and_eq_true] at hlead
      obtain ⟨r', hr', rfl⟩ := Option.map_eq_some_iff.1 h
      obtain ⟨us, right, hsplit, hright, hdelim, hplain, hvalue⟩ := plainArgument?_sound hr'
      obtain ⟨u, us, rfl⟩ := arePlain_ne_nil hplain
      refine ⟨t :: u :: us, u :: us, right, congrArg (t :: ·) hsplit, hright, ?_, by rw [hvalue]⟩
      have hhead : u.kind ≠ .operator := by
        have hleading := hlead.2
        rw [hsplit] at hleading
        intro hkind
        simp [letsLead, hkind] at hleading
      have hdelim' : (t :: u :: us).any (·.isDelimiter) = false := by
        rw [List.any_cons, isDelimiter_of_isDistinct hlead.1, hdelim]
        rfl
      simp only [plainPart?, hdelim', hlead.1, hplain, hvalue, List.head?_cons, Option.any_some,
        Bool.false_eq_true, if_false, Bool.true_and, decide_not, Bool.not_eq_true',
        decide_eq_false_iff_not, hhead, not_false_eq_true, if_true]
    · next hlead =>
      obtain ⟨us, right, hsplit, hright, hdelim, hplain, hvalue⟩ := plainArgument?_sound h
      obtain ⟨u, us, rfl⟩ := arePlain_ne_nil hplain
      obtain ⟨rfl, hrest⟩ := List.cons.inj hsplit
      refine ⟨t :: us, t :: us, right, hsplit, hright, ?_, by rw [hvalue]⟩
      have hleading : (t.isDistinct && us.head?.any fun x => decide (x.kind ≠ .operator)) = false := by
        rw [Bool.and_eq_false_iff]
        by_cases hdistinct : t.isDistinct = true
        · refine .inr ?_
          rw [hdistinct, Bool.true_and, hrest] at hlead
          cases us with
          | nil => rfl
          | cons w us =>
            have hw : w.kind ≠ .rightParen := by
              refine kind_ne_rightParen ?_
              rw [List.any_cons, List.any_cons] at hdelim
              simp only [Bool.or_eq_false_iff] at hdelim
              exact hdelim.2.1
            simpa [letsLead, hw] using hlead
        · exact .inl (by simpa using hdistinct)
      simp only [plainPart?, hdelim, hleading, hplain, hvalue, Bool.false_eq_true, if_false, if_true]

/-- Plain arguments are found before the parenthesis that closes them. -/
theorem plainArgument?_complete (source : List Char) (distinct : Bool) (rest : List Token)
    {us : List Token} {right : Token} (hdelim : us.any (·.isDelimiter) = false) (hplain : arePlain us = true)
    (hright : right.kind = .rightParen) :
    ∃ r, plainArgument? source distinct (us ++ right :: rest) = some r
      ∧ r.value = (fieldOf source right.pos us, distinct) ∧ r.rest = rest := by
  have hall : ∀ t ∈ us, (!t.isDelimiter) = true := by
    intro t ht
    rw [List.any_eq_false] at hdelim
    simpa using hdelim t ht
  have hstop : (!right.isDelimiter) = false := by simp [Token.isDelimiter, hright]
  have htake : (us ++ right :: rest).takeWhile (!·.isDelimiter) = us := by
    rw [List.takeWhile_append_of_pos hall, List.takeWhile_cons_of_neg (by simp [hstop]),
      List.append_nil]
  have hdrop : (us ++ right :: rest).dropWhile (!·.isDelimiter) = right :: rest := by
    rw [List.dropWhile_append_of_pos hall, List.dropWhile_cons_of_neg (by simp [hstop])]
  unfold plainArgument?
  split
  · next h => rw [hdrop] at h; cases h
  · next close others h =>
    rw [hdrop] at h
    obtain ⟨rfl, rfl⟩ := List.cons.inj h
    simp only [htake, hright, hplain, decide_true, Bool.and_self, if_true]
    exact ⟨_, rfl, rfl, rfl⟩

theorem plainField?_complete (source : List Char) (rest : List Token) {us vs : List Token}
    {right : Token} {distinct : Bool} (h : plainPart? us = some (distinct, vs))
    (hright : right.kind = .rightParen) :
    ∃ r, plainField? source (us ++ right :: rest) = some r
      ∧ r.value = (fieldOf source right.pos vs, distinct) ∧ r.rest = rest := by
  unfold plainPart? at h
  split at h
  · cases h
  · next hdelim =>
    rw [Bool.not_eq_true] at hdelim
    split at h
    · cases h
    · next t us =>
      have hdelim' := hdelim
      rw [List.any_cons, Bool.or_eq_false_iff] at hdelim'
      rw [List.cons_append, plainField?_cons]
      split at h
      · next hlead =>
        rw [Bool.and_eq_true] at hlead
        split at h
        · next hplain =>
          cases h
          obtain ⟨u, us, rfl⟩ := arePlain_ne_nil hplain
          have hkind : u.kind ≠ .rightParen := by
            rw [List.any_cons, Bool.or_eq_false_iff] at hdelim'
            exact kind_ne_rightParen hdelim'.2.1
          have hleads : letsLead (u :: us ++ right :: rest) = true := by
            have hhead := hlead.2
            simp only [List.head?_cons, Option.any_some, ne_eq, decide_not, Bool.not_eq_true',
              decide_eq_false_iff_not] at hhead
            simp [letsLead, hkind, hhead]
          obtain ⟨r, hr, hvalue, hrest⟩ :=
            plainArgument?_complete source true rest hdelim'.2 hplain hright
          rw [hlead.1, hleads, Bool.and_self, if_pos rfl, hr]
          exact ⟨_, rfl, hvalue, hrest⟩
        · cases h
      · next hlead =>
        split at h
        · next hplain =>
          cases h
          have hleads : (t.isDistinct && letsLead (us ++ right :: rest)) = false := by
            rw [Bool.and_eq_false_iff]
            by_cases hdistinct : t.isDistinct = true
            · refine .inr ?_
              rw [hdistinct, Bool.true_and] at hlead
              cases us with
              | nil => simp [letsLead, hright]
              | cons u us =>
                simp only [List.head?_cons, Option.any_some, ne_eq, decide_not, Bool.not_eq_true',
                  decide_eq_false_iff_not, not_not] at hlead
                simp [letsLead, hlead]
            · exact .inl (by simpa using hdistinct)
          rw [hleads, if_neg (by simp)]
          exact plainArgument?_complete source false rest hdelim hplain hright
        · cases h

/-! ## Derived tokens are balanced -/

/-- The first parenthesis or comma, if there is one, closes nothing. -/
def OpensFirst (ts : List Token) : Prop :=
  ∀ t ∈ ts.find? (·.isDelimiter), t.kind ≠ .rightParen

theorem opensFirst_append {ls rs : List Token} (hl : OpensFirst ls) (hr : OpensFirst rs) :
    OpensFirst (ls ++ rs) := by
  intro t ht
  rw [List.find?_append] at ht
  cases hfind : ls.find? (·.isDelimiter) with
  | none =>
    rw [hfind, Option.none_or] at ht
    exact hr t ht
  | some u =>
    rw [hfind, Option.some_or] at ht
    exact hl t (hfind ▸ ht)

/-- A token that is no closing parenthesis comes first. -/
theorem opensFirst_cons {t : Token} {ts : List Token} (ht : t.kind ≠ .rightParen)
    (hts : t.isDelimiter = false → OpensFirst ts) : OpensFirst (t :: ts) := by
  intro u hu
  rw [List.find?_cons] at hu
  split at hu
  · cases hu
    exact ht
  · next hdelim => exact hts hdelim u hu

theorem opensFirst_nil : OpensFirst [] := by simp [OpensFirst]

theorem opensFirst_names {names : List Token} (h : ∀ t ∈ names, t.kind = .name) :
    OpensFirst names := by
  induction names with
  | nil => exact opensFirst_nil
  | cons t names ih =>
    refine opensFirst_cons ?_ fun _ => ih fun u hu => h u (List.mem_cons_of_mem _ hu)
    rw [h t (by simp)]
    decide

/-- A name and an opening parenthesis come first in a call. -/
theorem opensFirst_call {name left : Token} (hname : name.kind = .name)
    (hleft : left.kind = .leftParen) (ts : List Token) : OpensFirst (name :: left :: ts) := by
  refine opensFirst_cons (by rw [hname]; decide) fun _ => ?_
  refine opensFirst_cons (by rw [hleft]; decide) fun h => ?_
  rw [Token.isDelimiter, hleft] at h
  cases h

theorem isOperator_kind {t : Token} {c : Char} (h : t.isOperator c = true) :
    t.kind = .operator := by
  rw [Token.isOperator, Bool.and_eq_true, decide_eq_true_eq] at h
  exact h.1

theorem sumOperator?_kind {t : Token} {op : Operator} (h : sumOperator? t = some op) :
    t.kind = .operator := by
  unfold sumOperator? at h
  split_ifs at h with hplus hminus
  · exact isOperator_kind hplus
  · exact isOperator_kind hminus

theorem productOperator?_kind {t : Token} {op : Operator} (h : productOperator? t = some op) :
    t.kind = .operator := by
  unfold productOperator? at h
  split_ifs at h with hmul hdiv hmod
  · exact isOperator_kind hmul
  · exact isOperator_kind hdiv
  · exact isOperator_kind hmod

/-- Derived tokens close only what they open. -/
theorem derives_opensFirst {source : List Char} {phrase : Phrase} {ts : List Token}
    (h : Derives source phrase ts) : OpensFirst ts := by
  induction h with
  | sum _ ih | product _ ih | signed _ ih | lastArgument _ ih => exact ih
  | addition _ hop _ ihl ihr =>
    exact opensFirst_append ihl
      (opensFirst_cons (by rw [sumOperator?_kind hop]; decide) fun _ => ihr)
  | multiplication _ hop _ ihl ihr =>
    exact opensFirst_append ihl
      (opensFirst_cons (by rw [productOperator?_kind hop]; decide) fun _ => ihr)
  | minus hop _ ih => exact opensFirst_cons (by rw [isOperator_kind hop]; decide) fun _ => ih
  | number ht | string ht | quotedName ht =>
    exact opensFirst_cons (by rw [ht]; decide) fun _ => opensFirst_nil
  | loneField ht => exact opensFirst_cons (by rw [ht]; decide) fun _ => opensFirst_nil
  | field hfirst hnames =>
    exact opensFirst_cons (by rw [hfirst]; decide) fun _ => opensFirst_names hnames
  | group hleft _ _ _ =>
    refine opensFirst_cons (by rw [hleft]; decide) fun hdelim => ?_
    rw [Token.isDelimiter, hleft] at hdelim
    cases hdelim
  | countStar hname _ hleft _ _ => exact opensFirst_call hname hleft _
  | plainAggregate hname _ hleft _ _ _ => exact opensFirst_call hname hleft _
  | aggregate hname _ hleft _ _ _ _ _ => exact opensFirst_call hname hleft _
  | scalar hname _ hleft _ => exact opensFirst_call hname hleft _
  | scalarCall hname _ hleft _ _ _ => exact opensFirst_call hname hleft _
  | timeCall hname _ hleft _ _ _ => exact opensFirst_call hname hleft _
  | argument _ hcomma _ ihe ihs =>
    exact opensFirst_append ihe (opensFirst_cons (by rw [hcomma]; decide) fun _ => ihs)

theorem derives_ne_nil {source : List Char} {phrase : Phrase} {ts : List Token}
    (h : Derives source phrase ts) : ts ≠ [] := by
  induction h with
  | sum _ ih | product _ ih | signed _ ih | lastArgument _ ih => exact ih
  | addition | multiplication | argument => simp
  | _ => exact List.cons_ne_nil _ _

theorem derives_argument {source : List Char} {e : Expr} {ts : List Token}
    (h : Derives source (.arguments [e]) ts) : Derives source (.sum e) ts := by
  cases h with
  | lastArgument h => exact h
  | argument _ _ hs => cases hs

theorem derives_arguments_ne_nil {source : List Char} {es : List Expr} {ts : List Token}
    (h : Derives source (.arguments es) ts) : es ≠ [] := by
  cases h <;> simp

/-- An argument that is not plain is not read as a plain field. -/
theorem plainField?_eq_none {source : List Char} {us rest : List Token} {right : Token}
    (hopens : OpensFirst us) (hright : right.kind = .rightParen) (h : plainPart? us = none) :
    plainField? source (us ++ right :: rest) = none := by
  cases hread : plainField? source (us ++ right :: rest) with
  | none => rfl
  | some r =>
    obtain ⟨us', vs, right', hsplit, hright', hplain, -⟩ := plainField?_sound hread
    have hdelim' : us'.any (·.isDelimiter) = false := by
      by_contra hany
      rw [Bool.not_eq_false] at hany
      unfold plainPart? at hplain
      rw [if_pos hany] at hplain
      cases hplain
    have hfind : ∀ {vs : List Token} {t : Token} (rest : List Token),
        vs.any (·.isDelimiter) = false → t.kind = .rightParen →
        (vs ++ t :: rest).takeWhile (!·.isDelimiter) = vs := by
      intro vs t rest hvs ht
      have hall : ∀ u ∈ vs, (!u.isDelimiter) = true := by
        intro u hu
        rw [List.any_eq_false] at hvs
        simpa using hvs u hu
      rw [List.takeWhile_append_of_pos hall, List.takeWhile_cons_of_neg, List.append_nil]
      simp [Token.isDelimiter, ht]
    have hdelim : us.any (·.isDelimiter) = false := by
      -- otherwise the first delimiter stands in `us`, and it is the closing one of `us'`
      by_contra hany
      rw [Bool.not_eq_false, List.any_eq_true] at hany
      obtain ⟨t, ht⟩ := Option.isSome_iff_exists.1 (List.find?_isSome.2 hany)
      have hne := hopens t ht
      have hall : (us ++ right :: rest).find? (·.isDelimiter) = some t := by
        rw [List.find?_append, ht, Option.some_or]
      have hall' : (us' ++ right' :: r.rest).find? (·.isDelimiter) = some right' := by
        have hnone : us'.find? (·.isDelimiter) = none := by
          rw [List.find?_eq_none]
          rw [List.any_eq_false] at hdelim'
          exact hdelim'
        rw [List.find?_append, hnone, Option.none_or, List.find?_cons_of_pos]
        simp [Token.isDelimiter, hright']
      rw [hsplit, hall'] at hall
      cases hall
      exact hne hright'
    have heq : us = us' := by
      have htake := hfind rest hdelim hright
      rw [hsplit, hfind _ hdelim' hright'] at htake
      exact htake.symm
    rw [heq, hplain] at h
    cases h

/-! ## Names of functions -/

theorem toUpper_eq (s : String) : s.toUpper = String.ofList (s.toList.map Char.toUpper) := by
  rw [← String.toList_inj, String.toUpper, String.toList_map, String.toList_ofList]

/-- No name belongs to two kinds of functions. -/
theorem aggregate_exclusive {s : String} {func : Aggregate} (h : Aggregate.ofName? s = some func) :
    TimeFunction.ofUpper? s = none ∧ s ∉ scalarFunctions := by
  have hname : func.name = s := by
    simpa using List.find?_some h
  rw [← hname]
  constructor
  · simp only [TimeFunction.ofUpper?, toUpper_eq]
    cases func <;> decide
  · cases func <;> decide

theorem isOperator_text {t : Token} {c : Char} (h : t.isOperator c = true) : t.chars = [c] := by
  rw [Token.isOperator, Bool.and_eq_true, decide_eq_true_eq, decide_eq_true_eq] at h
  exact h.2

theorem starArgument?_sound {source : List Char} {ts : List Token} {r : Reading Expr ts}
    (h : starArgument? source ts = some (.ok r)) :
    ∃ star right, ts = star :: right :: r.rest ∧ star.isOperator '*' = true
      ∧ right.kind = .rightParen ∧ r.value = .aggregate .count .star false := by
  cases ts with
  | nil => cases h
  | cons t rest =>
    cases rest with
    | nil =>
      simp only [starArgument?] at h
      split_ifs at h
      cases h
    | cons close others =>
      simp only [starArgument?] at h
      split_ifs at h with hstar hclose
      · cases h
        exact ⟨t, close, rfl, hstar, hclose, rfl⟩
      · cases h

theorem starArgument?_eq_none {source : List Char} {ts : List Token} :
    starArgument? source ts = none ↔ ts.head?.any (·.isOperator '*') = false := by
  cases ts with
  | nil => simp [starArgument?]
  | cons t rest =>
    cases rest with
    | nil => by_cases h : t.isOperator '*' = true <;> simp [starArgument?, h]
    | cons close others =>
      by_cases h : t.isOperator '*' = true
      · by_cases hclose : close.kind = .rightParen <;> simp [starArgument?, h, hclose]
      · simp [starArgument?, h]

/-- What a call of a function that is no plain aggregate stands for. -/
theorem callOf_sound {source : List Char} {name : Token} {openPos : Nat} {distinct : Bool}
    {given : Arguments} {e : Expr} (h : callOf source name openPos distinct given = .ok e) :
    (∃ func, TimeFunction.ofUpper? name.upper = some func ∧ given.args ≠ []
        ∧ e = .timeCall func given.args
          (String.ofList (stripBlanks (slice source (openPos + 1) given.closePos))))
      ∨ (∃ func argument, Aggregate.ofName? name.upper = some func ∧ given.args = [argument]
        ∧ e = .aggregate func argument distinct)
      ∨ (TimeFunction.ofUpper? name.upper = none ∧ Aggregate.ofName? name.upper = none
        ∧ e = .call name.text given.args) := by
  unfold callOf at h
  split at h
  · next func hfunc =>
    split at h
    · cases h
    · next hargs =>
      cases h
      exact .inl ⟨func, hfunc, by simpa using hargs, rfl⟩
  · next func htime hfunc =>
    split at h
    · next argument hargs =>
      cases h
      exact .inr (.inl ⟨func, argument, hfunc, hargs, rfl⟩)
    · cases h
  · next htime hagg =>
    cases h
    exact .inr (.inr ⟨htime, hagg, rfl⟩)

/-- The tokens after a DISTINCT are found before the parenthesis that closes the arguments. -/
theorem dropDistinct_append {ts us rest : List Token} {right : Token}
    (hsplit : ts = us ++ right :: rest) (hright : right.kind = .rightParen) :
    (dropDistinct ts).value = (dropDistinct us).value
      ∧ (dropDistinct ts).rest = (dropDistinct us).rest ++ right :: rest := by
  have hclose : right.isDistinct = false := by simp [Token.isDistinct, hright]
  subst hsplit
  match us with
  | [] => cases rest <;> simp [dropDistinct, hclose]
  | [t] => simp [dropDistinct, hright]
  | t :: next :: others =>
    simp only [List.cons_append, dropDistinct]
    split <;> simp

/-- Arguments that stop before a closing parenthesis stop before it without their DISTINCT too. -/
theorem dropDistinct_rest {ts us rest : List Token} {right : Token}
    (h : (dropDistinct ts).rest = us ++ right :: rest) :
    ∃ vs, ts = vs ++ right :: rest := by
  match ts with
  | [] => exact ⟨us, h⟩
  | [t] => exact ⟨us, h⟩
  | t :: next :: others =>
    simp only [dropDistinct] at h
    split at h
    · exact ⟨t :: us, congrArg (t :: ·) h⟩
    · exact ⟨us, h⟩

/-- The tokens of an argument without its DISTINCT are among those of the argument. -/
theorem mem_of_mem_dropDistinct {ts : List Token} {t : Token} (h : t ∈ (dropDistinct ts).rest) :
    t ∈ ts := by
  match ts with
  | [] => exact h
  | [_] => exact h
  | _ :: _ :: _ =>
    simp only [dropDistinct] at h
    split at h
    · exact List.mem_cons_of_mem _ h
    · exact h

/-! ## The reader is sound -/

theorem append_split {ts us rest vs left : List Token} (hus : ts = us ++ rest)
    (hvs : rest = vs ++ left) : ts = us ++ vs ++ left := by
  rw [hus, hvs, List.append_assoc]

mutual

/-- What is read as a sum has been derived from the tokens used. -/
theorem expression_sound {source : List Char} {ts : List Token} {r : Reading Expr ts}
    (h : expression source ts = .ok r) :
    ∃ used, ts = used ++ r.rest ∧ Derives source (.sum r.value) used := by
  rw [expression] at h
  obtain ⟨first, hfirst, h⟩ := bind_eq_ok.1 h
  obtain ⟨whole, hwhole, h⟩ := bind_eq_ok.1 h
  rw [← pure_eq_ok.1 h]
  obtain ⟨us, hus, hproduct⟩ := product_sound hfirst
  have hshorter := first.shorter
  obtain ⟨vs, hvs, htail⟩ := sumTail_sound hwhole
  exact ⟨us ++ vs, append_split hus hvs, htail us (.sum hproduct)⟩
termination_by (ts.length, 4)
decreasing_by
  all_goals simp only [Prod.lex_def, true_and]
  all_goals omega

/-- Further summands continue whatever derives the sum before them. -/
theorem sumTail_sound {source : List Char} {left : Expr} {ts : List Token}
    {c : Continuation Expr ts} (h : sumTail source left ts = .ok c) :
    ∃ used, ts = used ++ c.rest
      ∧ ∀ ls, Derives source (.sum left) ls → Derives source (.sum c.value) (ls ++ used) := by
  match ts, c, h with
  | [], c, h =>
    rw [sumTail] at h
    cases h
    exact ⟨[], rfl, fun ls hls => by simpa using hls⟩
  | t :: rest, c, h =>
    rw [sumTail] at h
    split at h
    · cases h
      exact ⟨[], rfl, fun ls hls => by simpa using hls⟩
    · next op hop =>
      obtain ⟨right, hright, h⟩ := bind_eq_ok.1 h
      obtain ⟨whole, hwhole, h⟩ := bind_eq_ok.1 h
      rw [← pure_eq_ok.1 h]
      obtain ⟨us, hus, hproduct⟩ := product_sound hright
      have hshorter := right.shorter
      obtain ⟨vs, hvs, htail⟩ := sumTail_sound hwhole
      refine ⟨t :: (us ++ vs), congrArg (t :: ·) (append_split hus hvs), fun ls hls => ?_⟩
      have := htail (ls ++ t :: us) (.addition hls hop hproduct)
      rwa [List.append_assoc] at this
termination_by (ts.length, 0)
decreasing_by
  all_goals simp only [Prod.lex_def, List.length_cons]
  all_goals omega

/-- What is read as a product has been derived from the tokens used. -/
theorem product_sound {source : List Char} {ts : List Token} {r : Reading Expr ts}
    (h : product source ts = .ok r) :
    ∃ used, ts = used ++ r.rest ∧ Derives source (.product r.value) used := by
  rw [product] at h
  obtain ⟨first, hfirst, h⟩ := bind_eq_ok.1 h
  obtain ⟨whole, hwhole, h⟩ := bind_eq_ok.1 h
  rw [← pure_eq_ok.1 h]
  obtain ⟨us, hus, hsigned⟩ := signed_sound hfirst
  have hshorter := first.shorter
  obtain ⟨vs, hvs, htail⟩ := productTail_sound hwhole
  exact ⟨us ++ vs, append_split hus hvs, htail us (.product hsigned)⟩
termination_by (ts.length, 3)
decreasing_by
  all_goals simp only [Prod.lex_def, true_and]
  all_goals omega

/-- Further factors continue whatever derives the product before them. -/
theorem productTail_sound {source : List Char} {left : Expr} {ts : List Token}
    {c : Continuation Expr ts} (h : productTail source left ts = .ok c) :
    ∃ used, ts = used ++ c.rest
      ∧ ∀ ls, Derives source (.product left) ls →
        Derives source (.product c.value) (ls ++ used) := by
  match ts, c, h with
  | [], c, h =>
    rw [productTail] at h
    cases h
    exact ⟨[], rfl, fun ls hls => by simpa using hls⟩
  | t :: rest, c, h =>
    rw [productTail] at h
    split at h
    · cases h
      exact ⟨[], rfl, fun ls hls => by simpa using hls⟩
    · next op hop =>
      obtain ⟨right, hright, h⟩ := bind_eq_ok.1 h
      obtain ⟨whole, hwhole, h⟩ := bind_eq_ok.1 h
      rw [← pure_eq_ok.1 h]
      obtain ⟨us, hus, hsigned⟩ := signed_sound hright
      have hshorter := right.shorter
      obtain ⟨vs, hvs, htail⟩ := productTail_sound hwhole
      refine ⟨t :: (us ++ vs), congrArg (t :: ·) (append_split hus hvs), fun ls hls => ?_⟩
      have := htail (ls ++ t :: us) (.multiplication hls hop hsigned)
      rwa [List.append_assoc] at this
termination_by (ts.length, 0)
decreasing_by
  all_goals simp only [Prod.lex_def, List.length_cons]
  all_goals omega

/-- What is read as a signed operand has been derived from the tokens used. -/
theorem signed_sound {source : List Char} {ts : List Token} {r : Reading Expr ts}
    (h : signed source ts = .ok r) :
    ∃ used, ts = used ++ r.rest ∧ Derives source (.signed r.value) used := by
  match ts, r, h with
  | [], r, h =>
    rw [signed] at h
    cases h
  | t :: rest, r, h =>
    rw [signed] at h
    split at h
    · next hminus =>
      obtain ⟨operand, hoperand, h⟩ := bind_eq_ok.1 h
      rw [← pure_eq_ok.1 h]
      obtain ⟨us, hus, hsigned⟩ := signed_sound hoperand
      exact ⟨t :: us, congrArg (t :: ·) hus, .minus hminus hsigned⟩
    · obtain ⟨used, hused, hprimary⟩ := primary_sound h
      exact ⟨used, hused, .signed hprimary⟩
termination_by (ts.length, 2)
decreasing_by
  all_goals simp only [Prod.lex_def, List.length_cons, true_and]
  all_goals omega

/-- What is read as a primary has been derived from the tokens used. -/
theorem primary_sound {source : List Char} {t : Token} {rest : List Token}
    {r : Reading Expr (t :: rest)} (h : primary source t rest = .ok r) :
    ∃ used, t :: rest = used ++ r.rest ∧ Derives source (.primary r.value) used := by
  unfold primary at h
  split at h
  · next ht =>
    cases h
    exact ⟨[t], rfl, .number ht⟩
  · next ht =>
    cases h
    exact ⟨[t], rfl, .string ht⟩
  · next ht =>
    cases h
    exact ⟨[t], rfl, .quotedName ht⟩
  · next ht =>
    obtain ⟨inside, hinside, h⟩ := bind_eq_ok.1 h
    obtain ⟨us, hus, hsum⟩ := expression_sound hinside
    split at h
    · cases h
    · next close others hclose =>
      split at h
      · next hkind =>
        rw [← pure_eq_ok.1 h]
        have hsplit := append_split hus (show inside.rest = [close] ++ others from hclose)
        exact ⟨t :: (us ++ [close]), congrArg (t :: ·) hsplit, .group ht hsum hkind⟩
      · cases h
  · next ht =>
    have ih : ∀ next others, rest = next :: others → ∀ c, call source t next.pos others = .ok c →
        ∃ args right, others = args ++ right :: c.rest ∧ ∀ left : Token, t.kind = .name →
          left.kind = .leftParen → left.pos = next.pos →
          Derives source (.primary c.value) (t :: left :: (args ++ [right])) := by
      intro next others hrest c hc
      exact call_sound hc
    split at h
    · cases h
      exact ⟨[t], rfl, .loneField ht⟩
    · next next others =>
      split at h
      · next hnext =>
        obtain ⟨c, hc, h⟩ := bind_eq_ok.1 h
        rw [← pure_eq_ok.1 h]
        obtain ⟨args, right, hsplit, hcall⟩ := ih next others rfl c hc
        have hused := append_split hsplit (show right :: c.rest = [right] ++ c.rest from rfl)
        exact ⟨t :: next :: (args ++ [right]), congrArg (t :: next :: ·) hused,
          hcall next ht hnext rfl⟩
      · obtain ⟨last, hlast, h⟩ := bind_eq_ok.1 h
        rw [← pure_eq_ok.1 h]
        obtain ⟨names, hsplit, hnames, hvalue⟩ := lastName_sound hlast
        refine ⟨t :: names, congrArg (t :: ·) hsplit, ?_⟩
        rw [hvalue]
        exact .field ht hnames
  · cases h
termination_by (rest.length + 1, 1)
decreasing_by
  · exact Prod.Lex.left _ _ (Nat.lt_succ_self _)
  · exact Prod.Lex.left _ _ (by rw [hrest, List.length_cons]; omega)

/-- What is read as the rest of a call makes a primary together with the name and the opening
parenthesis. -/
theorem call_sound {source : List Char} {name : Token} {openPos : Nat} {ts : List Token}
    {r : Reading Expr ts} (h : call source name openPos ts = .ok r) :
    ∃ args right, ts = args ++ right :: r.rest ∧ ∀ left : Token, name.kind = .name →
      left.kind = .leftParen → left.pos = openPos →
      Derives source (.primary r.value) (name :: left :: (args ++ [right])) := by
  rw [call] at h
  split at h
  · next star hstar =>
    split_ifs at hstar with hcount
    subst h
    obtain ⟨star, right, hsplit, hop, hright, hvalue⟩ := starArgument?_sound hstar
    refine ⟨[star], right, hsplit, fun left hname hleft _ => ?_⟩
    rw [hvalue]
    exact .countStar hname hcount hleft hop hright
  · next hstar =>
    have hnostar : ∀ args rest, ts = args ++ rest → args ≠ [] →
        startsWithStar name args = false := by
      intro args rest hsplit hne
      unfold startsWithStar
      split_ifs at hstar with hcount
      · rw [starArgument?_eq_none, hsplit] at hstar
        cases args with
        | nil => exact absurd rfl hne
        | cons t args => simpa [hcount] using hstar
      · simp [hcount]
    split at h
    · next func hfunc =>
      split at h
      · next r' hr' =>
        cases h
        obtain ⟨us, vs, right, hsplit, hright, hplain, hvalue⟩ := plainField?_sound hr'
        refine ⟨us, right, hsplit, fun left hname hleft _ => ?_⟩
        rw [hvalue]
        refine .plainAggregate hname hfunc hleft (hnostar us _ hsplit ?_) hplain hright
        rintro rfl
        cases hplain
      · next hplain =>
        obtain ⟨given, hgiven, h⟩ := bind_eq_ok.1 h
        obtain ⟨e, he, h⟩ := bind_eq_ok.1 h
        rw [← pure_eq_ok.1 h]
        have hshorter := (dropDistinct ts).noLonger
        obtain ⟨us, right, hsplit, hright, -, hargs⟩ := arguments_sound hgiven
        obtain ⟨vs, hvs⟩ := dropDistinct_rest hsplit
        have hdrop := dropDistinct_append hvs hright
        have hus : us = (dropDistinct vs).rest :=
          List.append_cancel_right (hsplit.symm.trans hdrop.2)
        have hpart : plainPart? vs = none := by
          cases hpart : plainPart? vs with
          | none => rfl
          | some part =>
            obtain ⟨r', hr', -⟩ := plainField?_complete source given.rest hpart hright
            rw [hvs, hr'] at hplain
            cases hplain
        rcases callOf_sound he with ⟨f, hf, -⟩ | ⟨f, argument, hf, hone, rfl⟩ | ⟨-, hnone, -⟩
        · rw [(aggregate_exclusive hfunc).1] at hf
          cases hf
        · rw [hfunc] at hf
          cases hf
          have hsum : Derives source (.sum argument) us := by
            rcases hargs with ⟨hnil, -⟩ | hargs
            · rw [hone] at hnil
              cases hnil
            · exact derives_argument (hone ▸ hargs)
          refine ⟨vs, right, hvs, fun left hname hleft _ => ?_⟩
          rw [hdrop.1]
          refine .aggregate hname hfunc hleft (hnostar vs _ hvs ?_) hpart (hus ▸ hsum) hright
          rintro rfl
          exact derives_ne_nil hsum hus
        · rw [hfunc] at hnone
          cases hnone
    · next hfunc =>
      split at h
      · next hcallable =>
        obtain ⟨given, hgiven, h⟩ := bind_eq_ok.1 h
        obtain ⟨e, he, h⟩ := bind_eq_ok.1 h
        rw [← pure_eq_ok.1 h]
        obtain ⟨us, right, hsplit, hright, hpos, hargs⟩ := arguments_sound hgiven
        rcases callOf_sound he with ⟨f, hf, hne, rfl⟩ | ⟨f, argument, hf, -⟩ | ⟨htime, -, rfl⟩
        · rcases hargs with ⟨hnil, -⟩ | hargs
          · exact absurd hnil hne
          · refine ⟨us, right, hsplit, fun left hname hleft hleftPos => ?_⟩
            rw [hpos, ← hleftPos]
            exact .timeCall hname hf hleft hargs hright
        · rw [hfunc] at hf
          cases hf
        · have hscalar : name.upper ∈ scalarFunctions := by
            simpa [isCallable, hfunc, htime] using hcallable
          refine ⟨us, right, hsplit, fun left hname hleft _ => ?_⟩
          rcases hargs with ⟨hnil, rfl⟩ | hargs
          · rw [hnil]
            exact .scalar hname hscalar hleft hright
          · exact .scalarCall hname hscalar hleft hargs hright
      · cases h
termination_by (ts.length, 6)
decreasing_by
  all_goals simp only [Prod.lex_def, true_and]
  all_goals omega

/-- Arguments that are read end before a closing parenthesis. -/
theorem arguments_sound {source : List Char} {ts : List Token} {r : Reading Arguments ts}
    (h : arguments source ts = .ok r) :
    ∃ used right, ts = used ++ right :: r.rest ∧ right.kind = .rightParen
      ∧ r.value.closePos = right.pos
      ∧ (r.value.args = [] ∧ used = []
        ∨ Derives source (.arguments r.value.args) used) := by
  match ts, r, h with
  | [], r, h =>
    rw [arguments] at h
    cases h
  | t :: rest, r, h =>
    rw [arguments] at h
    split at h
    · next ht =>
      cases h
      exact ⟨[], t, rfl, ht, rfl, .inl ⟨rfl, rfl⟩⟩
    · obtain ⟨first, hfirst, h⟩ := bind_eq_ok.1 h
      obtain ⟨more, hmore, h⟩ := bind_eq_ok.1 h
      rw [← pure_eq_ok.1 h]
      obtain ⟨us, hus, hsum⟩ := expression_sound hfirst
      have hshorter : first.rest.length < rest.length + 1 := first.shorter
      obtain ⟨vs, right, hvs, hright, hpos, hargs⟩ := argumentTail_sound hmore
      refine ⟨us ++ vs, right, append_split hus hvs, hright, hpos, .inr ?_⟩
      exact hargs first.value us hsum
termination_by (ts.length, 5)
decreasing_by
  all_goals simp only [Prod.lex_def, List.length_cons, true_and]
  all_goals omega

/-- Further arguments continue the one before them. -/
theorem argumentTail_sound {source : List Char} {ts : List Token} {r : Reading Arguments ts}
    (h : argumentTail source ts = .ok r) :
    ∃ used right, ts = used ++ right :: r.rest ∧ right.kind = .rightParen
      ∧ r.value.closePos = right.pos
      ∧ ∀ e ls, Derives source (.sum e) ls →
        Derives source (.arguments (e :: r.value.args)) (ls ++ used) := by
  match ts, r, h with
  | [], r, h =>
    rw [argumentTail] at h
    cases h
  | t :: rest, r, h =>
    rw [argumentTail] at h
    split at h
    · next ht =>
      cases h
      refine ⟨[], t, rfl, ht, rfl, fun e ls hls => ?_⟩
      rw [List.append_nil]
      exact .lastArgument hls
    · split at h
      · next hcomma =>
        obtain ⟨next, hnext, h⟩ := bind_eq_ok.1 h
        obtain ⟨more, hmore, h⟩ := bind_eq_ok.1 h
        rw [← pure_eq_ok.1 h]
        obtain ⟨us, hus, hsum⟩ := expression_sound hnext
        have hshorter := next.shorter
        obtain ⟨vs, right, hvs, hright, hpos, hargs⟩ := argumentTail_sound hmore
        exact ⟨t :: (us ++ vs), right, congrArg (t :: ·) (append_split hus hvs), hright, hpos,
          fun e ls hls => .argument hls hcomma (hargs next.value us hsum)⟩
      · cases h
termination_by (ts.length, 0)
decreasing_by
  all_goals simp only [Prod.lex_def, List.length_cons]
  all_goals omega

end

/-- A text is read when its tokens are read up to the last one. -/
theorem parseChars_eq_ok {source : List Char} {e : Expr} :
    parseChars source = .ok e ↔ ∃ ts r, Lexer.tokens source = .ok ts
      ∧ expression source ts = .ok r ∧ r.rest = [] ∧ r.value = e := by
  rw [parseChars, bind_eq_ok]
  refine exists_congr fun ts => ?_
  rw [bind_eq_ok]
  constructor
  · rintro ⟨hts, r, hr, h⟩
    split at h
    · next hrest => exact ⟨r, hts, hr, hrest, pure_eq_ok.1 h⟩
    · cases h
  · rintro ⟨r, hts, hr, hrest, rfl⟩
    refine ⟨hts, r, hr, ?_⟩
    split
    · rfl
    · next t rest h =>
      rw [hrest] at h
      cases h

end Parser

/-- A text is read when it is not blank, its parentheses match and what is left after stripping it
is read. -/
theorem Expr.parse_eq_ok {text : String} {e : Expr} :
    Expr.parse text = .ok e ↔ isBlankText text = false ∧ isBalanced text.toList = true
      ∧ parseChars (stripBlanks text.toList) = .ok e := by
  unfold Expr.parse requireBalanced
  cases hblank : isBlankText text <;> cases hbalanced : isBalanced text.toList <;>
    simp [bind, Except.bind, throw, throwThe, MonadExceptOf.throw]

/-- An expression that is read is derived from all tokens of its text. -/
theorem Expr.parse_sound {text : String} {e : Expr} (h : Expr.parse text = .ok e) :
    ∃ ts, Lexer.tokens (stripBlanks text.toList) = .ok ts
      ∧ Derives (stripBlanks text.toList) (.sum e) ts := by
  obtain ⟨ts, r, hts, hr, hrest, rfl⟩ := parseChars_eq_ok.1 (parse_eq_ok.1 h).2.2
  obtain ⟨used, hused, hsum⟩ := expression_sound hr
  rw [hrest, List.append_nil] at hused
  exact ⟨ts, hts, hused ▸ hsum⟩

end MetricLayer
