import MetricLayer.Proofs.Expr.Language
import MetricLayer.Proofs.Expr.Numerals

/-!
# Where the fields of an expression stand

`FieldsStand source phrase ts places` is the grammar once more, with an account of the fields: each
field of the phrase with the position of the token that it starts with, from left to right.  Tokens
that spell a phrase have such an account (`TokensSpell.fieldsStand`), and every account of an
expression agrees with its tree and with its text: the names are those of the fields in the order of
`Expr.subterms` (`FieldsStand.map_fst`), and the positions increase (`FieldsStand.increasing`).
-/

namespace MetricLayer

open MetricLayer.Parser MetricLayer.Text

/-- The names and positions of fields, from left to right. -/
abbrev FieldPlaces := List (String × Nat)

/-- The tokens spell the phrase, and its fields stand at these places. -/
inductive FieldsStand (source : List Char) : Phrase → List Token → FieldPlaces → Prop
  | term {ts : List Token} {e : Expr} {places : FieldPlaces}
      (h : FieldsStand source (.product e) ts places) : FieldsStand source (.sum e) ts places
  | plus {ls rs : List Token} {l r : Expr} {t : Token} {op : Operator}
      {leftPlaces rightPlaces : FieldPlaces} (hl : FieldsStand source (.sum l) ls leftPlaces)
      (hop : op ∈ [.add, .sub]) (ht : t.Writes op)
      (hr : FieldsStand source (.product r) rs rightPlaces) :
      FieldsStand source (.sum (.binary op l r)) (ls ++ t :: rs) (leftPlaces ++ rightPlaces)
  | factor {ts : List Token} {e : Expr} {places : FieldPlaces}
      (h : FieldsStand source (.signed e) ts places) : FieldsStand source (.product e) ts places
  | times {ls rs : List Token} {l r : Expr} {t : Token} {op : Operator}
      {leftPlaces rightPlaces : FieldPlaces} (hl : FieldsStand source (.product l) ls leftPlaces)
      (hop : op ∈ [.mul, .div, .mod]) (ht : t.Writes op)
      (hr : FieldsStand source (.signed r) rs rightPlaces) :
      FieldsStand source (.product (.binary op l r)) (ls ++ t :: rs) (leftPlaces ++ rightPlaces)
  | unsigned {ts : List Token} {e : Expr} {places : FieldPlaces}
      (h : FieldsStand source (.primary e) ts places) : FieldsStand source (.signed e) ts places
  | minus {ts : List Token} {e : Expr} {t : Token} {places : FieldPlaces} (ht : t.Writes .sub)
      (h : FieldsStand source (.signed e) ts places) :
      FieldsStand source (.signed (.negate e)) (t :: ts) places
  | number {t : Token} (ht : t.kind = .number) :
      FieldsStand source (.primary (.number t.text)) [t] []
  | string {t : Token} (ht : t.kind = .string) :
      FieldsStand source (.primary (.string (unquotedText t))) [t] []
  | quotedName {t : Token} (ht : t.kind = .quotedName) :
      FieldsStand source (.primary (.field (unquotedName t))) [t] [(unquotedName t, t.pos)]
  | names {first : Token} {names : List Token} {field : String}
      (h : ∀ t ∈ first :: names, t.kind = .name)
      (hfield : field = String.ofList
        (slice source first.pos ((first :: names).getLast (List.cons_ne_nil _ _)).stop)) :
      FieldsStand source (.primary (.field field)) (first :: names) [(field, first.pos)]
  | group {ts : List Token} {e : Expr} {left right : Token} {places : FieldPlaces}
      (hleft : left.kind = .leftParen) (h : FieldsStand source (.sum e) ts places)
      (hright : right.kind = .rightParen) :
      FieldsStand source (.primary e) (left :: (ts ++ [right])) places
  | countStar {name left star right : Token} (hname : name.kind = .name)
      (hfunc : name.upper = Aggregate.count.name) (hleft : left.kind = .leftParen)
      (hstar : star.Writes .mul) (hright : right.kind = .rightParen) :
      FieldsStand source (.primary (.aggregate .count .star false)) [name, left, star, right] []
  | textAggregate {name left right first : Token} {ts us : List Token} {func : Aggregate}
      {distinct : Bool} {field : String} (hname : name.kind = .name)
      (hfunc : name.upper = func.name) (hleft : left.kind = .leftParen)
      (hstar : ¬LeadsWithStar func ts) (htext : TextArgument ts distinct (first :: us))
      (hfield : NamesField source right.pos (first :: us) field)
      (hright : right.kind = .rightParen) :
      FieldsStand source (.primary (.aggregate func (.field field) distinct))
        (name :: left :: (ts ++ [right])) [(field, first.pos)]
  | sumAggregate {name left right : Token} {ts us : List Token} {func : Aggregate} {e : Expr}
      {distinct : Bool} {places : FieldPlaces} (hname : name.kind = .name)
      (hfunc : name.upper = func.name) (hleft : left.kind = .leftParen)
      (hstar : ¬LeadsWithStar func ts) (htext : ∀ distinct us, ¬TextArgument ts distinct us)
      (hdistinct : AfterDistinct CountsBeforeSum ts distinct us)
      (h : FieldsStand source (.sum e) us places) (hright : right.kind = .rightParen) :
      FieldsStand source (.primary (.aggregate func e distinct)) (name :: left :: (ts ++ [right]))
        places
  | scalar {name left right : Token} (hname : name.kind = .name)
      (hfunc : name.upper ∈ scalarFunctions) (hleft : left.kind = .leftParen)
      (hright : right.kind = .rightParen) :
      FieldsStand source (.primary (.call name.text [])) [name, left, right] []
  | scalarCall {name left right : Token} {ts : List Token} {es : List Expr} {places : FieldPlaces}
      (hname : name.kind = .name) (hfunc : name.upper ∈ scalarFunctions)
      (hleft : left.kind = .leftParen) (h : FieldsStand source (.arguments es) ts places)
      (hright : right.kind = .rightParen) :
      FieldsStand source (.primary (.call name.text es)) (name :: left :: (ts ++ [right])) places
  | timeCall {name left right : Token} {ts : List Token} {es : List Expr} {func : TimeFunction}
      {places : FieldPlaces} (hname : name.kind = .name) (hfunc : name.upper = func.name.toUpper)
      (hleft : left.kind = .leftParen) (h : FieldsStand source (.arguments es) ts places)
      (hright : right.kind = .rightParen) :
      FieldsStand source
        (.primary (.timeCall func es
          (String.ofList (stripBlanks (slice source (left.pos + 1) right.pos)))))
        (name :: left :: (ts ++ [right])) places
  | lastArgument {ts : List Token} {e : Expr} {places : FieldPlaces}
      (h : FieldsStand source (.sum e) ts places) :
      FieldsStand source (.arguments [e]) ts places
  | argument {ts us : List Token} {e : Expr} {es : List Expr} {t : Token}
      {firstPlaces morePlaces : FieldPlaces} (h : FieldsStand source (.sum e) ts firstPlaces)
      (hcomma : t.kind = .comma) (hs : FieldsStand source (.arguments es) us morePlaces) :
      FieldsStand source (.arguments (e :: es)) (ts ++ t :: us) (firstPlaces ++ morePlaces)

section Accounts

variable {source : List Char} {phrase : Phrase} {ts : List Token} {places : FieldPlaces}

/-- Tokens that spell a phrase have an account of its fields. -/
theorem TokensSpell.fieldsStand (h : TokensSpell source phrase ts) :
    ∃ places, FieldsStand source phrase ts places := by
  induction h with
  | term _ ih => exact ih.imp fun _ => .term
  | plus _ hop ht _ ihl ihr =>
    obtain ⟨leftPlaces, hl⟩ := ihl
    obtain ⟨rightPlaces, hr⟩ := ihr
    exact ⟨leftPlaces ++ rightPlaces, .plus hl hop ht hr⟩
  | factor _ ih => exact ih.imp fun _ => .factor
  | times _ hop ht _ ihl ihr =>
    obtain ⟨leftPlaces, hl⟩ := ihl
    obtain ⟨rightPlaces, hr⟩ := ihr
    exact ⟨leftPlaces ++ rightPlaces, .times hl hop ht hr⟩
  | unsigned _ ih => exact ih.imp fun _ => .unsigned
  | minus ht _ ih => exact ih.imp fun _ => .minus ht
  | number ht => exact ⟨[], .number ht⟩
  | string ht => exact ⟨[], .string ht⟩
  | quotedName ht => exact ⟨_, .quotedName ht⟩
  | names h => exact ⟨_, .names h rfl⟩
  | group hleft _ hright ih => exact ih.imp fun _ h => .group hleft h hright
  | countStar hname hfunc hleft hstar hright =>
    exact ⟨[], .countStar hname hfunc hleft hstar hright⟩
  | textAggregate hname hfunc hleft hstar htext hfield hright =>
    obtain ⟨first, us, rfl⟩ := List.exists_cons_of_ne_nil htext.2.nonempty
    exact ⟨_, .textAggregate hname hfunc hleft hstar htext hfield hright⟩
  | sumAggregate hname hfunc hleft hstar htext hdistinct _ hright ih =>
    exact ih.imp fun _ h => .sumAggregate hname hfunc hleft hstar htext hdistinct h hright
  | scalar hname hfunc hleft hright => exact ⟨[], .scalar hname hfunc hleft hright⟩
  | scalarCall hname hfunc hleft _ hright ih =>
    exact ih.imp fun _ h => .scalarCall hname hfunc hleft h hright
  | timeCall hname hfunc hleft _ hright ih =>
    exact ih.imp fun _ h => .timeCall hname hfunc hleft h hright
  | lastArgument _ ih => exact ih.imp fun _ => .lastArgument
  | argument _ hcomma _ ih ihs =>
    obtain ⟨firstPlaces, h⟩ := ih
    obtain ⟨morePlaces, hs⟩ := ihs
    exact ⟨firstPlaces ++ morePlaces, .argument h hcomma hs⟩

/-! ## The names of an account -/

/-- The name of a field. -/
def Expr.fieldName? : Expr → Option String
  | .field name => some name
  | _ => none

/-- The names of the fields of a phrase, in the order of its subterms. -/
def Phrase.fieldNames (phrase : Phrase) : List String := phrase.subterms.filterMap Expr.fieldName?

theorem Phrase.mem_fieldNames {name : String} :
    name ∈ phrase.fieldNames ↔ .field name ∈ phrase.subterms := by
  rw [fieldNames, List.mem_filterMap]
  constructor
  · rintro ⟨e, he, hname⟩
    cases e with
    | field name' =>
      cases hname
      exact he
    | _ => cases hname
  · exact fun h => ⟨_, h, rfl⟩

/-- The names of an account are those of the tree. -/
theorem FieldsStand.map_fst (h : FieldsStand source phrase ts places) :
    places.map Prod.fst = phrase.fieldNames := by
  induction h with
  | term _ ih | factor _ ih | unsigned _ ih | group _ _ _ ih => exact ih
  | lastArgument _ ih =>
    rw [ih]
    simp [Phrase.fieldNames, Phrase.subterms, Expr.subtermsOf]
  | plus _ _ _ _ ihl ihr | times _ _ _ _ ihl ihr | argument _ _ _ ihl ihr =>
    rw [List.map_append, ihl, ihr]
    simp [Phrase.fieldNames, Phrase.subterms, Expr.subterms, Expr.subtermsOf, List.filterMap_cons,
      Expr.fieldName?]
  | minus _ _ ih | sumAggregate _ _ _ _ _ _ _ _ ih | scalarCall _ _ _ _ _ ih
  | timeCall _ _ _ _ _ ih =>
    rw [ih]
    simp [Phrase.fieldNames, Phrase.subterms, Expr.subterms, List.filterMap_cons, Expr.fieldName?]
  | number | string | quotedName | names | countStar | textAggregate | scalar =>
    simp [Phrase.fieldNames, Phrase.subterms, Expr.subterms, Expr.subtermsOf, List.filterMap_cons,
      Expr.fieldName?]

theorem FieldsStand.mem_iff (h : FieldsStand source phrase ts places) {name : String} :
    (∃ p, (name, p) ∈ places) ↔ .field name ∈ phrase.subterms := by
  rw [← Phrase.mem_fieldNames, ← h.map_fst, List.mem_map]
  constructor
  · rintro ⟨p, hp⟩
    exact ⟨_, hp, rfl⟩
  · rintro ⟨⟨_, p⟩, hp, rfl⟩
    exact ⟨p, hp⟩

/-! ## The positions of an account -/

theorem AfterDistinct.sublist {counts : TokenKind → Prop} {us : List Token} {distinct : Bool}
    (h : AfterDistinct counts ts distinct us) : us.Sublist ts := by
  cases h with
  | present => exact List.sublist_cons_self _ _
  | absent => exact List.Sublist.refl _

/-- The positions of tokens stay in their order when tokens before and after them are added. -/
theorem sublist_positions {ps : List Nat} {us : List Token} (h : ps.Sublist (us.map Token.pos))
    (hts : us.Sublist ts) (name left right : Token) :
    ps.Sublist ((name :: left :: (ts ++ [right])).map Token.pos) := by
  have hlonger : us.Sublist (name :: left :: (ts ++ [right])) :=
    ((hts.trans (List.sublist_append_left ts [right])).cons left).cons name
  exact h.trans (hlonger.map Token.pos)

/-- The positions of an account are positions of tokens, in their order. -/
theorem FieldsStand.positions (h : FieldsStand source phrase ts places) :
    (places.map Prod.snd).Sublist (ts.map Token.pos) := by
  induction h with
  | term _ ih | factor _ ih | unsigned _ ih | lastArgument _ ih => exact ih
  | plus _ _ _ _ ihl ihr | times _ _ _ _ ihl ihr | argument _ _ _ ihl ihr =>
    rw [List.map_append, List.map_append, List.map_cons]
    exact ihl.append (ihr.cons _)
  | minus _ _ ih => exact ih.cons _
  | group _ _ _ ih =>
    rw [List.map_cons, List.map_append]
    exact (ih.trans (List.sublist_append_left _ _)).cons _
  | number | string | countStar | scalar => exact List.nil_sublist _
  | quotedName => exact List.Sublist.refl _
  | names => exact (List.nil_sublist _).cons_cons _
  | textAggregate _ _ _ _ htext =>
    exact sublist_positions ((List.nil_sublist _).cons_cons _) htext.1.sublist _ _ _
  | sumAggregate _ _ _ _ _ hdistinct _ _ ih =>
    exact sublist_positions ih hdistinct.sublist _ _ _
  | scalarCall _ _ _ _ _ ih | timeCall _ _ _ _ _ ih =>
    exact sublist_positions ih (List.Sublist.refl _) _ _ _

/-- The positions of tokens increase, from that of the text on. -/
theorem Lexer.tokensFrom_increasing {pos : Nat} {cs : List Char}
    (h : Lexer.tokensFrom pos cs = .ok ts) :
    (∀ t ∈ ts, pos ≤ t.pos) ∧ (ts.map Token.pos).Pairwise (· < ·) := by
  fun_induction Lexer.tokensFrom pos cs generalizing ts with
  | case1 =>
    cases h
    exact ⟨fun _ ht => absurd ht List.not_mem_nil, List.Pairwise.nil⟩
  | case2 => cases h
  | case3 pos c cs kind? more hlength ih =>
    obtain ⟨rest, hrest, h⟩ := bind_eq_ok.1 h
    obtain ⟨hlow, hrest⟩ := ih hrest
    have hafter : ∀ t ∈ rest, pos < t.pos := fun t ht => by
      have := hlow t ht
      omega
    cases kind? with
    | none =>
      rw [← pure_eq_ok.1 h]
      exact ⟨fun t ht => Nat.le_of_lt (hafter t ht), hrest⟩
    | some kind =>
      rw [← pure_eq_ok.1 h]
      refine ⟨List.forall_mem_cons.2 ⟨Nat.le_refl _, fun t ht => Nat.le_of_lt (hafter t ht)⟩, ?_⟩
      rw [List.map_cons, List.pairwise_cons]
      exact ⟨List.forall_mem_map.2 hafter, hrest⟩

/-- The positions of an account of all tokens of a text increase. -/
theorem FieldsStand.increasing (h : FieldsStand source phrase ts places)
    (hts : Lexer.tokens source = .ok ts) : (places.map Prod.snd).Pairwise (· < ·) :=
  (Lexer.tokensFrom_increasing hts).2.sublist h.positions

end Accounts

/-- The fields of an expression that is read have an account. -/
theorem Expr.fieldsStand_of_parse {text : String} {e : Expr} (h : Expr.parse text = .ok e) :
    ∃ ts places, Lexer.tokens (stripBlanks text.toList) = .ok ts
      ∧ FieldsStand (stripBlanks text.toList) (.sum e) ts places := by
  obtain ⟨ts, hts, hderives⟩ := Expr.parse_sound h
  obtain ⟨places, hplaces⟩ := (hderives.spells (tokens_slice hts)).fieldsStand
  exact ⟨ts, places, hts, hplaces⟩

end MetricLayer
