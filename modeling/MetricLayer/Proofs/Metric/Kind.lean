import MetricLayer.Proofs.Expr.Language
import MetricLayer.Proofs.Expr.Numerals
import MetricLayer.Proofs.Metric.StoredForm

/-!
# The kind of a metric

Two views of a text decide what it is compiled to: the characters that it starts with say whether a
call of a time function leads it (`leadingTimeCall?_isSome`), and its expression says everything
else.

* `derives_leads`: tokens that the name of a time function and a parenthesis lead derive nothing
  without a call of a time function.
* `isWrapped_iff`: an expression that is such a call is led by it, unless the call stands in
  parentheses.
* `ofText_eq_ok`: so a text compiles to what its expression alone determines (`CompilesTo`), or not
  at all.
-/

namespace MetricLayer

open MetricLayer.Parser MetricLayer.Text

/-! ## Calls of time functions inside an expression -/

namespace Expr

variable {e : Expr} {func : TimeFunction} {args : List Expr} {argsText : String}

theorem containsTimeCall_eq_false :
    e.containsTimeCall = false ↔ ∀ t ∈ e.subterms, t.isTimeCall = false := by
  simp [containsTimeCall]

theorem containsTimeCall_of_mem {t : Expr} (h : t ∈ e.subterms) (ht : t.isTimeCall = true) :
    e.containsTimeCall = true :=
  List.any_eq_true.2 ⟨t, h, ht⟩

theorem isTimeCall_of_contains (h : e.containsTimeCall = false) : e.isTimeCall = false := by
  cases e with
  | timeCall => cases h
  | _ => rfl

/-- A time function is called in an argument of another one. -/
def HasNestedTimeCall (e : Expr) : Prop :=
  ∃ func args argsText, .timeCall func args argsText ∈ e.subterms
    ∧ ∃ a ∈ args, a.containsTimeCall = true

/-- The expression is no call of a time function, but has one as a part. -/
def HasInnerTimeCall (e : Expr) : Prop := e.isTimeCall = false ∧ e.containsTimeCall = true

theorem HasNestedTimeCall.contains (h : e.HasNestedTimeCall) : e.containsTimeCall = true := by
  obtain ⟨func, args, argsText, hmem, -⟩ := h
  exact containsTimeCall_of_mem hmem rfl

/-- Calls are nested in a call exactly if one of its arguments contains one. -/
theorem hasNestedTimeCall_timeCall : (timeCall func args argsText).HasNestedTimeCall
    ↔ ∃ a ∈ args, a.containsTimeCall = true := by
  constructor
  · rintro ⟨func', args', argsText', hmem, hnested⟩
    rw [subterms, List.mem_cons] at hmem
    rcases hmem with hmem | hmem
    · obtain ⟨rfl, rfl, rfl⟩ := timeCall.inj hmem
      exact hnested
    · obtain ⟨a, ha, hmem⟩ := mem_subtermsOf.1 hmem
      exact ⟨a, ha, containsTimeCall_of_mem hmem rfl⟩
  · exact fun h => ⟨func, args, argsText, by simp [subterms], h⟩

end Expr

/-! ## Tokens that a call leads -/

section Derivations

variable {source : List Char} {phrase : Phrase} {ts ls rs : List Token} {t : Token}

theorem LeadsTimeCall.head (h : LeadsTimeCall (t :: ts)) : t.kind = .name := by
  cases ts with
  | nil => exact h.elim
  | cons u ts => exact h.1

/-- What leads a list of tokens leads its part before any token but an opening parenthesis. -/
theorem LeadsTimeCall.of_append (h : LeadsTimeCall (ls ++ t :: rs)) (hls : ls ≠ [])
    (ht : t.kind ≠ .leftParen) : LeadsTimeCall ls := by
  match ls, hls with
  | [u], _ => exact absurd h.2.1 ht
  | u :: v :: ls, _ => exact h

/-- Tokens that the call of a time function leads derive nothing without such a call. -/
theorem derives_leads (h : Derives source phrase ts) (hleads : LeadsTimeCall ts) :
    ∃ e ∈ phrase.subterms, e.isTimeCall = true := by
  induction h with
  | sum _ ih | product _ ih | signed _ ih => exact ih hleads
  | lastArgument _ ih =>
    obtain ⟨e, he, hcall⟩ := ih hleads
    exact ⟨e, by simpa [Phrase.subterms, Expr.subtermsOf] using he, hcall⟩
  | addition hl hop _ ih _ =>
    have hkind := (sumOperator?_eq_some.1 hop).2.1
    obtain ⟨e, he, hcall⟩ := ih (hleads.of_append (derives_ne_nil hl) (by rw [hkind]; decide))
    exact ⟨e, List.mem_cons_of_mem _ (List.mem_append_left _ he), hcall⟩
  | multiplication hl hop _ ih _ =>
    have hkind := (productOperator?_eq_some.1 hop).2.1
    obtain ⟨e, he, hcall⟩ := ih (hleads.of_append (derives_ne_nil hl) (by rw [hkind]; decide))
    exact ⟨e, List.mem_cons_of_mem _ (List.mem_append_left _ he), hcall⟩
  | argument hl hcomma _ ih _ =>
    obtain ⟨e, he, hcall⟩ := ih (hleads.of_append (derives_ne_nil hl) (by rw [hcomma]; decide))
    exact ⟨e, List.mem_append_left _ he, hcall⟩
  | number | string | quotedName | loneField => exact hleads.elim
  | minus hop =>
    have hkind := hleads.head
    simp [Token.isOperator, hkind] at hop
  | @field first names hfirst hnames =>
    cases names with
    | nil => exact hleads.elim
    | cons second names =>
      have hparen := hleads.2.1
      rw [hnames second List.mem_cons_self] at hparen
      cases hparen
  | group hleft =>
    have hkind := hleads.head
    rw [hleft] at hkind
    cases hkind
  -- no name is that of a time function and of something else
  | countStar _ hcount =>
    have htime := hleads.2.2
    rw [hcount, (aggregate_exclusive (s := "COUNT") rfl).1] at htime
    cases htime
  | plainAggregate _ hfunc | aggregate _ hfunc =>
    have htime := hleads.2.2
    rw [(aggregate_exclusive hfunc).1] at htime
    cases htime
  | scalar _ hfunc | scalarCall _ hfunc =>
    have htime := hleads.2.2
    rw [(scalar_exclusive hfunc).2] at htime
    cases htime
  | timeCall => exact ⟨_, List.mem_cons_self, rfl⟩

/-- The tokens of a call of a time function are led by it, or they are those of the call in
parentheses. -/
theorem derives_isTimeCall {e : Expr} (h : Derives source (.sum e) ts)
    (hcall : e.isTimeCall = true) : LeadsTimeCall ts ∨ ∃ left us right, ts = left :: (us ++ [right])
      ∧ left.kind = .leftParen ∧ right.kind = .rightParen ∧ Derives source (.sum e) us := by
  cases e with
  | timeCall func args argsText =>
    cases h with
    | sum h => cases h with
      | product h => cases h with
        | signed h => cases h with
          | group hleft h hright => exact .inr ⟨_, _, _, rfl, hleft, hright, h⟩
          | timeCall hname hfunc hleft => exact .inl ⟨hname, hleft, by rw [hfunc]; rfl⟩
  | _ => cases hcall

end Derivations

/-! ## The two views -/

/-- The expression is a call of a time function, and in its text the call stands in parentheses. -/
def IsWrappedTimeCall (text : String) (e : Expr) : Prop :=
  e.isTimeCall = true ∧ ∃ left inner right,
    Lexer.tokens (stripBlanks text.toList) = .ok (left :: (inner ++ [right]))
      ∧ left.kind = .leftParen ∧ right.kind = .rightParen
      ∧ TokensSpell (stripBlanks text.toList) (.sum e) inner

section Views

variable {text : String} {e : Expr}

theorem leadingTimeCall?_strip {ts : List Token}
    (h : Lexer.tokens (stripBlanks text.toList) = .ok ts) :
    (Compiled.leadingTimeCall? (strip text).toList).isSome = true ↔ LeadsTimeCall ts := by
  rw [strip, String.toList_ofList]
  exact Compiled.leadingTimeCall?_isSome (isStripped_stripBlanks _) h

/-- An expression that a call of a time function leads contains one. -/
theorem containsTimeCall_of_leading (hparse : Expr.parse text = .ok e)
    (h : (Compiled.leadingTimeCall? (strip text).toList).isSome = true) :
    e.containsTimeCall = true := by
  obtain ⟨ts, htokens, hsum⟩ := Expr.parse_sound hparse
  obtain ⟨t, ht, hcall⟩ := derives_leads hsum ((leadingTimeCall?_strip htokens).1 h)
  exact Expr.containsTimeCall_of_mem ht hcall

/-- A call of a time function stands in parentheses exactly if it does not lead its text. -/
theorem isWrapped_iff (hparse : Expr.parse text = .ok e) : IsWrappedTimeCall text e ↔
    e.isTimeCall = true ∧ Compiled.leadingTimeCall? (strip text).toList = none := by
  obtain ⟨ts, htokens, hsum⟩ := Expr.parse_sound hparse
  have hleads := leadingTimeCall?_strip htokens
  rw [← Option.not_isSome_iff_eq_none, hleads]
  refine and_congr_right fun hcall => ⟨?_, fun hnot => ?_⟩
  · rintro ⟨left, inner, right, hwrapped, hleft, -, -⟩ hname
    rw [htokens] at hwrapped
    rw [Except.ok.inj hwrapped] at hname
    rw [hname.head] at hleft
    cases hleft
  · obtain ⟨left, us, right, rfl, hleft, hright, hinner⟩ :=
      (derives_isTimeCall hsum hcall).resolve_left hnot
    have hplace := tokens_slice htokens
    exact ⟨left, us, right, htokens, hleft, hright,
      hinner.spells fun t ht => hplace t (by simp [ht])⟩

end Views

/-! ## What an expression is compiled to -/

namespace Compiled

/-- What the expression of the text `source` is compiled to. -/
inductive CompilesTo (source : String) : Expr → Compiled → Prop
  | timeIntel {func : TimeFunction} {args : List Expr} {argsText : String}
      (hargs : ∀ a ∈ args, a.containsTimeCall = false) :
      CompilesTo source (.timeCall func args argsText)
        (.timeIntel func argsText (firstOccurrences (args.flatMap Expr.dependencies)))
  | aggregation {func : Aggregate} {name : String} :
      CompilesTo source (.aggregate func (.field name) false) (.aggregation func name)
  | formula {e : Expr} (hfield : ∀ func name, e ≠ .aggregate func (.field name) false)
      (hcall : e.containsTimeCall = false) :
      CompilesTo source e (.formula source e.dependencies)

variable {source text : String} {e : Expr} {c : Compiled}

theorem ofTimeCall_eq_ok (name source : String) :
    ofTimeCall name e = .ok c ↔ e.isTimeCall = true ∧ CompilesTo source e c := by
  cases e with
  | timeCall func args argsText =>
    rw [ofTimeCall]
    constructor
    · intro h
      split at h
      · cases h
      · next hargs =>
        cases h
        exact ⟨rfl, .timeIntel (by simpa using hargs)⟩
    · rintro ⟨-, h⟩
      cases h with
      | timeIntel hargs => exact if_neg (by simpa using hargs)
      | formula _ hcall => cases Expr.isTimeCall_of_contains hcall
  | _ =>
    constructor
    · intro h
      cases h
    · rintro ⟨h, -⟩
      cases h

theorem ofOrdinary_eq_ok :
    ofOrdinary source e = .ok c ↔ e.isTimeCall = false ∧ CompilesTo source e c := by
  unfold ofOrdinary
  split
  · constructor
    · intro h
      cases h
      exact ⟨rfl, .aggregation⟩
    · rintro ⟨-, h⟩
      cases h with
      | aggregation => rfl
      | formula hfield => exact absurd rfl (hfield _ _)
  · next hfield =>
    constructor
    · intro h
      split at h
      · cases h
      · next hcall =>
        cases h
        rw [Bool.not_eq_true] at hcall
        exact ⟨Expr.isTimeCall_of_contains hcall, .formula hfield hcall⟩
    · rintro ⟨htime, h⟩
      cases h with
      | timeIntel => cases htime
      | aggregation => exact (hfield _ _ rfl).elim
      | formula _ hcall => exact if_neg (by rw [hcall]; decide)

theorem CompilesTo.isTimeCall_of_contains (h : CompilesTo source e c)
    (hcall : e.containsTimeCall = true) : e.isTimeCall = true := by
  cases h with
  | timeIntel => rfl
  | aggregation => cases hcall
  | formula _ hnone =>
    rw [hnone] at hcall
    cases hcall

/-- A text that is read as an expression compiles to what the expression does, unless it is a call
of a time function in parentheses. -/
theorem ofText_of_parse (hparse : Expr.parse text = .ok e) :
    ofText text = .ok c ↔ ¬IsWrappedTimeCall text e ∧ CompilesTo (strip text) e c := by
  rw [isWrapped_iff hparse]
  cases hleading : leadingTimeCall? (strip text).toList with
  | some name =>
    have hcall := containsTimeCall_of_leading hparse (by rw [hleading]; rfl)
    rw [ofText_timeCall hparse hleading, ofTimeCall_eq_ok name (strip text)]
    exact ⟨fun h => ⟨fun hnone => (Option.some_ne_none _ hnone.2).elim, h.2⟩,
      fun h => ⟨h.2.isTimeCall_of_contains hcall, h.2⟩⟩
  | none =>
    rw [ofText_ordinary hparse hleading, ofOrdinary_eq_ok, ← Bool.not_eq_true, and_iff_left rfl]

theorem ofText_eq_ok : ofText text = .ok c ↔
    ∃ e, Expr.parse text = .ok e ∧ ¬IsWrappedTimeCall text e ∧ CompilesTo (strip text) e c := by
  constructor
  · intro h
    obtain ⟨e, hparse, -⟩ := bind_eq_ok.1 h
    exact ⟨e, hparse, (ofText_of_parse hparse).1 h⟩
  · rintro ⟨e, hparse, h⟩
    exact (ofText_of_parse hparse).2 h

/-- An expression is compiled to something unless a call of a time function is a part of it or of the
arguments of another one. -/
theorem exists_compilesTo : (∃ c, CompilesTo source e c) ↔
    ¬(e.HasNestedTimeCall ∨ e.HasInnerTimeCall) := by
  constructor
  · rintro ⟨c, h⟩ hcalls
    have hcontains : e.containsTimeCall = true := hcalls.elim (·.contains) (·.2)
    cases h with
    | timeIntel hargs =>
      rcases hcalls with hnested | hinner
      · obtain ⟨a, ha, hcall⟩ := Expr.hasNestedTimeCall_timeCall.1 hnested
        rw [hargs a ha] at hcall
        cases hcall
      · cases hinner.1
    | aggregation => cases hcontains
    | formula _ hnone =>
      rw [hnone] at hcontains
      cases hcontains
  · intro hcalls
    rw [not_or] at hcalls
    cases htime : e.isTimeCall with
    | true =>
      cases e with
      | timeCall func args argsText =>
        refine ⟨_, .timeIntel fun a ha => ?_⟩
        rw [← Bool.not_eq_true]
        exact fun hcall => hcalls.1 (Expr.hasNestedTimeCall_timeCall.2 ⟨a, ha, hcall⟩)
      | _ => cases htime
    | false =>
      have hnone : e.containsTimeCall = false := by
        rw [← Bool.not_eq_true]
        exact fun hcall => hcalls.2 ⟨htime, hcall⟩
      by_cases hfield : ∃ func name, e = .aggregate func (.field name) false
      · obtain ⟨func, name, rfl⟩ := hfield
        exact ⟨_, .aggregation⟩
      · exact ⟨_, .formula (fun func name he => hfield ⟨func, name, he⟩) hnone⟩

/-- The kind of the metric is that of the expression: a call of a time function, the aggregate over a
field, or anything else. -/
structure IsKindOf (c : Compiled) (e : Expr) : Prop where
  /-- The expression is a call of a time function. -/
  timeIntel : (∃ func argsText deps, c = .timeIntel func argsText deps)
    ↔ ∃ func args argsText, e = .timeCall func args argsText
  /-- In the arguments of the call no time function is called. -/
  args : ∀ func args argsText, e = .timeCall func args argsText →
    ∀ a ∈ args, a.containsTimeCall = false
  /-- The expression is an aggregate over a field, not over its distinct values. -/
  aggregation : (∃ func name, c = .aggregation func name)
    ↔ ∃ func name, e = .aggregate func (.field name) false
  /-- The expression is anything else without a call of a time function. -/
  formula : (∃ formula deps, c = .formula formula deps)
    ↔ e.containsTimeCall = false ∧ ¬∃ func name, e = .aggregate func (.field name) false

theorem CompilesTo.isKindOf (h : CompilesTo source e c) : c.IsKindOf e := by
  cases h with
  | timeIntel hargs =>
    refine ⟨by simp, ?_, by simp, ?_⟩
    · rintro _ _ _ ⟨⟩
      exact hargs
    · refine iff_of_false (by simp) fun h => ?_
      cases Expr.isTimeCall_of_contains h.1
  | aggregation => exact ⟨by simp, by simp, by simp, by simp⟩
  | formula hfield hcall =>
    have htime : ∀ func args argsText, e ≠ .timeCall func args argsText := by
      rintro func args argsText rfl
      cases Expr.isTimeCall_of_contains hcall
    refine ⟨by simp [htime], fun func args argsText he => absurd he (htime _ _ _), ?_, ?_⟩
    · simp [hfield]
    · simp [hcall, hfield]

end Compiled

/-- **The kind of a metric.**  A text that compiles is read as an expression of the kind of the
metric.  A text that is read as an expression compiles unless a time function is called in an
argument of another one, as a part of the expression, or in parentheses. -/
theorem kind_of_expression (text : String) :
    (∀ c, Compiled.ofText text = .ok c → ∃ e, Expr.parse text = .ok e ∧ c.IsKindOf e)
      ∧ ∀ e, Expr.parse text = .ok e → ((∃ c, Compiled.ofText text = .ok c) ↔
        ¬(e.HasNestedTimeCall ∨ e.HasInnerTimeCall ∨ IsWrappedTimeCall text e)) := by
  constructor
  · intro c hc
    obtain ⟨e, hparse, -, hcompiles⟩ := Compiled.ofText_eq_ok.1 hc
    exact ⟨e, hparse, hcompiles.isKindOf⟩
  · intro e hparse
    simp only [Compiled.ofText_of_parse hparse, exists_and_left, Compiled.exists_compilesTo]
    rw [and_comm, ← not_or, or_assoc]

/-- The call of a time function over a field and a text that holds parentheses. -/
theorem quotedParentheses_kind :
    Compiled.ofText quotedParentheses = .ok (.timeIntel .ytd "Net , 'it''s )('" ["Net"])
      ∧ Expr.parse quotedParentheses
        = .ok (.timeCall .ytd [.field "Net", .string "it's )("] "Net , 'it''s )('")
      ∧ (∃ e, Expr.parse quotedParentheses = .ok e
        ∧ (Compiled.timeIntel .ytd "Net , 'it''s )('" ["Net"]).IsKindOf e)
      ∧ ((∃ c, Compiled.ofText quotedParentheses = .ok c) ↔
        ¬((Expr.timeCall .ytd [.field "Net", .string "it's )("] "Net , 'it''s )('").HasNestedTimeCall
          ∨ (Expr.timeCall .ytd [.field "Net", .string "it's )("] "Net , 'it''s )('").HasInnerTimeCall
          ∨ IsWrappedTimeCall quotedParentheses
            (.timeCall .ytd [.field "Net", .string "it's )("] "Net , 'it''s )('"))) :=
  ⟨compiled_quotedParentheses, parse_quotedParentheses,
    (kind_of_expression quotedParentheses).1 _ compiled_quotedParentheses,
    (kind_of_expression quotedParentheses).2 _ parse_quotedParentheses⟩

end MetricLayer
