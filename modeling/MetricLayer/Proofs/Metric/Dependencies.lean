import MetricLayer.Proofs.Expr.FieldPlaces
import MetricLayer.Proofs.Metric.Kind
import MetricLayer.Proofs.Text.Occurrences

/-!
# The dependencies of a metric

A formula and a call of a time function are stored with the capitalised names of their fields.
These are collected from the tree of the expression, and for a call from its arguments one after
another.  Both give each name once and the names in the order of the text, by the position at which
each is first read as a field (`dependencies_in_text_order`).
-/

namespace MetricLayer

open MetricLayer.Parser MetricLayer.Text

/-! ## First places -/

namespace FieldPlaces

/-- The position at which a field of the name stands first. -/
def FirstAt (places : FieldPlaces) (name : String) (p : Nat) : Prop :=
  (name, p) ∈ places ∧ ∀ q, (name, q) ∈ places → p ≤ q

/-- A field of the one name stands before all fields of the other. -/
def Precedes (places : FieldPlaces) (a b : String) : Prop :=
  ∃ p q, places.FirstAt a p ∧ places.FirstAt b q ∧ p < q

variable {places : FieldPlaces} {name other : String} {p q : Nat}

theorem FirstAt.cons_self (h : ∀ q ∈ places.map Prod.snd, p < q) :
    FirstAt ((name, p) :: places) name p := by
  refine ⟨List.mem_cons_self, fun q hq => ?_⟩
  rcases List.mem_cons.1 hq with hq | hq
  · cases hq
    exact Nat.le_refl p
  · exact Nat.le_of_lt (h q (List.mem_map_of_mem hq))

theorem FirstAt.cons_of_ne (h : places.FirstAt other q) (hne : other ≠ name) :
    FirstAt ((name, p) :: places) other q := by
  refine ⟨List.mem_cons_of_mem _ h.1, fun r hr => ?_⟩
  rcases List.mem_cons.1 hr with hr | hr
  · cases hr
    exact absurd rfl hne
  · exact h.2 r hr

theorem exists_firstAt (h : (places.map Prod.snd).Pairwise (· < ·))
    (hname : name ∈ places.map Prod.fst) : ∃ p, places.FirstAt name p := by
  induction places with
  | nil => cases hname
  | cons place rest ih =>
    obtain ⟨first, p⟩ := place
    obtain ⟨hfirst, hrest⟩ := List.pairwise_cons.1 h
    by_cases hne : name = first
    · exact ⟨p, hne ▸ .cons_self hfirst⟩
    · obtain ⟨q, hq⟩ := ih hrest ((List.mem_cons.1 hname).resolve_left hne)
      exact ⟨q, hq.cons_of_ne hne⟩

/-- Where positions increase, names whose repetitions are left out are ordered by their first
places. -/
theorem pairwise_firstOccurrences (h : (places.map Prod.snd).Pairwise (· < ·)) :
    (firstOccurrences (places.map Prod.fst)).Pairwise places.Precedes := by
  induction places with
  | nil => exact List.Pairwise.nil
  | cons place rest ih =>
    obtain ⟨first, p⟩ := place
    obtain ⟨hfirst, hrest⟩ := List.pairwise_cons.1 h
    have hlater : ∀ a ∈ (firstOccurrences (rest.map Prod.fst)).filter (· ≠ first),
        a ≠ first ∧ a ∈ rest.map Prod.fst := by
      intro a ha
      obtain ⟨hin, hne⟩ := List.mem_filter.1 ha
      exact ⟨of_decide_eq_true hne, mem_firstOccurrences.1 hin⟩
    rw [List.map_cons, firstOccurrences, List.pairwise_cons]
    constructor
    · intro b hb
      obtain ⟨hne, hin⟩ := hlater b hb
      obtain ⟨q, hq⟩ := exists_firstAt hrest hin
      exact ⟨p, q, .cons_self hfirst, hq.cons_of_ne hne, hfirst q (List.mem_map_of_mem hq.1)⟩
    · refine ((ih hrest).filter _).imp_of_mem fun {a b} ha hb hab => ?_
      obtain ⟨q, r, hq, hr, hlt⟩ := hab
      exact ⟨q, r, hq.cons_of_ne (hlater a ha).1, hr.cons_of_ne (hlater b hb).1, hlt⟩

end FieldPlaces

/-! ## Dependencies of expressions -/

namespace Expr

/-- The dependencies are the capitalised names of the fields, each once. -/
theorem dependencies_eq (e : Expr) :
    e.dependencies = (firstOccurrences (Phrase.sum e).fieldNames).filter isCapitalised := by
  rw [← firstOccurrences_filter, dependencies, Phrase.fieldNames, List.filter_filterMap]
  refine congrArg firstOccurrences (List.filterMap_congr fun f _ => ?_)
  cases f with
  | field name =>
    show (if isCapitalised name = true then some name else none)
      = Option.filter isCapitalised (some name)
    rw [Option.filter_some]
  | _ => rfl

theorem mem_dependencies {e : Expr} {name : String} :
    name ∈ e.dependencies ↔ .field name ∈ e.subterms ∧ isCapitalised name = true := by
  rw [dependencies_eq, List.mem_filter, mem_firstOccurrences, Phrase.mem_fieldNames]
  rfl

theorem nodup_dependencies (e : Expr) : e.dependencies.Nodup := nodup_firstOccurrences _

/-- What the arguments of a call depend on, taken together, is what the call depends on. -/
theorem dependencies_timeCall (func : TimeFunction) (args : List Expr) (argsText : String) :
    (timeCall func args argsText).dependencies
      = firstOccurrences (args.flatMap Expr.dependencies) := by
  have hparts : ∀ es, subtermsOf es = es.flatMap subterms := by
    intro es
    induction es with
    | nil => rfl
    | cons e es ih => rw [subtermsOf, ih, List.flatMap_cons]
  unfold dependencies
  rw [firstOccurrences_flatMap, subterms, List.filterMap_cons_none rfl, hparts,
    List.filterMap_flatMap]

/-- The order of the dependencies is that of the first places of the fields. -/
theorem pairwise_dependencies {e : Expr} {source : List Char} {ts : List Token}
    {places : FieldPlaces} (hts : Lexer.tokens source = .ok ts)
    (h : FieldsStand source (.sum e) ts places) : e.dependencies.Pairwise places.Precedes := by
  rw [dependencies_eq, ← h.map_fst]
  exact (FieldPlaces.pairwise_firstOccurrences (h.increasing hts)).filter _

end Expr

namespace Compiled

/-- The dependencies of a formula or a call of a time function are those of its expression. -/
theorem CompilesTo.dependencies_eq {source : String} {e : Expr} {c : Compiled} {deps : List String}
    (h : CompilesTo source e c) (hdeps : (∃ formula, c = .formula formula deps)
      ∨ ∃ func argsText, c = .timeIntel func argsText deps) : deps = e.dependencies := by
  cases h with
  | timeIntel =>
    rcases hdeps with ⟨formula, h⟩ | ⟨func, argsText, h⟩
    · cases h
    · cases h
      exact (Expr.dependencies_timeCall _ _ _).symm
  | aggregation => rcases hdeps with ⟨formula, h⟩ | ⟨func, argsText, h⟩ <;> cases h
  | formula =>
    rcases hdeps with ⟨formula, h⟩ | ⟨func, argsText, h⟩
    · cases h
      rfl
    · cases h

end Compiled

/-- **The dependencies follow the text.**  A text that compiles to a formula or to a call of a time
function is read as an expression, and its dependencies are the capitalised names of the fields of
this expression, each once, ordered by the positions at which fields of the names stand first.  For
a call, what its arguments depend on one after another is what the call depends on. -/
theorem dependencies_in_text_order {text : String} {c : Compiled} {deps : List String}
    (h : Compiled.ofText text = .ok c) (hdeps : (∃ formula, c = .formula formula deps)
      ∨ ∃ func argsText, c = .timeIntel func argsText deps) :
    ∃ e ts, Expr.parse text = .ok e
      ∧ Lexer.tokens (stripBlanks text.toList) = .ok ts
      ∧ deps.Nodup
      ∧ (∀ name, name ∈ deps ↔ .field name ∈ e.subterms ∧ isCapitalised name = true)
      ∧ (∃ places, FieldsStand (stripBlanks text.toList) (.sum e) ts places)
      ∧ (∀ places, FieldsStand (stripBlanks text.toList) (.sum e) ts places →
        (∀ name, (∃ p, (name, p) ∈ places) ↔ .field name ∈ e.subterms)
        ∧ deps.Pairwise fun a b => ∃ p q, places.FirstAt a p ∧ places.FirstAt b q ∧ p < q)
      ∧ deps = e.dependencies := by
  obtain ⟨e, hparse, -, hcompiles⟩ := Compiled.ofText_eq_ok.1 h
  obtain rfl := hcompiles.dependencies_eq hdeps
  obtain ⟨ts, places, hts, hplaces⟩ := Expr.fieldsStand_of_parse hparse
  refine ⟨e, ts, hparse, hts, e.nodup_dependencies, fun _ => Expr.mem_dependencies,
    ⟨places, hplaces⟩, fun places hplaces => ⟨fun name => hplaces.mem_iff, ?_⟩, rfl⟩
  exact Expr.pairwise_dependencies hts hplaces

/-! ## A difference of differences -/

/-- A formula with a field that stands twice and a field whose name is not capitalised. -/
def marginText : String := "Net - cost / Gross - Net"

theorem parse_marginText :
    Expr.parse marginText = .ok (.binary .sub (.binary .sub (.field "Net")
      (.binary .div (.field "cost") (.field "Gross"))) (.field "Net")) := by
  have htokens : Lexer.tokens (stripBlanks marginText.toList)
      = .ok [⟨.name, "Net".toList, 0⟩, ⟨.operator, ['-'], 4⟩, ⟨.name, "cost".toList, 6⟩,
        ⟨.operator, ['/'], 11⟩, ⟨.name, "Gross".toList, 13⟩, ⟨.operator, ['-'], 19⟩,
        ⟨.name, "Net".toList, 21⟩] := by
    cbv
  refine Expr.parse_eq_ok.2 ⟨by decide, by decide, ?_⟩
  refine parseChars_complete htokens (by decide) ?_
  have hname : ∀ (chars : List Char) (pos : Nat), Derives (stripBlanks marginText.toList)
      (.signed (.field (String.ofList chars))) [⟨.name, chars, pos⟩] :=
    fun chars pos => .signed (.loneField (t := ⟨.name, chars, pos⟩) rfl)
  have hratio := Derives.multiplication (.product (hname "cost".toList 6))
    (show productOperator? ⟨.operator, ['/'], 11⟩ = some .div by decide) (hname "Gross".toList 13)
  have hnet := Derives.addition (.sum (.product (hname "Net".toList 0)))
    (show sumOperator? ⟨.operator, ['-'], 4⟩ = some .sub by decide) hratio
  exact .addition hnet (show sumOperator? ⟨.operator, ['-'], 19⟩ = some .sub by decide)
    (.product (hname "Net".toList 21))

theorem compiled_marginText :
    Compiled.ofText marginText = .ok (.formula "Net - cost / Gross - Net" ["Net", "Gross"]) := by
  have hleading : Compiled.leadingTimeCall? (strip marginText).toList = none := by cbv
  rw [Compiled.ofText_ordinary parse_marginText hleading]
  decide +kernel

theorem marginText_dependencies :
    Compiled.ofText marginText = .ok (.formula "Net - cost / Gross - Net" ["Net", "Gross"])
      ∧ ∃ e, Expr.parse marginText = .ok e ∧ ["Net", "Gross"] = e.dependencies
        ∧ ∃ ts places, FieldsStand (stripBlanks marginText.toList) (.sum e) ts places
          ∧ ∃ p q, places.FirstAt "Net" p ∧ places.FirstAt "Gross" q ∧ p < q := by
  obtain ⟨e, ts, hparse, -, -, -, ⟨places, hplaces⟩, horder, hdeps⟩ :=
    dependencies_in_text_order compiled_marginText (.inl ⟨_, rfl⟩)
  have hpair := (horder places hplaces).2
  exact ⟨compiled_marginText, e, hparse, hdeps, ts, places, hplaces,
    List.rel_of_pairwise_cons hpair List.mem_cons_self⟩

end MetricLayer
