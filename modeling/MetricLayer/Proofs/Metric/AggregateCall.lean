import MetricLayer.Proofs.Expr.CallText
import MetricLayer.Proofs.Metric.LeadingCall

/-!
# Calls of an aggregate

The name of an aggregate is a word in any case (`aggregateName_spelled`), and no time function leads
a text that it leads.  So the call of an aggregate is compiled as what is read of it
(`ofText_callText`).
-/

namespace MetricLayer

open MetricLayer.Parser MetricLayer.Text

theorem isAlpha_of_toUpper {c : Char} (h : c.toUpper.isAlpha = true) : c.isAlpha = true := by
  by_cases hlower : c.isLower = true
  · rw [Char.isAlpha, hlower, Bool.or_true]
  · have hsame : c.toUpper = c := by
      simp only [Char.isLower, Bool.and_eq_true, decide_eq_true_eq] at hlower
      rw [Char.toUpper, dif_neg hlower]
    rwa [hsame] at h

variable {name inside : String} {func : Aggregate} {e : Expr}

/-- The name of an aggregate is a word in any case. -/
theorem aggregateName_spelled (h : name.toUpper = func.name) : Lexer.Spelled .name name.toList := by
  have hletters : ∀ c ∈ name.toList, c.isAlpha = true := by
    have hfunc : func.name.toList.all Char.isAlpha = true := by cases func <;> decide
    rw [← h, toUpper_eq, String.toList_ofList, List.all_map, List.all_eq_true] at hfunc
    exact fun c hc => isAlpha_of_toUpper (hfunc c hc)
  cases hchars : name.toList with
  | nil =>
    rw [toUpper_eq, hchars] at h
    exact absurd h (by cases func <;> decide)
  | cons c cs =>
    rw [hchars] at hletters
    refine ⟨c, cs, rfl, ?_, fun d hd => ?_⟩
    · rw [Lexer.isNameStart, hletters c List.mem_cons_self, Bool.true_or]
    · rw [Lexer.isNameChar, Char.isAlphanum, hletters d (List.mem_cons_of_mem _ hd), Bool.true_or,
        Bool.true_or]

/-- The token of the name names the aggregate. -/
theorem aggregateName_upper (h : name.toUpper = func.name) (pos : Nat) :
    Aggregate.ofName? (⟨.name, name.toList, pos⟩ : Token).upper = some func :=
  aggregate_ofName?_eq_some.2 ((toUpper_eq name).symm.trans h)

/-- No time function leads a text that an aggregate leads. -/
theorem leadingTimeCall?_aggregate (h : name.toUpper = func.name) (rest : List Char) :
    Compiled.leadingTimeCall? (name.toList ++ '(' :: rest) = none := by
  have hcall : Compiled.leadingCall? (name.toList ++ '(' :: rest) = some name.toList :=
    Compiled.leadingCall?_eq_some.2
      ⟨[], rest, rfl, aggregateName_spelled h, List.forall_mem_nil _⟩
  have hfunc : TimeFunction.ofUpper? name.toUpper = none :=
    (aggregate_exclusive (aggregate_ofName?_eq_some.2 h)).1
  rw [Compiled.leadingTimeCall?, hcall, Option.bind_some, ← toUpper_eq]
  dsimp only
  rw [hfunc]
  rfl

/-- What is read of the call is compiled as an expression that no time function starts. -/
theorem ofText_callText (hname : name.toUpper = func.name)
    (h : Expr.parse (callText name inside) = .ok e) :
    Compiled.ofText (callText name inside) = Compiled.ofOrdinary (callText name inside) e := by
  obtain ⟨hstripped, -⟩ := callText_isStripped (aggregateName_spelled hname) inside
  have hsource : strip (callText name inside) = callText name inside := by
    rw [strip, hstripped.stripBlanks_eq, String.ofList_toList]
  have hleading : Compiled.leadingTimeCall? (strip (callText name inside)).toList = none := by
    rw [hsource, toList_callText]
    exact leadingTimeCall?_aggregate hname _
  have hordinary := Compiled.ofText_ordinary h hleading
  rwa [hsource] at hordinary

end MetricLayer
