import MetricLayer.Metric.Compile
import MetricLayer.Proofs.Expr.Faults
import MetricLayer.Proofs.Expr.Language
import MetricLayer.Proofs.Expr.Parentheses

/-!
# Trial compilation

A diagnosis says of a text what compiling it does (`diagnose_errors`): it has no errors when the text
compiles, and one when it does not, which is the wording of the fault.

Parentheses are looked at twice, before a text is cut into tokens and after it was compiled.  The
second look never finds anything new: a text whose parentheses do not match is refused for that
(`ofText_unbalanced_iff`), since no fault that is found later has that wording
(`message_eq_unbalanced`) and no text is blank that holds a parenthesis.
-/

namespace MetricLayer

open MetricLayer.Parser MetricLayer.Text

variable {text : String} {fault : ExprFault}

/-! ## The fault of unmatched parentheses -/

theorem prefix_append {start : List Char} {s : String} (h : start <+: s.toList) (t : String) :
    start <+: (s ++ t).toList := by
  rw [String.toList_append]
  exact h.trans (List.prefix_append _ _)

/-- No other fault has the wording of parentheses that do not match. -/
theorem ExprFault.message_eq_unbalanced :
    fault.message = ExprFault.unbalanced.message ↔ fault = .unbalanced := by
  refine ⟨fun h => ?_, congrArg message⟩
  have hstart : ∀ start, start <+: fault.message.toList → start.length = 3 →
      start ≠ ['U', 'n', 'b'] → False := by
    intro start hstart hlength hne
    have hunb : ['U', 'n', 'b'] <+: fault.message.toList := by
      rw [h]
      decide
    have hle := List.prefix_of_prefix_length_le hstart hunb (by rw [hlength]; decide)
    exact hne (hle.eq_of_length hlength)
  have hend : ∀ start tail : String, tail.toList.getLast? = some 't' →
      fault.message ≠ start ++ tail := by
    intro start tail htail hmessage
    have hlast : fault.message.toList.getLast? = some 's' := by
      rw [h]
      decide
    rw [hmessage, String.toList_append, List.getLast?_append, htail, Option.some_or] at hlast
    exact absurd hlast (by decide)
  cases fault with
  | unbalanced => rfl
  | blank => exact (hstart ['E', 'x', 'p'] (by decide) rfl (by decide)).elim
  | nestedTimeCall => exact (hstart ['T', 'i', 'm'] (by decide) rfl (by decide)).elim
  | partialTimeCall => exact (hstart ['T', 'i', 'm'] (by decide) rfl (by decide)).elim
  | unsupportedFunction =>
    refine (hstart ['U', 'n', 's'] ?_ rfl (by decide)).elim
    exact prefix_append (prefix_append (by decide) _) _
  | storedCall =>
    refine (hstart ['S', 't', 'o'] ?_ rfl (by decide)).elim
    exact prefix_append (prefix_append (by decide) _) _
  | unexpectedCharacter =>
    refine (hstart ['U', 'n', 'e'] ?_ rfl (by decide)).elim
    exact prefix_append (prefix_append (prefix_append (by decide) _) _) _
  | unspannedTimeCall =>
    refine (hstart ['I', 'n', 'v'] ?_ rfl (by decide)).elim
    exact prefix_append (prefix_append (prefix_append (by decide) _) _) _
  | unexpectedToken =>
    refine (hstart ['S', 'y', 'n'] ?_ rfl (by decide)).elim
    exact prefix_append (prefix_append (prefix_append (prefix_append (prefix_append
      (by decide) _) _) _) _) _
  | typeMismatch =>
    refine (hstart ['M', 'e', 't'] ?_ rfl (by decide)).elim
    exact prefix_append (prefix_append (prefix_append (prefix_append (prefix_append (prefix_append
      (by decide) _) _) _) _) _) _
  | argumentCount func =>
    refine (hstart (func.name.toList.take 3) ?_ ?_ ?_).elim
    · exact prefix_append (prefix_append (List.take_prefix 3 _) _) _
    · cases func <;> rfl
    · cases func <;> decide
  | embeddedTimeCall func =>
    refine (hstart (func.name.toList.take 3) ?_ ?_ ?_).elim
    · exact prefix_append (List.take_prefix 3 _) _
    · cases func <;> rfl
    · cases func <;> decide
  -- the name that comes first is any word, so it is the end that differs
  | missingArgument name => exact absurd rfl (hend name "() requires an argument" (by decide))

/-- What is found among the tokens of a source is not about its parentheses as a whole. -/
theorem parseChars_ne_unbalanced (source : List Char) :
    parseChars source ≠ .error .unbalanced := by
  intro h
  rcases parseChars_fault h with ⟨c, n, hfault, -⟩ | ⟨ts, -, hfault⟩
  · cases hfault
  · cases hfault

theorem Expr.parse_unbalanced_iff :
    Expr.parse text = .error .unbalanced ↔ isBalanced text.toList = false := by
  constructor
  · intro h
    rcases Expr.parse_fault h with ⟨hfault, -⟩ | ⟨-, -, hbalanced⟩ | ⟨-, h⟩
    · cases hfault
    · exact hbalanced
    · exact absurd h (parseChars_ne_unbalanced _)
  · intro h
    have hblank : isBlankText text = false := by
      rw [← Bool.not_eq_true]
      intro hblank
      rw [isBalanced_of_blank hblank] at h
      cases h
    unfold Expr.parse requireBalanced
    rw [hblank, h]
    rfl

namespace Compiled

theorem ofTimeCall_ne_unbalanced (name : String) (e : Expr) :
    ofTimeCall name e ≠ .error .unbalanced := by
  unfold ofTimeCall
  split
  · split <;> simp
  · simp

theorem ofOrdinary_ne_unbalanced (source : String) (e : Expr) :
    ofOrdinary source e ≠ .error .unbalanced := by
  unfold ofOrdinary
  split
  · simp
  · split <;> simp

/-- A text is refused for its parentheses exactly when they do not match. -/
theorem ofText_unbalanced_iff :
    ofText text = .error .unbalanced ↔ isBalanced text.toList = false := by
  rw [← Expr.parse_unbalanced_iff]
  constructor
  · intro h
    rcases bind_eq_error.1 h with h | ⟨e, -, h⟩
    · exact h
    · dsimp only at h
      split at h
      · exact absurd h (ofTimeCall_ne_unbalanced _ e)
      · exact absurd h (ofOrdinary_ne_unbalanced _ e)
  · exact fun h => bind_eq_error.2 (.inl h)

end Compiled

/-! ## Diagnoses -/

/-- The second look at the parentheses sees what the first one saw. -/
theorem depthAfter_ne_zero_iff {cs : List Char} : depthAfter 0 cs ≠ 0 ↔ isBalanced cs = false := by
  rw [← Bool.not_eq_true]
  exact not_congr (@depthAfter_eq_zero 0 cs)

/-- The errors of a diagnosis are those of compiling the text. -/
theorem diagnose_errors (text : String) :
    (diagnose text).errors = match Compiled.ofText text with
      | .ok _ => []
      | .error fault => [fault.message] := by
  have hsecond : depthAfter 0 text.toList = 0 ∨ Compiled.ofText text = .error .unbalanced := by
    rw [Compiled.ofText_unbalanced_iff, ← depthAfter_ne_zero_iff]
    exact eq_or_ne _ _
  unfold diagnose
  rcases hsecond with hdepth | hfault
  · exact congrArg Diagnosis.errors (if_neg (by simp [hdepth]))
  · rw [hfault]
    exact congrArg Diagnosis.errors (if_neg (by simp))

/-- A text is reported as valid exactly when it compiles. -/
theorem isValid_iff : (diagnose text).isValid = true ↔ ∃ c, Compiled.ofText text = .ok c := by
  rw [Diagnosis.isValid, diagnose_errors]
  cases Compiled.ofText text <;> simp

theorem mem_errors_iff {message : String} :
    message ∈ (diagnose text).errors ↔ ∃ fault, Compiled.ofText text = .error fault
      ∧ message = fault.message := by
  rw [diagnose_errors]
  cases Compiled.ofText text <;> simp

/-- No error is reported twice. -/
theorem errors_nodup (text : String) : (diagnose text).errors.Nodup := by
  rw [diagnose_errors]
  cases Compiled.ofText text <;> simp

/-- **Trial compilation agrees with compilation.**  A text is reported as valid exactly when it
compiles and with an error exactly when it does not.  The error about parentheses is reported once
for a text whose parentheses do not match, and not at all for any other. -/
theorem diagnose_agrees (text : String) :
    ((diagnose text).isValid = true ↔ ∃ c, Compiled.ofText text = .ok c)
      ∧ ((diagnose text).errors ≠ [] ↔ ¬∃ c, Compiled.ofText text = .ok c)
      ∧ ((diagnose text).errors.count "Unbalanced parentheses" = 1 ↔ ¬MatchedParens text.toList)
      ∧ ((diagnose text).errors.count "Unbalanced parentheses" = 0 ↔ MatchedParens text.toList) := by
  have hempty : (diagnose text).errors ≠ [] ↔ ¬∃ c, Compiled.ofText text = .ok c := by
    rw [← isValid_iff, Diagnosis.isValid, List.isEmpty_iff]
  have hmem : "Unbalanced parentheses" ∈ (diagnose text).errors ↔ ¬MatchedParens text.toList := by
    rw [← isBalanced_iff, Bool.not_eq_true, ← Compiled.ofText_unbalanced_iff, mem_errors_iff]
    constructor
    · rintro ⟨fault, hfault, hmessage⟩
      rw [hfault, ExprFault.message_eq_unbalanced.1 hmessage.symm]
    · exact fun h => ⟨.unbalanced, h, rfl⟩
  refine ⟨isValid_iff, hempty, ?_, ?_⟩
  · rw [← hmem, ← List.count_pos_iff]
    have := List.nodup_iff_count_le_one.1 (errors_nodup text) "Unbalanced parentheses"
    omega
  · rw [List.count_eq_zero, hmem, not_not]

end MetricLayer
