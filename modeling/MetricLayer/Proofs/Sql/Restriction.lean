import MetricLayer.Access.Policy
import MetricLayer.Proofs.Sql.FilterText
import MetricLayer.Proofs.Sql.Scan
import Mathlib.Data.List.ReduceOption

/-!
# Restrictions that are put together

A condition may be absent, so what it says is an optional meaning.

* `Restricts sql m` says that a text is a condition with the meaning, or empty when there is none.
* `Implies m n` says that one optional meaning restricts rows at least as much as another.
* `conjunction_restricts` and `bothFilters_implies` are the two ways in which restrictions are put
  together, on rendered texts and on filter trees: neither loses one of its parts.
-/

namespace MetricLayer.Sql

open Text AccessPolicy

/-! ## Optional meanings -/

/-- The text says what the meaning says; without one it is empty. -/
def Restricts (sql : String) : Option Meaning → Prop
  | none => sql = ""
  | some m => Clause sql m

/-- Wherever the first is true, the second is true or says nothing. -/
def Implies (m n : Option Meaning) : Prop :=
  ∀ n' ∈ n, ∃ m' ∈ m, ∀ v, m' v = .true → n' v = .true

theorem Implies.refl (m : Option Meaning) : Implies m m := fun n' hn => ⟨n', hn, fun _ h => h⟩

theorem Implies.trans {l m n : Option Meaning} (h : Implies l m) (h' : Implies m n) :
    Implies l n := by
  intro n' hn
  obtain ⟨m', hm, hmn⟩ := h' n' hn
  obtain ⟨l', hl, hlm⟩ := h m' hm
  exact ⟨l', hl, fun v hv => hmn v (hlm v hv)⟩

theorem implies_none (m : Option Meaning) : Implies m none := by
  intro n' hn
  cases hn

/-- All meanings that there are hold. -/
def together (ms : List (Option Meaning)) : Option Meaning := connected .and ms.reduceOption

/-- What holds together implies each of its parts. -/
theorem connected_implies {ms : List Meaning} {m : Meaning} (h : m ∈ ms) :
    Implies (connected .and ms) (some m) := by
  intro n hn
  obtain rfl := Option.mem_some_iff.1 hn
  have hne : ms.isEmpty = false := by
    rw [List.isEmpty_eq_false_iff]
    exact List.ne_nil_of_mem h
  refine ⟨Meaning.all ms, by simp [connected, hne], fun v hv => ?_⟩
  exact Truth.all_eq_true.1 hv _ (List.mem_map_of_mem h)

theorem together_implies {ms : List (Option Meaning)} {m : Option Meaning} (h : m ∈ ms) :
    Implies (together ms) m := by
  cases m with
  | none => exact implies_none _
  | some m => exact connected_implies (List.reduceOption_mem_iff.2 h)

/-! ## Texts joined by AND -/

theorem filterSql_restricts {tree : Value} {sql : String} (h : filterSql tree = .ok sql) :
    Restricts sql (treeMeaning tree) := by
  rcases filterSql_clause h with ⟨hsql, hnone⟩ | ⟨m, hclause, hsome⟩
  · rw [hnone]
    exact hsql
  · rw [hsome]
    exact hclause

/-- The texts that are not empty are clauses. -/
theorem present_clauses {parts : List String} {ms : List (Option Meaning)}
    (h : List.Forall₂ Restricts parts ms) :
    List.Forall₂ Clause (parts.filter (· ≠ "")) ms.reduceOption := by
  induction h with
  | nil => exact .nil
  | @cons s m parts ms hs _ ih =>
    cases m with
    | none =>
      obtain rfl : s = "" := hs
      exact ih
    | some m =>
      rw [List.filter_cons_of_pos (by simpa using Clause.ne_empty hs), List.reduceOption_cons_of_some]
      exact .cons hs ih

/-- Conditions that hold together restrict as much as all of them do. -/
theorem conjunction_restricts {parts : List String} {ms : List (Option Meaning)}
    (h : List.Forall₂ Restricts parts ms) : Restricts (conjunction parts) (together ms) := by
  have hclauses := present_clauses h
  unfold conjunction together
  generalize parts.filter (· ≠ "") = texts at hclauses
  generalize ms.reduceOption = ns at hclauses
  cases hclauses with
  | nil => rfl
  | @cons s m texts ms hs hrest =>
    cases hrest with
    | nil =>
      show Clause s (Meaning.all [m])
      rw [Meaning.all_singleton]
      exact hs
    | @cons u n texts ms hu hrest =>
      have hpieces : List.Forall₂ Piece ((s :: u :: texts).map parenthesised) (m :: n :: ms) := by
        rw [List.forall₂_map_left_iff]
        exact (List.Forall₂.cons hs (.cons hu hrest)).imp fun _ _ hclause => hclause.parenthesised
      exact ⟨_, _, hpieces, by simp, rfl, rfl⟩

/-! ## Filter trees joined by AND -/

theorem treeMeaning_both (base extra : Fields) :
    treeMeaning (.object [("AND", .list [.object base, .object extra])])
      = connected .and (connected .and
          ((treeMeaning (.object base)).toList ++ (treeMeaning (.object extra)).toList)).toList := by
  have hword : Connective.ofWord? "AND" = some .and := by decide
  simp only [treeMeaning, fieldMeanings, hword, connectiveMeaning, treeMeanings, List.append_nil]

/-- Filters that are joined with others still hold. -/
theorem bothFilters_implies (base extra : Fields) :
    Implies (treeMeaning (.object (bothFilters base extra))) (treeMeaning (.object extra)) := by
  unfold bothFilters
  split
  · next hextra =>
    obtain rfl : extra = [] := List.isEmpty_iff.1 hextra
    exact implies_none _
  · split
    · exact Implies.refl _
    · rw [treeMeaning_both]
      cases hmeaning : treeMeaning (.object extra) with
      | none => exact implies_none _
      | some m =>
        have hinner : Implies (connected .and
            ((treeMeaning (.object base)).toList ++ (some m).toList)) (some m) :=
          connected_implies (by simp)
        obtain ⟨n, hn, -⟩ := hinner m rfl
        rw [hn]
        rw [Option.mem_def.1 hn] at hinner
        exact (connected_implies (by simp)).trans hinner

/-! ## Conditions of queries -/

/-- The condition that has been read has the meaning. -/
def Means (c : Option SearchCondition) (m : Option Meaning) : Prop :=
  c.map (fun c v => c.eval v) = m

/-- The lexemes of a WHERE clause, and the condition that is read from them. -/
theorem Restricts.whereClause {sql : String} {m : Option Meaning} (h : Restricts sql m) :
    ∃ tss c, List.Forall₂ (fun s ts => Lexes s.toList ts)
        (if sql = "" then [] else ["WHERE " ++ sql]) tss
      ∧ Lexeme.comment ∉ tss.flatten ∧ IsWhere tss.flatten c ∧ Means c m := by
  cases m with
  | none =>
    rw [if_pos (show sql = "" from h)]
    exact ⟨[], none, .nil, by simp, .absent, rfl⟩
  | some m =>
    have hclause : Clause sql m := h
    obtain ⟨ts, c, hl, hc, hr, hv⟩ := hclause.reads.whole
    have hlex := (Lexes.keyword "WHERE" (w := "where") (by decide)).append hl.space
      (by simp [isBoundary])
    rw [if_neg hclause.ne_empty]
    refine ⟨[.word "where" :: ts], some c, .cons (by simpa using hlex) .nil, by simpa using hc, ?_,
      congrArg some (funext hv)⟩
    simpa using IsWhere.present hr

end MetricLayer.Sql
