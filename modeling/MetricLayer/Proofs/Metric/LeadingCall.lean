import MetricLayer.Metric.Compile
import MetricLayer.Proofs.Expr.Excerpt

/-!
# What leads a text

Whether a call of a time function leads a text is decided by its first characters, before it is cut
into tokens.  They say what the first two tokens say (`leadingTimeCall?_isSome`): a name, and an
opening parenthesis after any blanks.
-/

namespace MetricLayer

open MetricLayer.Text

/-- A word ends before blanks and an opening parenthesis. -/
theorem isNameChar_gap {gap : List Char} (hgap : ∀ c ∈ gap, isBlank c = true) (rest : List Char) :
    ∀ c ∈ (gap ++ '(' :: rest).head?, Lexer.isNameChar c = false := by
  cases gap with
  | nil =>
    rintro c ⟨⟩
    decide
  | cons c gap =>
    rintro d ⟨⟩
    exact Lexer.isNameChar_of_closing (.inl (hgap c List.mem_cons_self))

namespace Compiled

/-- The name that leads a text is a word before blanks and an opening parenthesis. -/
theorem leadingCall?_eq_some {cs name : List Char} :
    leadingCall? cs = some name ↔ ∃ gap rest, cs = name ++ (gap ++ '(' :: rest)
      ∧ Lexer.Spelled .name name ∧ ∀ c ∈ gap, isBlank c = true := by
  constructor
  · intro h
    cases cs with
    | nil => cases h
    | cons c cs =>
      simp only [leadingCall?] at h
      split at h
      · next hcond =>
        rw [Bool.and_eq_true, decide_eq_true_eq, Lexer.drop_length_takeWhile] at hcond
        obtain ⟨hstart, hparen⟩ := hcond
        obtain ⟨rest, hrest⟩ := List.head?_eq_some_iff.1 hparen
        cases h
        refine ⟨((c :: cs).dropWhile Lexer.isNameChar).takeWhile isBlank, rest, ?_, ?_,
          fun d hd => List.mem_takeWhile_imp hd⟩
        · rw [← hrest, List.takeWhile_append_dropWhile, List.takeWhile_append_dropWhile]
        · rw [List.takeWhile_cons_of_pos (Lexer.isNameChar_of_isNameStart hstart)]
          exact ⟨c, _, rfl, hstart, fun d hd => List.mem_takeWhile_imp hd⟩
      · cases h
  · rintro ⟨gap, rest, rfl, hname, hgap⟩
    have hword := Lexer.isNameChar_of_spelled hname
    obtain ⟨c, cs, rfl, hc, -⟩ := hname
    have hstop := isNameChar_gap hgap rest
    have hrun := (Lexer.takeWhile_append_stop (c :: cs) hstop).1
    rw [List.takeWhile_eq_self_iff.2 hword] at hrun
    have hblanks : (gap ++ '(' :: rest).dropWhile isBlank = '(' :: rest := by
      rw [List.dropWhile_append_of_pos hgap, List.dropWhile_cons_of_neg (by decide)]
    have hdrop : ((c :: cs) ++ (gap ++ '(' :: rest)).drop (c :: cs).length = gap ++ '(' :: rest :=
      List.drop_left
    rw [List.cons_append] at hrun hdrop ⊢
    simp only [leadingCall?, hrun, hdrop, hblanks, hc]
    rfl

/-- The name of a text and an opening parenthesis are its first two tokens. -/
theorem leadingCall?_tokens {cs name : List Char} {ts : List Token} (hcs : IsStripped cs)
    (h : Lexer.tokens cs = .ok ts) : leadingCall? cs = some name ↔
      ∃ t left rest, ts = t :: left :: rest ∧ t.kind = .name ∧ left.kind = .leftParen
        ∧ t.chars = name := by
  rw [leadingCall?_eq_some]
  constructor
  · rintro ⟨gap, rest, rfl, ⟨c, cs, rfl, hc, hcs⟩, hgap⟩
    rw [Lexer.tokens, List.cons_append, Lexer.tokensFrom_name 0 hc hcs (isNameChar_gap hgap rest),
      Lexer.tokensFrom_blanks _ hgap, Lexer.tokensFrom_leftParen] at h
    obtain ⟨us, hus, h⟩ := bind_eq_ok.1 h
    obtain ⟨vs, -, hus⟩ := bind_eq_ok.1 hus
    rw [← pure_eq_ok.1 h, ← pure_eq_ok.1 hus]
    exact ⟨_, _, vs, rfl, rfl, rfl, rfl⟩
  · rintro ⟨t, left, rest, rfl, ht, hleft, rfl⟩
    have hspelled := Lexer.tokensFrom_spelled h
    have hparen := hspelled left (by simp)
    rw [hleft] at hparen
    have hchars : left.chars = ['('] := hparen
    obtain ⟨-, more, hmore, hrest⟩ := Lexer.tokens_cons hcs h
    obtain ⟨gap, others, hothers, hgap, -⟩ := Lexer.tokensFrom_cons hrest
    rw [hchars] at hothers
    exact ⟨gap, others, by rw [hmore, hothers]; rfl, ht ▸ hspelled t (by simp), hgap⟩

end Compiled

/-- The name of a time function and an opening parenthesis lead the tokens. -/
def LeadsTimeCall : List Token → Prop
  | name :: left :: _ => name.kind = .name ∧ left.kind = .leftParen
    ∧ (TimeFunction.ofUpper? name.upper).isSome = true
  | _ => False

/-- The characters that lead a text say what its tokens say. -/
theorem Compiled.leadingTimeCall?_isSome {cs : List Char} {ts : List Token} (hcs : IsStripped cs)
    (h : Lexer.tokens cs = .ok ts) :
    (leadingTimeCall? cs).isSome = true ↔ LeadsTimeCall ts := by
  constructor
  · intro hsome
    obtain ⟨name, hname⟩ := Option.isSome_iff_exists.1 hsome
    obtain ⟨call, hcall, hfunc⟩ := Option.bind_eq_some_iff.1 hname
    obtain ⟨t, left, rest, rfl, ht, hleft, rfl⟩ := (leadingCall?_tokens hcs h).1 hcall
    dsimp only at hfunc
    split at hfunc
    · next hupper => exact ⟨ht, hleft, hupper⟩
    · cases hfunc
  · intro hleads
    match ts, hleads with
    | t :: left :: rest, ⟨ht, hleft, hfunc⟩ =>
      have hcall := (leadingCall?_tokens hcs h).2 ⟨t, left, rest, rfl, ht, hleft, rfl⟩
      rw [leadingTimeCall?, hcall, Option.bind_some]
      exact Option.isSome_iff_exists.2 ⟨t.text, if_pos hfunc⟩

end MetricLayer
