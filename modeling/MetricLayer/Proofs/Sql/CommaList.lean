import MetricLayer.Proofs.Outcome
import MetricLayer.Proofs.Sql.SearchCondition

/-!
# Lists between commas

A statement on a physical table is made of lists: the names of columns, the tuples of rows, the
lines of a definition.  `readList` reads such a list with the reader of its items, up to the first
item that no comma follows; `readList_separated` says that it finds the items that were written, if
each of them is read before a comma and before the end of the list.  `readNames` is the list of
names between parentheses.
-/

namespace MetricLayer.Sql

open Text

/-! ## Separators -/

/-- A comma and a line break are a comma. -/
theorem Lexes.commaNewline {cs : List Char} {ts : List Lexeme} (h : Lexes cs ts) :
    Lexes (",\n".toList ++ cs) (.comma :: ts) ∧ AtBoundary (",\n".toList ++ cs) :=
  ⟨h.newline.comma, by simp [isBoundary]⟩

/-- Two texts with a space between them. -/
theorem Lexes.beforeSpace {cs ds : List Char} {ts us : List Lexeme} (hc : Lexes cs ts)
    (hd : Lexes ds us) : Lexes (cs ++ ' ' :: ds) (ts ++ us) :=
  hc.append hd.space (by simp [isBoundary])

/-- There are at most as many parts as lexemes, and one more. -/
theorem length_le_separatedBy (l : Lexeme) (tss : List (List Lexeme)) :
    tss.length ≤ (separatedBy l tss).length + 1 := by
  induction tss with
  | nil => exact Nat.zero_le _
  | cons ts tss ih =>
    cases tss with
    | nil => exact Nat.succ_le_succ (Nat.zero_le _)
    | cons us tss =>
      simp only [separatedBy, List.length_append, List.length_cons] at ih ⊢
      omega

/-! ## Lists -/

section Lists

variable {α : Type}

/-- The items between commas, `fuel` of them at most, and what follows them. -/
def readItemsUpTo (one : List Lexeme → Option (α × List Lexeme)) :
    Nat → List Lexeme → Option (List α × List Lexeme)
  | 0, _ => none
  | fuel + 1, ts =>
    match one ts with
    | some (x, .comma :: rest) => (readItemsUpTo one fuel rest).map fun r => (x :: r.1, r.2)
    | some (x, rest) => some ([x], rest)
    | none => none

/-- The items between commas and what follows them. -/
def readList (one : List Lexeme → Option (α × List Lexeme)) (ts : List Lexeme) :
    Option (List α × List Lexeme) :=
  readItemsUpTo one (ts.length + 1) ts

/-- An item ends where the rest starts: before a comma, or before the end of the list. -/
def EndsItem (stop rest : List Lexeme) : Prop := (∃ more, rest = .comma :: more) ∨ rest = stop

/-- The lexemes are read as the item, up to its end. -/
def ReadsItem (one : List Lexeme → Option (α × List Lexeme)) (stop ts : List Lexeme) (x : α) :
    Prop :=
  ∀ rest, EndsItem stop rest → one (ts ++ rest) = some (x, rest)

variable {one : List Lexeme → Option (α × List Lexeme)} {stop : List Lexeme}
  {tss : List (List Lexeme)} {xs : List α}

theorem readItemsUpTo_separated (hstop : stop.head? ≠ some .comma)
    (h : List.Forall₂ (ReadsItem one stop) tss xs) (hne : tss ≠ []) {fuel : Nat}
    (hfuel : tss.length ≤ fuel) :
    readItemsUpTo one fuel (separatedBy .comma tss ++ stop) = some (xs, stop) := by
  induction h generalizing fuel with
  | nil => exact absurd rfl hne
  | @cons ts x tss xs hts htss ih =>
    obtain ⟨fuel, rfl⟩ : ∃ k, fuel = k + 1 := ⟨fuel - 1, by rw [List.length_cons] at hfuel; omega⟩
    cases htss with
    | nil =>
      rw [separatedBy, readItemsUpTo, hts stop (.inr rfl)]
      -- what follows the last item is no comma
      split
      · next heq =>
        rw [Option.some.injEq, Prod.mk.injEq] at heq
        exact absurd (congrArg List.head? heq.2) hstop
      · next heq =>
        rw [Option.some.injEq, Prod.mk.injEq] at heq
        rw [heq.1, heq.2]
      · next heq => cases heq
    | @cons us other tss xs _ _ =>
      have hrest := ih (List.cons_ne_nil us tss) (Nat.le_of_succ_le_succ hfuel)
      rw [separatedBy, List.append_assoc, List.cons_append, readItemsUpTo, hts _ (.inl ⟨_, rfl⟩)]
      dsimp only
      rw [hrest]
      rfl

/-- A list is read as its items. -/
theorem readList_separated (hstop : stop.head? ≠ some .comma)
    (h : List.Forall₂ (ReadsItem one stop) tss xs) (hne : tss ≠ []) :
    readList one (separatedBy .comma tss ++ stop) = some (xs, stop) := by
  refine readItemsUpTo_separated hstop h hne ?_
  have := length_le_separatedBy .comma tss
  rw [List.length_append]
  omega

end Lists

/-! ## Names -/

/-- The name at the head. -/
def readName : List Lexeme → Option (String × List Lexeme)
  | .name s :: rest => some (s, rest)
  | _ => none

/-- The names between commas up to the closing parenthesis. -/
def readNames (ts : List Lexeme) : Option (List String × List Lexeme) :=
  match readList readName ts with
  | some (names, .rightParen :: rest) => some (names, rest)
  | _ => none

/-- The lexeme of a name. -/
def nameLexeme (name : String) : List Lexeme := [.name name]

theorem readNames_separated {names : List String} (hne : names ≠ []) (rest : List Lexeme) :
    readNames (separatedBy .comma (names.map nameLexeme) ++ .rightParen :: rest)
      = some (names, rest) := by
  have hitems : List.Forall₂ (ReadsItem readName (.rightParen :: rest)) (names.map nameLexeme)
      names := by
    rw [List.forall₂_map_left_iff, List.forall₂_same]
    exact fun _ _ _ _ => rfl
  have hlist := readList_separated (by simp) hitems (by simpa using hne)
  rw [readNames, hlist]

theorem sqlName_lexes {name sql : String} (h : sqlName name = .ok sql) :
    Lexes sql.toList (nameLexeme name) := by
  obtain ⟨rfl, hne⟩ := sqlName_inv h
  exact .name hne

/-- The lexemes of parts that are rendered one by one. -/
theorem lexes_mapM {α : Type} {f : α → Outcome String} {lexemes : α → List Lexeme} {as : List α}
    {texts : List String} (h : as.mapM f = .ok texts)
    (hone : ∀ a ∈ as, ∀ s, f a = .ok s → Lexes s.toList (lexemes a)) :
    List.Forall₂ (fun (s : String) ts => Lexes s.toList ts) texts (as.map lexemes) := by
  rw [List.forall₂_map_right_iff]
  have hboth := (List.forall₂_and_left _ _).2 ⟨hone, mapM_eq_ok h⟩
  exact hboth.flip.imp fun _ _ ha => ha.1 _ ha.2

/-- The quoted names with commas between them. -/
theorem lexes_names {names quoted : List String} (h : names.mapM sqlName = .ok quoted) :
    Lexes (joined ", " quoted).toList (separatedBy .comma (names.map nameLexeme)) :=
  Lexes.separated Lexes.commaSpace (lexes_mapM h fun _ _ _ hname => sqlName_lexes hname)

theorem comment_notMem_names (names : List String) :
    Lexeme.comment ∉ separatedBy .comma (names.map nameLexeme) := by
  refine comment_notMem_separatedBy (by decide) (List.forall_mem_map.2 fun name _ => ?_)
  rw [nameLexeme, List.mem_singleton]
  exact Lexeme.noConfusion

end MetricLayer.Sql
