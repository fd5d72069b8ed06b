import MetricLayer.Proofs.Sql.Scan

/-!
# The columns that a statement returns

`outputNames naming ts` finds the names of the columns that a SELECT statement returns, as the
database does:

* the items stand between SELECT and FROM and are cut at the commas outside parentheses;
* an item that ends in AS and a name has this name, and a column alone has its own;
* any other item has the name that the database gives it, which is `naming`.

Lexemes that belong to one item, whatever stands around them, are `Unsplit`: parentheses around
anything that readers of queries pass over are, and so are other lexemes than commas.
-/

namespace MetricLayer.Sql

/-! ## Items -/

/-- The number of open parentheses after a lexeme; none when it closes one that is not open. -/
def depthAfter : Nat → Lexeme → Option Nat
  | depth, .leftParen => some (depth + 1)
  | 0, .rightParen => none
  | depth + 1, .rightParen => some depth
  | depth, _ => some depth

theorem depthAfter_eq {l : Lexeme} (hleft : l ≠ .leftParen) (hright : l ≠ .rightParen)
    (depth : Nat) : depthAfter depth l = some depth := by
  cases l with
  | leftParen => exact absurd rfl hleft
  | rightParen => exact absurd rfl hright
  | _ => cases depth <;> rfl

/-- The first item of a select list, of which `depth` parentheses are open, and the others.  The
list ends at FROM. -/
def readItems (depth : Nat) : List Lexeme → Option (List Lexeme × List (List Lexeme))
  | [] => none
  | l :: rest =>
    if depth = 0 ∧ l = .word "from" then some ([], [])
    else if depth = 0 ∧ l = .comma then (readItems 0 rest).map fun r => ([], r.1 :: r.2)
    else (depthAfter depth l).bind fun after => (readItems after rest).map fun r => (l :: r.1, r.2)

/-- The name of the column that an item becomes. -/
def itemName (naming : List Lexeme → String) (item : List Lexeme) : String :=
  match item.reverse with
  | [.name n] => n
  | .name n :: .word "as" :: _ => n
  | .word w :: .word "as" :: _ => w
  | _ => naming item

/-- The names of the columns that a statement returns. -/
def outputNames (naming : List Lexeme → String) (ts : List Lexeme) : Option (List String) := do
  let items ← afterWord? "select" ts
  let (first, others) ← readItems 0 items
  return (first :: others).map (itemName naming)

/-! ## Lexemes that belong to one item -/

/-- The lexemes stand in the first item, whatever follows them. -/
def Unsplit (ts : List Lexeme) : Prop :=
  ∀ rest, readItems 0 (ts ++ rest) = (readItems 0 rest).map fun r => (ts ++ r.1, r.2)

theorem Unsplit.nil : Unsplit [] := fun rest => by simp

theorem Unsplit.append {ts us : List Lexeme} (ht : Unsplit ts) (hu : Unsplit us) :
    Unsplit (ts ++ us) := by
  intro rest
  rw [List.append_assoc, ht, hu, Option.map_map]
  congr 1
  funext r
  simp

/-- The lexeme passes and is no comma. -/
def keepsItem : Lexeme → Bool
  | .comma => false
  | l => passes l

theorem passes_of_keepsItem {l : Lexeme} (h : keepsItem l = true) : passes l = true := by
  cases l with
  | comma => cases h
  | _ => exact h

/-- Within parentheses no lexeme ends the item. -/
theorem readItems_cons_within {depth after : Nat} {l : Lexeme}
    (h : depthAfter (depth + 1) l = some after) (rest : List Lexeme) :
    readItems (depth + 1) (l :: rest) = (readItems after rest).map fun r => (l :: r.1, r.2) := by
  rw [readItems, if_neg (by simp), if_neg (by simp), h, Option.bind_some]

theorem Unsplit.cons {l : Lexeme} {ts : List Lexeme} (hl : keepsItem l = true) (h : Unsplit ts) :
    Unsplit (l :: ts) := by
  have hfrom : l ≠ .word "from" := by
    rintro rfl
    exact absurd hl (by decide)
  have hcomma : l ≠ .comma := by
    rintro rfl
    cases hl
  have hdepth : depthAfter 0 l = some 0 := by
    refine depthAfter_eq ?_ ?_ 0 <;> rintro rfl <;> cases hl
  intro rest
  rw [List.cons_append, readItems, if_neg fun hend => hfrom hend.2, if_neg fun hend => hcomma hend.2,
    hdepth, Option.bind_some, h, Option.map_map]
  rfl

theorem Unsplit.of_keepsItem {ts : List Lexeme} (h : ∀ l ∈ ts, keepsItem l = true) : Unsplit ts := by
  induction ts with
  | nil => exact .nil
  | cons l ts ih =>
    exact .cons (h l List.mem_cons_self) (ih fun k hk => h k (List.mem_cons_of_mem l hk))

/-- What stays in the item from one depth on stays in it with a lexeme before that leads there. -/
theorem readItems_cons_map {depth next outer : Nat} {l : Lexeme} {ts rest : List Lexeme}
    (hafter : depthAfter (depth + 1) l = some next)
    (hts : readItems next (ts ++ rest) = (readItems outer rest).map fun r => (ts ++ r.1, r.2)) :
    readItems (depth + 1) (l :: ts ++ rest)
      = (readItems outer rest).map fun r => (l :: ts ++ r.1, r.2) := by
  rw [List.cons_append, readItems_cons_within hafter, hts, Option.map_map]
  rfl

/-- Lexemes of a clause that closes its parentheses stay in one item within parentheses, by
induction on the reading of the clause. -/
theorem readItems_of_skipClause {depth : Nat} {ts : List Lexeme} (h : skipClause depth ts = some [])
    (outer : Nat) (rest : List Lexeme) :
    readItems (depth + outer + 1) (ts ++ rest)
      = (readItems (outer + 1) rest).map fun r => (ts ++ r.1, r.2) := by
  fun_induction skipClause depth ts with
  | case1 => simp
  | case3 depth us ih =>
    -- An opening parenthesis.
    have hopen : depthAfter (depth + outer + 1) .leftParen = some (depth + 1 + outer + 1) := by
      rw [depthAfter]
      congr 1
      omega
    exact readItems_cons_map hopen (ih h)
  | case5 depth us ih =>
    -- A closing parenthesis.
    rw [Nat.add_right_comm depth 1]
    exact readItems_cons_map rfl (ih h)
  | case7 w us hw ih => exact readItems_cons_map rfl (ih h)
  | case9 depth w us hw ih => exact readItems_cons_map rfl (ih h)
  | case10 depth l us hleft hclosed hright _ _ ih =>
    -- Any other lexeme.
    refine readItems_cons_map (depthAfter_eq hleft (fun hl => ?_) _) (ih h)
    cases depth with
    | zero => exact hclosed rfl hl
    | succ depth => exact hright depth rfl hl
  | _ => cases h

/-- Parentheses around lexemes that are passed over belong to one item. -/
theorem Unsplit.group {ts : List Lexeme} (h : Skipped ts) :
    Unsplit (.leftParen :: (ts ++ [.rightParen])) := by
  have hclosed : skipClause 0 ts = some [] := by
    have := h 0 []
    rwa [List.append_nil] at this
  intro rest
  have hopen : readItems 0 (.leftParen :: (ts ++ .rightParen :: rest))
      = (readItems 1 (ts ++ .rightParen :: rest)).map fun r => (.leftParen :: r.1, r.2) := by
    rw [readItems, if_neg (by simp), if_neg (by simp)]
    rfl
  have hclose : readItems 1 (.rightParen :: rest)
      = (readItems 0 rest).map fun r => (.rightParen :: r.1, r.2) :=
    readItems_cons_within rfl rest
  have hwithin := readItems_of_skipClause hclosed 0 (.rightParen :: rest)
  simp only [Nat.zero_add] at hwithin
  rw [List.cons_append, List.append_assoc, List.singleton_append, hopen, hwithin, hclose,
    Option.map_map, Option.map_map]
  congr 1
  funext r
  simp

/-! ## Select lists -/

/-- Items between commas are cut apart. -/
theorem readItems_separated {item : List Lexeme} {others : List (List Lexeme)}
    (h : ∀ ts ∈ item :: others, Unsplit ts) (rest : List Lexeme) :
    readItems 0 (separatedBy .comma (item :: others) ++ .word "from" :: rest)
      = some (item, others) := by
  induction others generalizing item with
  | nil =>
    rw [separatedBy, h item List.mem_cons_self, readItems, if_pos ⟨rfl, rfl⟩]
    simp
  | cons next others ih =>
    have hrest := ih fun ts hts => h ts (List.mem_cons_of_mem item hts)
    rw [separatedBy, List.append_assoc, h item List.mem_cons_self, List.cons_append, readItems,
      if_neg (by simp), if_pos ⟨rfl, rfl⟩, hrest]
    simp

/-- The names of the columns of a statement are those of its items. -/
theorem outputNames_separated (naming : List Lexeme → String) {items : List (List Lexeme)}
    (hne : items ≠ []) (h : ∀ ts ∈ items, Unsplit ts) (rest : List Lexeme) :
    outputNames naming (.word "select" :: (separatedBy .comma items ++ .word "from" :: rest))
      = some (items.map (itemName naming)) := by
  obtain ⟨item, others, rfl⟩ := List.exists_cons_of_ne_nil hne
  rw [outputNames, afterWord?, if_pos rfl]
  simp only [Option.bind_eq_bind, Option.bind_some, readItems_separated h]
  rfl

/-! ## Names of items -/

theorem itemName_name (naming : List Lexeme → String) (n : String) :
    itemName naming [.name n] = n := rfl

theorem itemName_asName (naming : List Lexeme → String) (ts : List Lexeme) (n : String) :
    itemName naming (ts ++ [.word "as", .name n]) = n := by
  rw [itemName, List.reverse_append]
  rfl

theorem itemName_asWord (naming : List Lexeme → String) (ts : List Lexeme) (w : String) :
    itemName naming (ts ++ [.word "as", .word w]) = w := by
  rw [itemName, List.reverse_append]
  rfl

end MetricLayer.Sql
