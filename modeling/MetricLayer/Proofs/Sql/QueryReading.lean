import MetricLayer.Proofs.Number.DecimalText
import MetricLayer.Proofs.Number.FloatText
import MetricLayer.Proofs.Sql.LexemePlace
import MetricLayer.Proofs.Sql.Scan
import MetricLayer.Proofs.Sql.TableDefinition
import MetricLayer.Sql.Select

/-!
# Queries read back clause by clause

`readStatementOf` reads a SELECT statement to its end: the items with their other names, the table,
the joins, the condition, the groups, the order and the window.  The condition comes back as it was
written; for that it is cut out of the text between the lexemes where it starts and ends.

A statement is written in lexemes as `StatementContents.head`, a WHERE clause and
`StatementContents.tail`.  Every clause after the first two may be missing.  What tells them apart
is the word that each of them starts with (`StartsIn`), and a name is never a word;
`readStatementOf_eq` says that the reader finds the contents.
-/

namespace MetricLayer.Sql

open Number Text

/-! ## What a statement says -/

/-- A column with its table. -/
structure QualifiedColumn where
  /-- The table. -/
  table : String
  /-- The column. -/
  column : String
  deriving DecidableEq, Repr

/-- Two columns that are equal in a join. -/
abbrev Equality := QualifiedColumn × QualifiedColumn

/-- A joined table. -/
structure JoinContents where
  /-- The kind of join. -/
  kind : JoinKind
  /-- The joined table. -/
  table : String
  /-- The equal columns. -/
  on : List Equality
  deriving DecidableEq, Repr

/-- What a SELECT statement over named columns says. -/
structure StatementContents where
  /-- The projected columns, with another name for those that have one. -/
  items : List (String × Option String)
  /-- The first table. -/
  table : String
  /-- The joined tables. -/
  joins : List JoinContents
  /-- The text of the condition; empty when there is none. -/
  condition : String
  /-- The columns to group by. -/
  groupBy : List String
  /-- The columns to order by. -/
  orderBy : List OrderField
  /-- The greatest number of rows. -/
  limit : Option Nat
  /-- The number of rows to leave out. -/
  offset : Option Nat
  deriving DecidableEq, Repr

/-! ## The reader -/

/-- The lexeme of the word for a kind of join. -/
def joinWord (kind : JoinKind) : String := folded kind.word.toList

/-- The lexeme of the word for a direction. -/
def directionWord (d : Direction) : String := folded d.word.toList

/-- The item at the head: a name, and another one after AS. -/
def readItem : List Lexeme → Reading (String × Option String)
  | .name s :: rest =>
    match afterWord? "as" rest with
    | some rest => (readName rest).map fun r => ((s, some r.1), r.2)
    | none => some ((s, none), rest)
  | _ => none

/-- The column with its table at the head. -/
def readQualified : List Lexeme → Reading QualifiedColumn
  | .name t :: .dot :: .name c :: rest => some (⟨t, c⟩, rest)
  | _ => none

/-- What follows an equals sign at the head. -/
def afterEquals? : List Lexeme → Option (List Lexeme)
  | .operator s :: rest => if s = "=" then some rest else none
  | _ => none

/-- The two equal columns at the head. -/
def readEquality (ts : List Lexeme) : Reading Equality :=
  (readQualified ts).bind fun l =>
    ((afterEquals? l.2).bind readQualified).map fun r => ((l.1, r.1), r.2)

/-- As many items as can be read one after the other, `fuel` of them at most, and what follows. -/
def readRun {α : Type} (one : List Lexeme → Reading α) : Nat → List Lexeme → List α × List Lexeme
  | 0, ts => ([], ts)
  | fuel + 1, ts =>
    match one ts with
    | some (x, rest) => (x :: (readRun one fuel rest).1, (readRun one fuel rest).2)
    | none => ([], ts)

/-- The kind of a join at the head. -/
def readKind : List Lexeme → Reading JoinKind
  | .word w :: rest =>
    ([JoinKind.inner, .left, .right].find? (joinWord · = w)).map fun kind => (kind, rest)
  | _ => none

/-- The join at the head. -/
def readJoin (ts : List Lexeme) : Option (JoinContents × List Lexeme) := do
  let (kind, ts) ← readKind ts
  let (table, ts) ← (afterWord? "join" ts).bind readName
  let (first, ts) ← (afterWord? "on" ts).bind readEquality
  let more := readRun (fun ts => (afterWord? "and" ts).bind readEquality) ts.length ts
  return (⟨kind, table, first :: more.1⟩, more.2)

/-- The column and its direction at the head. -/
def readOrder : List Lexeme → Reading OrderField
  | .name s :: .word w :: rest =>
    ([Direction.ascending, .descending].find? (directionWord · = w)).map fun d => (⟨s, d⟩, rest)
  | _ => none

/-- The number of rows at the head. -/
def readRows : List Lexeme → Reading (Option Nat)
  | .number s :: rest => (readDecimal? s.toList).map fun n => (some n, rest)
  | _ => none

/-- What a clause says that starts with some words, or what its absence says. -/
def readClause {α : Type} (words : List String) (one : List Lexeme → Reading α) (absent : α)
    (ts : List Lexeme) : Reading α :=
  match afterWords? words ts with
  | some rest => one rest
  | none => some (absent, ts)

/-- The text of a condition from that of its clause, which a blank keeps apart from what follows. -/
def conditionText (clause : List Char) (isLast : Bool) : String :=
  let condition := clause.drop "WHERE ".toList.length
  String.ofList (if isLast then condition else condition.dropLast)

@[simp]
theorem conditionText_where (cs : List Char) (isLast : Bool) :
    conditionText ("WHERE ".toList ++ cs) isLast
      = String.ofList (if isLast then cs else cs.dropLast) := by
  rw [conditionText, List.drop_left]

/-- The groups, the order and the window of a statement, to its end. -/
def readTail (ts : List Lexeme) :
    Option (List String × List OrderField × Option Nat × Option Nat) := do
  let (groupBy, ts) ← readClause ["group", "by"] (readList readName) [] ts
  let (orderBy, ts) ← readClause ["order", "by"] (readList readOrder) [] ts
  let (limit, ts) ← readClause ["limit"] readRows none ts
  let (offset, ts) ← readClause ["offset"] readRows none ts
  match ts with
  | [] => some (groupBy, orderBy, limit, offset)
  | _ => none

/-- The contents of a whole SELECT statement. -/
def readStatementOf (sql : String) : Option StatementContents := do
  let ts ← lex sql.toList
  let (items, rest) ← (afterWord? "select" ts).bind (readList readItem)
  let (table, rest) ← (afterWord? "from" rest).bind readName
  let (joins, clause) := readRun readJoin rest.length rest
  let (_, tail) ← readWhere clause
  let (groupBy, orderBy, limit, offset) ← readTail tail
  let between := textBetween sql.toList (ts.length - clause.length) (ts.length - tail.length)
  return ⟨items, table, joins, conditionText between tail.isEmpty, groupBy, orderBy, limit, offset⟩

/-! ## Statements in lexemes -/

/-- The lexemes of an item. -/
def itemLexemes : String × Option String → List Lexeme
  | (s, none) => [.name s]
  | (s, some other) => [.name s, .word "as", .name other]

/-- The lexemes of a column with its table. -/
def QualifiedColumn.lexemes (c : QualifiedColumn) : List Lexeme :=
  [.name c.table, .dot, .name c.column]

/-- The lexemes of two equal columns. -/
def equalityLexemes (e : Equality) : List Lexeme := e.1.lexemes ++ .operator "=" :: e.2.lexemes

/-- The lexemes of a join. -/
def JoinContents.lexemes (j : JoinContents) : List Lexeme :=
  .word (joinWord j.kind) :: .word "join" :: .name j.table :: .word "on"
    :: separatedBy (.word "and") (j.on.map equalityLexemes)

/-- The lexemes of an order. -/
def orderLexemes (o : OrderField) : List Lexeme :=
  [.name o.field, .word (directionWord o.direction)]

/-- The lexemes of a clause over a list, which is missing when the list is empty. -/
def listLexemes (words : List String) (tss : List (List Lexeme)) : List Lexeme :=
  if tss.isEmpty then [] else words.map .word ++ separatedBy .comma tss

/-- The lexemes of a clause with a number of rows. -/
def rowsLexemes (w : String) : Option Nat → List Lexeme
  | some n => [.word w, .number (decimalText n)]
  | none => []

namespace StatementContents

variable (s : StatementContents)

/-- The lexemes before the condition. -/
def head : List Lexeme :=
  .word "select" :: (separatedBy .comma (s.items.map itemLexemes)
    ++ .word "from" :: .name s.table :: s.joins.flatMap JoinContents.lexemes)

/-- The lexemes after the condition. -/
def tail : List Lexeme :=
  listLexemes ["group", "by"] (s.groupBy.map nameLexeme)
    ++ (listLexemes ["order", "by"] (s.orderBy.map orderLexemes)
      ++ (rowsLexemes "limit" s.limit ++ rowsLexemes "offset" s.offset))

end StatementContents

/-! ## No comments -/

theorem comment_notMem_listLexemes (words : List String) {tss : List (List Lexeme)}
    (h : ∀ ts ∈ tss, Lexeme.comment ∉ ts) : Lexeme.comment ∉ listLexemes words tss := by
  unfold listLexemes
  split
  · simp
  · rw [List.mem_append, not_or]
    exact ⟨by simp, comment_notMem_separatedBy (by decide) h⟩

theorem comment_notMem_rowsLexemes (w : String) (n : Option Nat) :
    Lexeme.comment ∉ rowsLexemes w n := by
  cases n <;> simp [rowsLexemes]

theorem JoinContents.comment_notMem_lexemes (j : JoinContents) : Lexeme.comment ∉ j.lexemes := by
  have hpairs : Lexeme.comment ∉ separatedBy (.word "and") (j.on.map equalityLexemes) := by
    refine comment_notMem_separatedBy (by decide) (List.forall_mem_map.2 fun e _ => ?_)
    simp [equalityLexemes, QualifiedColumn.lexemes]
  simpa [JoinContents.lexemes] using hpairs

namespace StatementContents

variable (s : StatementContents)

theorem comment_notMem_head : Lexeme.comment ∉ s.head := by
  have hitems : Lexeme.comment ∉ separatedBy .comma (s.items.map itemLexemes) := by
    refine comment_notMem_separatedBy (by decide) (List.forall_mem_map.2 ?_)
    rintro ⟨name, other⟩ -
    cases other <;> simp [itemLexemes]
  simpa [head] using ⟨hitems, fun j _ => j.comment_notMem_lexemes⟩

theorem comment_notMem_tail : Lexeme.comment ∉ s.tail := by
  simp only [tail, List.mem_append, not_or]
  refine ⟨?_, ?_, comment_notMem_rowsLexemes _ _, comment_notMem_rowsLexemes _ _⟩
  · exact comment_notMem_listLexemes _ (List.forall_mem_map.2 fun _ _ => by simp [nameLexeme])
  · exact comment_notMem_listLexemes _ (List.forall_mem_map.2 fun _ _ => by simp [orderLexemes])

end StatementContents

/-! ## Where clauses start -/

/-- The lexemes are at their end or start with one of the words. -/
def StartsIn (words : List String) (ts : List Lexeme) : Prop :=
  ∀ l ∈ ts.head?, ∃ w ∈ words, l = .word w

theorem startsIn_nil (words : List String) : StartsIn words [] := by simp [StartsIn]

/-- A clause that may be missing, before clauses that start with other words. -/
theorem StartsIn.append {w : String} {words : List String} {clause rest : List Lexeme}
    (hclause : ∀ l ∈ clause.head?, l = .word w) (hrest : StartsIn words rest) :
    StartsIn (w :: words) (clause ++ rest) := by
  cases clause with
  | nil =>
    intro l hl
    obtain ⟨u, hu, rfl⟩ := hrest l hl
    exact ⟨u, List.mem_cons_of_mem _ hu, rfl⟩
  | cons l ls =>
    intro l' hl'
    obtain rfl : l = l' := by simpa using hl'
    exact ⟨w, List.mem_cons_self, hclause l rfl⟩

theorem StartsIn.afterWord? {w : String} {words : List String} {ts : List Lexeme}
    (h : StartsIn words ts) (hw : w ∉ words) : afterWord? w ts = none := by
  cases ts with
  | nil => rfl
  | cons l ts =>
    obtain ⟨u, hu, rfl⟩ := h l rfl
    have hne : u ≠ w := by
      rintro rfl
      exact hw hu
    exact if_neg hne

theorem StartsIn.ne_comma {words : List String} {ts : List Lexeme} (h : StartsIn words ts) :
    ts.head? ≠ some .comma := by
  intro hcomma
  obtain ⟨w, -, hw⟩ := h _ hcomma
  cases hw

theorem head_listLexemes {w : String} {ws : List String} {tss : List (List Lexeme)} :
    ∀ l ∈ (listLexemes (w :: ws) tss).head?, l = .word w := by
  unfold listLexemes
  split
  · simp
  · simp [eq_comm]

theorem head_rowsLexemes {w : String} {n : Option Nat} :
    ∀ l ∈ (rowsLexemes w n).head?, l = .word w := by
  cases n <;> simp [rowsLexemes, eq_comm]

namespace StatementContents

variable (s : StatementContents)

theorem startsIn_offset : StartsIn ["offset"] (rowsLexemes "offset" s.offset) := by
  simpa using StartsIn.append head_rowsLexemes (startsIn_nil [])

theorem startsIn_limit :
    StartsIn ["limit", "offset"] (rowsLexemes "limit" s.limit ++ rowsLexemes "offset" s.offset) :=
  .append head_rowsLexemes s.startsIn_offset

theorem startsIn_order : StartsIn ["order", "limit", "offset"]
    (listLexemes ["order", "by"] (s.orderBy.map orderLexemes)
      ++ (rowsLexemes "limit" s.limit ++ rowsLexemes "offset" s.offset)) :=
  .append head_listLexemes s.startsIn_limit

theorem startsIn_tail : StartsIn ["group", "order", "limit", "offset"] s.tail :=
  .append head_listLexemes s.startsIn_order

end StatementContents

/-- A condition may be missing as well. -/
theorem IsWhere.startsIn {words : List String} {ws rest : List Lexeme} {c : Option SearchCondition}
    (h : IsWhere ws c) (hrest : StartsIn words rest) :
    StartsIn ("where" :: words) (ws ++ rest) := by
  refine .append ?_ hrest
  cases h <;> simp [eq_comm]

/-! ## Clauses -/

theorem afterWord?_word (w : String) (ts : List Lexeme) :
    afterWord? w (.word w :: ts) = some ts := if_pos rfl

theorem afterWords?_map (words : List String) (ts : List Lexeme) :
    afterWords? words (words.map .word ++ ts) = some ts := by
  induction words with
  | nil => rfl
  | cons w words ih =>
    rw [afterWords?, List.foldlM_cons, List.map_cons, List.cons_append, afterWord?, if_pos rfl]
    exact ih

theorem readClause_present {α : Type} {one : List Lexeme → Reading α} {absent : α}
    (words : List String) {ts : List Lexeme} {r : α × List Lexeme} (h : one ts = some r) :
    readClause words one absent (words.map .word ++ ts) = some r := by
  rw [readClause, afterWords?_map]
  exact h

theorem readClause_absent {α : Type} {one : List Lexeme → Reading α} {absent : α} {w : String}
    (ws : List String) {ts : List Lexeme} (h : afterWord? w ts = none) :
    readClause (w :: ws) one absent ts = some (absent, ts) := by
  rw [readClause, afterWords?, List.foldlM_cons, h]
  rfl

/-- A clause over a list is read as the list, whether it is there or not. -/
theorem readClause_list {α : Type} {one : List Lexeme → Reading α} {lexemes : α → List Lexeme}
    {xs : List α} {rest : List Lexeme} (w : String) (ws : List String)
    (hone : ∀ x ∈ xs, ReadsItem one rest (lexemes x) x) (hcomma : rest.head? ≠ some .comma)
    (habsent : afterWord? w rest = none) :
    readClause (w :: ws) (readList one) [] (listLexemes (w :: ws) (xs.map lexemes) ++ rest)
      = some (xs, rest) := by
  cases xs with
  | nil => exact readClause_absent ws habsent
  | cons x xs =>
    have hitems : List.Forall₂ (ReadsItem one rest) ((x :: xs).map lexemes) (x :: xs) := by
      rw [List.forall₂_map_left_iff, List.forall₂_same]
      exact hone
    have hlist := readList_separated hcomma hitems (by simp)
    rw [listLexemes, if_neg (by simp), List.append_assoc]
    exact readClause_present (w :: ws) hlist

/-- A clause with a number of rows is read as the number, whether it is there or not. -/
theorem readClause_rows (w : String) (n : Option Nat) {rest : List Lexeme}
    (habsent : afterWord? w rest = none) :
    readClause [w] readRows none (rowsLexemes w n ++ rest) = some (n, rest) := by
  cases n with
  | none => exact readClause_absent [] habsent
  | some n =>
    have hdigits : readDecimal? (decimalText n).toList = some n := by
      rw [decimalText, String.toList_ofList, readDecimal?_digits (isDigits_decimalChars n),
        digitsValue_decimalChars]
    have hrows : readRows (.number (decimalText n) :: rest) = some (some n, rest) := by
      rw [readRows, hdigits]
      rfl
    exact readClause_present [w] hrows

/-! ## Joins -/

section Runs

variable {α : Type} {one : List Lexeme → Reading α} {lexemes : α → List Lexeme} {xs : List α}
  {stop : List Lexeme}

/-- Items that are written one after the other are read as long as there are any.  What may follow
an item is what `follows` allows. -/
theorem readRun_flatMap (follows : List Lexeme → Prop)
    (hone : ∀ x ∈ xs, ∀ rest, follows rest → one (lexemes x ++ rest) = some (x, rest))
    (hnext : ∀ x ∈ xs, ∀ rest, follows (lexemes x ++ rest)) (hstop : follows stop)
    (hend : one stop = none) {fuel : Nat} (hfuel : xs.length ≤ fuel) :
    readRun one fuel (xs.flatMap lexemes ++ stop) = (xs, stop) := by
  induction xs generalizing fuel with
  | nil =>
    cases fuel with
    | zero => rfl
    | succ fuel =>
      rw [List.flatMap_nil, List.nil_append, readRun, hend]
  | cons x xs ih =>
    obtain ⟨fuel, rfl⟩ : ∃ k, fuel = k + 1 := ⟨fuel - 1, by rw [List.length_cons] at hfuel; omega⟩
    have hrest := ih (fun y hy => hone y (List.mem_cons_of_mem _ hy))
      (fun y hy => hnext y (List.mem_cons_of_mem _ hy)) (Nat.le_of_succ_le_succ hfuel)
    have hfollows : follows (xs.flatMap lexemes ++ stop) := by
      cases xs with
      | nil => exact hstop
      | cons y ys =>
        rw [List.flatMap_cons, List.append_assoc]
        exact hnext y (by simp) _
    rw [List.flatMap_cons, List.append_assoc, readRun, hone x (by simp) _ hfollows]
    dsimp only
    rw [hrest]

theorem length_le_flatMap (lexemes : α → List Lexeme) (h : ∀ x, lexemes x ≠ []) (xs : List α) :
    xs.length ≤ (xs.flatMap lexemes).length := by
  induction xs with
  | nil => exact Nat.le_refl _
  | cons x xs ih =>
    have hx := List.length_pos_iff.2 (h x)
    rw [List.flatMap_cons, List.length_append, List.length_cons]
    omega

end Runs

theorem readEquality_lexemes (e : Equality) (rest : List Lexeme) :
    readEquality (equalityLexemes e ++ rest) = some (e, rest) := rfl

theorem readKind_word (kind : JoinKind) (rest : List Lexeme) :
    readKind (.word (joinWord kind) :: rest) = some (kind, rest) := by
  have hfind : [JoinKind.inner, .left, .right].find? (joinWord · = joinWord kind) = some kind := by
    cases kind <;> decide
  rw [readKind, hfind]
  rfl

/-- A join is read before anything but a further pair of columns. -/
theorem readJoin_lexemes {j : JoinContents} (hj : j.on ≠ []) {rest : List Lexeme}
    (hrest : afterWord? "and" rest = none) : readJoin (j.lexemes ++ rest) = some (j, rest) := by
  obtain ⟨kind, table, on⟩ := j
  obtain ⟨first, more, rfl⟩ := List.exists_cons_of_ne_nil hj
  have htext : (JoinContents.mk kind table (first :: more)).lexemes ++ rest
      = .word (joinWord kind) :: .word "join" :: .name table :: .word "on"
        :: (equalityLexemes first
          ++ (more.flatMap (fun e => .word "and" :: equalityLexemes e) ++ rest)) := by
    simp [JoinContents.lexemes, separatedBy_cons, List.flatMap_map]
  have hrun : readRun (fun ts => (afterWord? "and" ts).bind readEquality)
      (more.flatMap (fun e => .word "and" :: equalityLexemes e) ++ rest).length
      (more.flatMap (fun e => .word "and" :: equalityLexemes e) ++ rest) = (more, rest) := by
    refine readRun_flatMap (fun _ => True) (fun e _ us _ => rfl) (fun _ _ _ => trivial) trivial
      (by rw [hrest]; rfl) ?_
    have := length_le_flatMap (fun e => .word "and" :: equalityLexemes e) (by simp) more
    rw [List.length_append]
    omega
  rw [htext, readJoin]
  simp only [readKind_word, Option.bind_eq_bind, Option.bind_some, afterWord?_word, readName,
    readEquality_lexemes, hrun, Option.pure_def]

/-- No join starts here. -/
theorem StartsIn.readJoin {words : List String} {ts : List Lexeme} (h : StartsIn words ts)
    (hwords : ∀ kind, joinWord kind ∉ words) : readJoin ts = none := by
  cases ts with
  | nil => rfl
  | cons l ts =>
    obtain ⟨w, hw, rfl⟩ := h l rfl
    have hfind : [JoinKind.inner, .left, .right].find? (joinWord · = w) = none := by
      rw [List.find?_eq_none]
      rintro kind - hkind
      rw [decide_eq_true_eq] at hkind
      exact hwords kind (hkind ▸ hw)
    rw [Sql.readJoin, readKind, hfind]
    rfl

/-- The joins of a statement are read before anything but a join or a pair of columns. -/
theorem readRun_joins {joins : List JoinContents} (hjoins : ∀ j ∈ joins, j.on ≠ [])
    {rest : List Lexeme} (hand : afterWord? "and" rest = none) (hend : readJoin rest = none) :
    readRun readJoin (joins.flatMap JoinContents.lexemes ++ rest).length
      (joins.flatMap JoinContents.lexemes ++ rest) = (joins, rest) := by
  refine readRun_flatMap (afterWord? "and" · = none) (fun j hj us hus => ?_) (fun j _ us => ?_) hand
    hend ?_
  · exact readJoin_lexemes (hjoins j hj) hus
  · have hne : joinWord j.kind ≠ "and" := by cases j.kind <;> decide
    exact if_neg hne
  · have := length_le_flatMap JoinContents.lexemes (by simp [JoinContents.lexemes]) joins
    rw [List.length_append]
    omega

/-! ## Items and orders -/

theorem readName_nameLexeme (name : String) (rest : List Lexeme) :
    readName (nameLexeme name ++ rest) = some (name, rest) := rfl

theorem readItem_lexemes (item : String × Option String) (rest : List Lexeme) :
    ReadsItem readItem (.word "from" :: rest) (itemLexemes item) item := by
  obtain ⟨s, other⟩ := item
  rintro us (⟨more, rfl⟩ | rfl) <;> cases other <;> rfl

theorem readOrder_lexemes (o : OrderField) (rest : List Lexeme) :
    readOrder (orderLexemes o ++ rest) = some (o, rest) := by
  have hfind : [Direction.ascending, .descending].find?
      (directionWord · = directionWord o.direction) = some o.direction := by
    cases o.direction <;> decide
  rw [orderLexemes, List.cons_append, List.singleton_append, readOrder, hfind]
  rfl

/-! ## Conditions -/

/-- A condition, if there is one, is read before the clauses after it. -/
theorem readWhere_startsIn {words : List String} {ws tail : List Lexeme}
    {c : Option SearchCondition} (h : IsWhere ws c) (htail : StartsIn words tail)
    (hwords : ∀ w ∈ ["where", "and", "or"], w ∉ words) :
    readWhere (ws ++ tail) = some (c, tail) := by
  cases h with
  | absent =>
    rw [List.nil_append, readWhere, htail.afterWord? (hwords "where" (by simp))]
  | @present ts c h =>
    have hends : Ends .whole tail := by
      cases tail with
      | nil => exact ends_nil _
      | cons l tail =>
        obtain ⟨w, hw, rfl⟩ := htail l rfl
        refine ends_word _ ?_ ?_ tail <;> rintro rfl <;> exact hwords _ (by simp) hw
    have hsearch := h.readSearch_eq hends
    rw [List.cons_append, readWhere, afterWord?, if_pos rfl]
    dsimp only
    rw [hsearch]
    rfl

/-! ## Statements -/

/-- The clauses after the condition are read as what they say. -/
theorem readTail_tail (s : StatementContents) :
    readTail s.tail = some (s.groupBy, s.orderBy, s.limit, s.offset) := by
  have hoffset : readClause ["offset"] readRows none (rowsLexemes "offset" s.offset ++ [])
      = some (s.offset, []) := readClause_rows "offset" s.offset rfl
  rw [List.append_nil] at hoffset
  have hlimit := readClause_rows "limit" s.limit (s.startsIn_offset.afterWord? (by decide))
  have horder := readClause_list "order" ["by"]
    (fun o (_ : o ∈ s.orderBy) us _ => readOrder_lexemes o us)
    s.startsIn_limit.ne_comma (s.startsIn_limit.afterWord? (by decide))
  have hgroup := readClause_list "group" ["by"]
    (fun name (_ : name ∈ s.groupBy) us _ => readName_nameLexeme name us)
    s.startsIn_order.ne_comma (s.startsIn_order.afterWord? (by decide))
  rw [StatementContents.tail, readTail]
  simp only [hgroup, horder, hlimit, hoffset, Option.bind_eq_bind, Option.bind_some]

/-- A text in the lexemes of a statement is read as its contents. -/
theorem readStatementOf_eq {sql : String} {s : StatementContents} {ws : List Lexeme}
    {c : Option SearchCondition} (hlex : lex sql.toList = some (s.head ++ (ws ++ s.tail)))
    (hwhere : IsWhere ws c) (hitems : s.items ≠ []) (hjoins : ∀ j ∈ s.joins, j.on ≠ [])
    (hcondition : conditionText (textBetween sql.toList s.head.length (s.head.length + ws.length))
      s.tail.isEmpty = s.condition) : readStatementOf sql = some s := by
  have htail := s.startsIn_tail
  have hstarts := hwhere.startsIn htail
  have hprojected : readList readItem (separatedBy .comma (s.items.map itemLexemes)
      ++ .word "from" :: .name s.table :: (s.joins.flatMap JoinContents.lexemes ++ (ws ++ s.tail)))
      = some (s.items, .word "from" :: .name s.table
        :: (s.joins.flatMap JoinContents.lexemes ++ (ws ++ s.tail))) := by
    refine readList_separated (by simp) ?_ (by simpa using hitems)
    rw [List.forall₂_map_left_iff, List.forall₂_same]
    exact fun item _ => readItem_lexemes item _
  have hjoined := readRun_joins hjoins (hstarts.afterWord? (by decide))
    (hstarts.readJoin fun kind => by cases kind <;> decide)
  have hread := readWhere_startsIn hwhere htail (by decide)
  have hhead : (s.head ++ (ws ++ s.tail)).length - (ws ++ s.tail).length = s.head.length := by
    rw [List.length_append]
    omega
  have hstop : (s.head ++ (ws ++ s.tail)).length - s.tail.length = s.head.length + ws.length := by
    simp only [List.length_append]
    omega
  have htext : s.head ++ (ws ++ s.tail)
      = .word "select" :: (separatedBy .comma (s.items.map itemLexemes) ++ .word "from"
        :: .name s.table :: (s.joins.flatMap JoinContents.lexemes ++ (ws ++ s.tail))) := by
    simp [StatementContents.head]
  rw [readStatementOf, hlex, htext]
  simp only [Option.bind_eq_bind, Option.bind_some, afterWord?_word, hprojected, readName, hjoined,
    hread, readTail_tail]
  rw [← htext, hhead, hstop, hcondition]
  rfl

end MetricLayer.Sql
