import MetricLayer.Proofs.Check.Checked
import MetricLayer.Proofs.Sql.QueryReading
import MetricLayer.Proofs.Sql.QueryText

/-!
# Queries by columns are read back

A query by columns is written on one line, clause after clause.  Whatever its names hold, the text
is read back as what the query says, so no name can pass for the start of a clause.

* `SelectQuery.contents` is what a query says: an empty other name and an offset of zero say
  nothing, and a column of a join has the table that it names or else the one of its side.
* `IsClauses texts ts` says that texts spell the lexemes of some clauses.  It is closed under
  juxtaposition, so a statement is put together from one lemma for each clause.
* `conditionText_between` finds the text of the condition inside the statement.
* `SelectQuery.render_faithful` is the result: a statement determines what its query says.
* `isPlain_of_read` says which queries these are: those that pass their check and select columns.
-/

namespace MetricLayer

open Number Sql Text

/-! ## What a query says -/

/-- The item is SQL as it stands. -/
def SelectItem.isRaw : SelectItem → Bool
  | column _ => false
  | aliased _ _ raw => raw

/-- The projected column and its other name, if that is not empty. -/
def SelectItem.contents : SelectItem → String × Option String
  | column name => (name, none)
  | aliased expr name _ => (expr, name.filter (· ≠ ""))

/-- The column with its table; a column with a point in it names its own. -/
def qualifiedColumn (table column : String) : QualifiedColumn :=
  match splitAtFirst? '.' column.toList with
  | some (t, c) => ⟨String.ofList t, String.ofList c⟩
  | none => ⟨table, column⟩

/-- A join in a query of the first table. -/
def Join.contents (first : String) (j : Join) : JoinContents :=
  ⟨j.kind, j.table, j.on.map fun p => (qualifiedColumn first p.1, qualifiedColumn j.table p.2)⟩

/-- What a query says whose filters have the text of a condition. -/
def SelectQuery.contentsUnder (q : SelectQuery) (condition : String) : StatementContents where
  items := q.select.map SelectItem.contents
  table := q.table
  joins := q.joins.map (Join.contents q.table)
  condition := condition
  groupBy := q.groupBy
  orderBy := q.orderBy
  limit := q.limit
  offset := q.offset.filter (· ≠ 0)

/-- What a query says. -/
def SelectQuery.contents (q : SelectQuery) : Outcome StatementContents := do
  return q.contentsUnder (← filterSql q.filters)

/-- The query projects columns only, and every join compares some. -/
structure SelectQuery.IsPlain (q : SelectQuery) : Prop where
  /-- No item is SQL as it stands. -/
  items : ∀ item ∈ q.select, item.isRaw = false
  /-- No join is without a pair of columns. -/
  joins : ∀ j ∈ q.joins, j.on ≠ []

namespace Sql

/-! ## Items -/

theorem lexes_item {item : SelectItem} {sql : String} (hraw : item.isRaw = false)
    (h : item.render = .ok sql) : Lexes sql.toList (itemLexemes item.contents) := by
  cases item with
  | column name => exact sqlName_lexes h
  | aliased expr name raw =>
    obtain rfl : raw = false := hraw
    obtain ⟨s, hs, h⟩ := bind_eq_ok.1 h
    have hname : Lexes s.toList (nameLexeme expr) := sqlName_lexes hs
    cases name with
    | none =>
      rw [← show s = sql from pure_eq_ok.1 h]
      exact hname
    | some name =>
      change (if name = "" then pure s else do return s ++ " AS " ++ (← sqlName name)) = .ok sql
        at h
      split at h
      · next hempty =>
        rw [← pure_eq_ok.1 h, hempty]
        exact hname
      · next hpresent =>
        obtain ⟨quoted, hquoted, h⟩ := bind_eq_ok.1 h
        have hother := (Lexes.keyword "AS" (w := "as") (by decide)).beforeSpace
          (sqlName_lexes hquoted)
        rw [← pure_eq_ok.1 h, SelectItem.contents, Option.filter, if_pos (by simpa using hpresent)]
        simpa [nameLexeme, itemLexemes] using hname.beforeSpace hother

/-! ## Joins -/

theorem qualified_eq (table column : String) : qualified table column = do
    return (← sqlName (qualifiedColumn table column).table) ++ "."
      ++ (← sqlName (qualifiedColumn table column).column) := by
  unfold qualified qualifiedColumn
  cases splitAtFirst? '.' column.toList <;> rfl

/-- Two names with a point between them. -/
theorem Lexes.names {s u : String} (hs : s ≠ "") (hu : u ≠ "") :
    Lexes (enclosed '"' s ++ "." ++ enclosed '"' u).toList [.name s, .dot, .name u] := by
  intro rest hrest
  have hnext : ('.' :: ((enclosed '"' u).toList ++ rest)).head? ≠ some '"' := by simp
  have hdot : lexemeAt '.' ((enclosed '"' u).toList ++ rest)
      = some (some .dot, (enclosed '"' u).toList ++ rest) := by
    rw [toList_enclosed]
    rfl
  have htext : (enclosed '"' s ++ "." ++ enclosed '"' u).toList ++ rest
      = '"' :: (double '"' s.toList ++ '"' :: '.' :: ((enclosed '"' u).toList ++ rest)) := by
    simp [toList_enclosed]
  rw [htext, lex_cons (lexemeAt_name hs hnext), lex_cons hdot, Lexes.name hu rest hrest,
    Option.map_map, Option.map_map]
  rfl

theorem lexes_qualified {table column sql : String} (h : qualified table column = .ok sql) :
    Lexes sql.toList (qualifiedColumn table column).lexemes := by
  rw [qualified_eq] at h
  obtain ⟨t, ht, h⟩ := bind_eq_ok.1 h
  obtain ⟨c, hc, h⟩ := bind_eq_ok.1 h
  obtain ⟨rfl, htable⟩ := sqlName_inv ht
  obtain ⟨rfl, hcolumn⟩ := sqlName_inv hc
  rw [← pure_eq_ok.1 h]
  exact Lexes.names htable hcolumn

theorem lexes_join {first sql : String} {j : Join} (h : j.render first = .ok sql) :
    Lexes sql.toList (j.contents first).lexemes := by
  obtain ⟨pairs, hpairs, h⟩ := bind_eq_ok.1 h
  obtain ⟨table, htable, h⟩ := bind_eq_ok.1 h
  have heach : List.Forall₂ (fun (s : String) ts => Lexes s.toList ts) pairs
      ((j.contents first).on.map equalityLexemes) := by
    rw [Join.contents, List.map_map]
    refine lexes_mapM hpairs fun p _ s hp => ?_
    obtain ⟨l, hl, hp⟩ := bind_eq_ok.1 hp
    obtain ⟨r, hr, hp⟩ := bind_eq_ok.1 hp
    have hequal := (Lexes.operator (s := "=") (by decide)).beforeSpace (lexes_qualified hr)
    rw [← pure_eq_ok.1 hp]
    simpa [equalityLexemes] using (lexes_qualified hl).beforeSpace hequal
  have hcolumns := Lexes.separated (Lexes.connective (s := "AND") (w := "and") (by decide)) heach
  have hon := (Lexes.keyword "ON" (w := "on") (by decide)).beforeSpace hcolumns
  have hjoin := (Lexes.keyword "JOIN" (w := "join") (by decide)).beforeSpace
    ((sqlName_lexes htable).beforeSpace hon)
  have hkind : Lexes j.kind.word.toList [.word (joinWord j.kind)] := by
    cases j.kind <;> exact Lexes.word (by decide)
  rw [← pure_eq_ok.1 h]
  simpa [nameLexeme, JoinContents.lexemes, Join.contents] using hkind.beforeSpace hjoin

/-! ## Orders -/

theorem lexes_order {o : OrderField} {sql : String} (h : o.render = .ok sql) :
    Lexes sql.toList (orderLexemes o) := by
  obtain ⟨name, hname, h⟩ := bind_eq_ok.1 h
  have hword : Lexes o.direction.word.toList [.word (directionWord o.direction)] := by
    cases o.direction <;> exact Lexes.word (by decide)
  rw [← pure_eq_ok.1 h]
  simpa [nameLexeme, orderLexemes] using (sqlName_lexes hname).beforeSpace hword

/-! ## Clauses -/

/-- The texts spell the lexemes of some clauses, and none of them starts with a blank. -/
def IsClauses (texts : List String) (ts : List Lexeme) : Prop :=
  ∃ tss, List.Forall₂ (fun (s : String) ts => Lexes s.toList ts) texts tss ∧ tss.flatten = ts
    ∧ ∀ s ∈ texts, ∃ c cs, s.toList = c :: cs ∧ isSpace c = false

section Clauses

variable {texts us : List String} {ts vs : List Lexeme}

theorem IsClauses.nil : IsClauses [] [] := ⟨[], .nil, rfl, List.forall_mem_nil _⟩

theorem IsClauses.append (ht : IsClauses texts ts) (hu : IsClauses us vs) :
    IsClauses (texts ++ us) (ts ++ vs) := by
  obtain ⟨tss, hlt, rfl, hst⟩ := ht
  obtain ⟨uss, hlu, rfl, hsu⟩ := hu
  exact ⟨tss ++ uss, List.rel_append hlt hlu, List.flatten_append,
    List.forall_mem_append.2 ⟨hst, hsu⟩⟩

/-- One clause after the other. -/
theorem IsClauses.flatten {tss : List (List Lexeme)}
    (h : List.Forall₂ (fun s ts => IsClauses [s] ts) texts tss) : IsClauses texts tss.flatten := by
  induction h with
  | nil => exact .nil
  | cons hs _ ih => exact hs.append ih

theorem IsClauses.lexes (h : IsClauses texts ts) : Lexes (joined " " texts).toList ts := by
  obtain ⟨tss, hlexes, rfl, -⟩ := h
  exact Lexes.spaced hlexes

/-- Clauses start with no blank. -/
theorem IsClauses.start (h : IsClauses texts ts) (hne : texts ≠ []) :
    ∃ c cs, (joined " " texts).toList = c :: cs ∧ isSpace c = false := by
  obtain ⟨-, -, -, hstart⟩ := h
  obtain ⟨s, rest, rfl⟩ := List.exists_cons_of_ne_nil hne
  obtain ⟨c, cs, hs, hc⟩ := hstart s List.mem_cons_self
  cases rest with
  | nil => exact ⟨c, cs, hs, hc⟩
  | cons u rest =>
    exact ⟨c, cs ++ (" " ++ joined " " (u :: rest)).toList, by simp [joined_cons, hs], hc⟩

/-- A clause that starts with a word. -/
theorem IsClauses.ofWord {text s : String} (hs : isWordText s = true)
    (htext : ∃ rest, text = s ++ rest) (h : Lexes text.toList ts) : IsClauses [text] ts := by
  obtain ⟨rest, htext⟩ := htext
  refine ⟨[ts], .cons h .nil, by simp, ?_⟩
  rw [List.forall_mem_singleton]
  rw [isWordText, Bool.and_eq_true] at hs
  cases hcs : s.toList with
  | nil => simp [hcs] at hs
  | cons c cs =>
    have hc : isWordStart c = true := by simpa [hcs] using hs.1
    exact ⟨c, cs ++ rest.toList, by simp [htext, hcs], (isWordStart_exclusive hc).1⟩

/-- A word before a text. -/
theorem IsClauses.ofKeyword (s : String) {w t : String}
    (hs : (isWordText s && folded s.toList = w) = true) (ht : Lexes t.toList ts) :
    IsClauses [s ++ " " ++ t] (.word w :: ts) :=
  .ofWord (Bool.and_eq_true_iff.1 hs).1 ⟨_, String.append_assoc ..⟩ (Lexes.afterKeyword s hs ht)

/-- A clause over a list that is missing when the list is empty. -/
theorem isClauses_list (s : String) {w : String} {tss : List (List Lexeme)}
    (hs : (isWordText s && folded s.toList = w) = true)
    (h : List.Forall₂ (fun (s : String) ts => Lexes s.toList ts) texts tss) :
    IsClauses (listClause (s ++ " BY ") texts) (listLexemes [w, "by"] tss) := by
  unfold listClause listLexemes
  cases h with
  | nil => exact .nil
  | @cons u us texts tss hu hrest =>
    have hitems := Lexes.separated Lexes.commaSpace (List.Forall₂.cons hu hrest)
    have hby := Lexes.afterKeyword "BY" (w := "by") (by decide) hitems
    have hclause := IsClauses.ofKeyword s hs hby
    have htext : s ++ " " ++ ("BY" ++ " " ++ joined ", " (u :: texts))
        = s ++ " BY " ++ joined ", " (u :: texts) := by
      rw [← String.toList_inj]
      simp
    rw [htext] at hclause
    exact hclause

/-- A clause with a number of rows, if there is one. -/
def rowsClause (s : String) : Option Nat → List String
  | some n => [s ++ " " ++ decimalText n]
  | none => []

theorem isClauses_rows (s : String) {w : String} (hs : (isWordText s && folded s.toList = w) = true)
    (n : Option Nat) : IsClauses (rowsClause s n) (rowsLexemes w n) := by
  cases n with
  | none => exact .nil
  | some n =>
    refine .ofKeyword s hs (.number ?_)
    rw [decimalText, String.toList_ofList]
    exact (IsMantissa.whole (isDigits_decimalChars n)).isNumeral

theorem isClauses_joins {first : String} {joins : List Join}
    (h : joins.mapM (Join.render first) = .ok texts) :
    IsClauses texts ((joins.map (Join.contents first)).flatMap JoinContents.lexemes) := by
  rw [List.flatMap_map, List.flatMap_def]
  refine .flatten ?_
  rw [List.forall₂_map_right_iff]
  refine (mapM_eq_ok h).flip.imp fun s j hj => ?_
  have hlex := lexes_join hj
  obtain ⟨pairs, -, hj⟩ := bind_eq_ok.1 hj
  obtain ⟨table, -, hj⟩ := bind_eq_ok.1 hj
  have hword : isWordText j.kind.word = true := by cases j.kind <;> decide
  refine .ofWord hword ?_ hlex
  rw [← pure_eq_ok.1 hj]
  simp only [String.append_assoc]
  exact ⟨_, rfl⟩

end Clauses

/-! ## Conditions -/

theorem joined_append (separator : String) {xs ys : List String} (hx : xs ≠ []) (hy : ys ≠ []) :
    joined separator (xs ++ ys) = joined separator xs ++ separator ++ joined separator ys := by
  obtain ⟨y, ys, rfl⟩ := List.exists_cons_of_ne_nil hy
  induction xs with
  | nil => exact absurd rfl hx
  | cons x xs ih =>
    cases xs with
    | nil => exact joined_cons ..
    | cons x' xs =>
      rw [List.cons_append, List.cons_append, joined_cons, ← List.cons_append, ih (by simp),
        joined_cons]
      simp only [String.append_assoc]

/-- The condition is found in the statement as it was written. -/
theorem conditionText_between {front tail : List String} {hs ts ws : List Lexeme}
    {condition : String} (hfront : IsClauses front hs) (hne : front ≠ [])
    (htail : IsClauses tail ts) (hwhere : Lexes ("WHERE " ++ condition).toList ws)
    (hcomment : Lexeme.comment ∉ hs ++ ws) (hts : Lexeme.comment ∉ ts) :
    conditionText (textBetween (joined " " (front ++ ["WHERE " ++ condition] ++ tail)).toList
      hs.length (hs.length + ws.length)) ts.isEmpty = condition := by
  have hbody : lex ('W' :: ("HERE ".toList ++ condition.toList)) = some ws := by
    simpa using hwhere.lex_eq
  have hcut : ∀ rest, AtBoundary rest →
      textBetween ((joined " " front).toList
          ++ ' ' :: 'W' :: ("HERE ".toList ++ condition.toList ++ rest))
        hs.length (hs.length + ws.length)
      = "WHERE ".toList ++ (condition.toList
          ++ rest.take (rest.length - (fromLexeme 0 rest).length)) := by
    intro rest hrest
    rw [textBetween_append hfront.lexes.lex_eq hbody (by decide) hcomment hrest]
    simp
  cases tail with
  | nil =>
    obtain ⟨tss, htss, rfl, -⟩ := htail
    obtain rfl := List.forall₂_nil_left_iff.1 htss
    have htext : (joined " " (front ++ ["WHERE " ++ condition] ++ [])).toList
        = (joined " " front).toList
          ++ ' ' :: 'W' :: ("HERE ".toList ++ condition.toList ++ []) := by
      rw [List.append_nil, joined_append " " hne (List.cons_ne_nil _ _), joined]
      simp
    rw [htext, hcut [] atBoundary_nil, conditionText_where]
    simp
  | cons u us =>
    obtain ⟨c, cs, hstart, hspace⟩ := htail.start (List.cons_ne_nil _ _)
    have hlex := htail.lexes.lex_eq
    rw [hstart] at hlex
    have hlast : ts.isEmpty = false := List.isEmpty_eq_false_iff.2 (lex_ne_nil hlex hspace)
    have hnext := fromLexeme_start hlex hts hspace atBoundary_nil
    rw [List.append_nil] at hnext
    have htext : (joined " " (front ++ ["WHERE " ++ condition] ++ u :: us)).toList
        = (joined " " front).toList
          ++ ' ' :: 'W' :: ("HERE ".toList ++ condition.toList ++ ' ' :: c :: cs) := by
      rw [joined_append " " (by simp) (List.cons_ne_nil _ _),
        joined_append " " hne (List.cons_ne_nil _ _), joined, String.toList_append, hstart]
      simp
    rw [htext, hcut _ (by simp [isBoundary]), conditionText_where, fromLexeme_space, hnext, hlast]
    simp

/-- The condition is found in the statement, whether there is one or not. -/
theorem conditionText_clause {front tail : List String} {hs ts ws : List Lexeme}
    {condition : String} (hfront : IsClauses front hs) (hne : front ≠ [])
    (hwhere : IsClauses (if condition = "" then [] else ["WHERE " ++ condition]) ws)
    (htail : IsClauses tail ts) (hcomment : Lexeme.comment ∉ hs ++ ws)
    (hts : Lexeme.comment ∉ ts) :
    conditionText (textBetween (joined " " (front
      ++ (if condition = "" then [] else ["WHERE " ++ condition]) ++ tail)).toList
      hs.length (hs.length + ws.length)) ts.isEmpty = condition := by
  by_cases hempty : condition = ""
  · rw [if_pos hempty] at hwhere
    obtain ⟨tss, htss, rfl, -⟩ := hwhere
    obtain rfl := List.forall₂_nil_left_iff.1 htss
    rw [List.flatten_nil, List.length_nil, Nat.add_zero, textBetween_self, hempty]
    cases ts.isEmpty <;> rfl
  · rw [if_neg hempty] at hwhere ⊢
    exact conditionText_between hfront hne htail hwhere.lexes hcomment hts

/-- The lexemes of a WHERE clause are a condition. -/
theorem isWhere_clause {filters : Value} {condition : String}
    (h : filterSql filters = .ok condition) :
    ∃ ws c, IsClauses (if condition = "" then [] else ["WHERE " ++ condition]) ws ∧ IsWhere ws c
      ∧ Lexeme.comment ∉ ws := by
  obtain ⟨tss, c, hlexes, hcomment, hwhere, -⟩ := (filterSql_restricts h).whereClause
  refine ⟨_, c, ⟨tss, hlexes, rfl, fun s hs => ?_⟩, hwhere, hcomment⟩
  split at hs
  · cases hs
  · rw [List.mem_singleton.1 hs]
    exact ⟨'W', "HERE ".toList ++ condition.toList, by simp, by decide⟩

end Sql

namespace SelectQuery

open Reader

variable {q : SelectQuery} {sql : String}

/-! ## Queries that pass their check -/

/-- A join that was read compares some columns. -/
theorem on_ne_nil_of_read {source : Source} {v : Value} {j : Join}
    (h : readJoin source v = .valid j) : j.on ≠ [] := by
  cases v with
  | object fs =>
    obtain ⟨_, on, htable, hon, rfl⟩ := Checked.seq_eq_valid.1 h
    obtain ⟨_, table, hkind, -, rfl⟩ := Checked.seq_eq_valid.1 htable
    obtain ⟨kind, -, rfl⟩ := Checked.map_eq_valid.1 hkind
    obtain ⟨_, -, hread⟩ := required_eq_valid hon
    exact nonemptyListOf_eq_valid hread
  | _ => cases h

/-- A query that passes its check is plain when it holds no SQL as it stands. -/
theorem isPlain_of_read {v : Value} (h : SelectQuery.read v = .valid q)
    (hitems : ∀ item ∈ q.select, item.isRaw = false) : q.IsPlain := by
  cases v with
  | object fs =>
    obtain ⟨_, offset, hlimit, -, rfl⟩ := Checked.seq_eq_valid.1 h
    obtain ⟨_, limit, horder, -, rfl⟩ := Checked.seq_eq_valid.1 hlimit
    obtain ⟨_, orderBy, hgroup, -, rfl⟩ := Checked.seq_eq_valid.1 horder
    obtain ⟨_, groupBy, hwhere, -, rfl⟩ := Checked.seq_eq_valid.1 hgroup
    obtain ⟨_, filters, hjoin, -, rfl⟩ := Checked.seq_eq_valid.1 hwhere
    obtain ⟨_, joins, htable, hjoins, rfl⟩ := Checked.seq_eq_valid.1 hjoin
    obtain ⟨_, table, hselect, -, rfl⟩ := Checked.seq_eq_valid.1 htable
    obtain ⟨select, -, rfl⟩ := Checked.map_eq_valid.1 hselect
    refine ⟨hitems, fun j hj => ?_⟩
    obtain rfl | ⟨_, -, hread⟩ := optional_eq_valid hjoins
    · cases hj
    · obtain ⟨_, hjoin⟩ := listOf_eq_valid hread j hj
      exact on_ne_nil_of_read hjoin
  | _ => cases h

/-! ## Statements -/

/-- What a statement is made of. -/
theorem render_inv (h : q.render = .ok sql) :
    q.select ≠ [] ∧ ∃ items, q.select.mapM SelectItem.render = .ok items
      ∧ ∃ table, sqlName q.table = .ok table
      ∧ ∃ joins, q.joins.mapM (Join.render q.table) = .ok joins
      ∧ ∃ condition, filterSql q.filters = .ok condition
      ∧ ∃ groups, q.groupBy.mapM sqlName = .ok groups
      ∧ ∃ orders, q.orderBy.mapM OrderField.render = .ok orders
      ∧ sql = joined " " (["SELECT " ++ joined ", " items, "FROM " ++ table] ++ joins
        ++ (if condition = "" then [] else ["WHERE " ++ condition])
        ++ (listClause "GROUP BY " groups ++ (listClause "ORDER BY " orders
          ++ (rowsClause "LIMIT" q.limit ++ rowsClause "OFFSET" (q.offset.filter (· ≠ 0)))))) := by
  rw [SelectQuery.render] at h
  split at h
  · cases h
  · next hselect =>
    obtain ⟨items, hitems, h⟩ := bind_eq_ok.1 h
    obtain ⟨table, htable, h⟩ := bind_eq_ok.1 h
    obtain ⟨joins, hjoins, h⟩ := bind_eq_ok.1 h
    obtain ⟨condition, hcondition, h⟩ := bind_eq_ok.1 h
    obtain ⟨groups, hgroups, h⟩ := bind_eq_ok.1 h
    obtain ⟨orders, horders, h⟩ := bind_eq_ok.1 h
    refine ⟨by simpa using hselect, items, hitems, table, htable, joins, hjoins, condition,
      hcondition, groups, hgroups, orders, horders, ?_⟩
    rw [← pure_eq_ok.1 h]
    cases q.limit <;> obtain _ | _ | n := q.offset <;> simp [rowsClause, Option.filter]

/-- The clauses before the condition. -/
theorem isClauses_head {items joins : List String} {table : String}
    (hraw : ∀ item ∈ q.select, item.isRaw = false)
    (hitems : q.select.mapM SelectItem.render = .ok items) (htable : sqlName q.table = .ok table)
    (hjoins : q.joins.mapM (Join.render q.table) = .ok joins) (condition : String) :
    IsClauses (["SELECT " ++ joined ", " items, "FROM " ++ table] ++ joins)
      (q.contentsUnder condition).head := by
  have heach : List.Forall₂ (fun (s : String) ts => Lexes s.toList ts) items
      ((q.select.map SelectItem.contents).map itemLexemes) := by
    rw [List.map_map]
    exact lexes_mapM hitems fun item hmem _ hitem => lexes_item (hraw item hmem) hitem
  have hselect := IsClauses.ofKeyword "SELECT" (w := "select") (by decide)
    (Lexes.separated Lexes.commaSpace heach)
  have hfrom := IsClauses.ofKeyword "FROM" (w := "from") (by decide) (sqlName_lexes htable)
  have hall := (hselect.append hfrom).append (isClauses_joins hjoins)
  simpa only [String.reduceAppend, List.singleton_append, List.cons_append, List.append_assoc,
    nameLexeme, List.nil_append, StatementContents.head, contentsUnder] using hall

/-- The clauses after the condition. -/
theorem isClauses_tail {groups orders : List String} (hgroups : q.groupBy.mapM sqlName = .ok groups)
    (horders : q.orderBy.mapM OrderField.render = .ok orders) (condition : String) :
    IsClauses (listClause "GROUP BY " groups ++ (listClause "ORDER BY " orders
      ++ (rowsClause "LIMIT" q.limit ++ rowsClause "OFFSET" (q.offset.filter (· ≠ 0)))))
      (q.contentsUnder condition).tail := by
  have hgroup := isClauses_list "GROUP" (w := "group") (by decide)
    (lexes_mapM hgroups fun _ _ _ hname => sqlName_lexes hname)
  have horder := isClauses_list "ORDER" (w := "order") (by decide)
    (lexes_mapM horders fun _ _ _ ho => lexes_order ho)
  have hlimit := isClauses_rows "LIMIT" (w := "limit") (by decide) q.limit
  have hoffset := isClauses_rows "OFFSET" (w := "offset") (by decide) (q.offset.filter (· ≠ 0))
  have hall := hgroup.append (horder.append (hlimit.append hoffset))
  simp only [String.reduceAppend] at hall
  exact hall

/-- The text of a plain query is read as what the query says. -/
theorem readStatementOf_render (hq : q.IsPlain) (h : q.render = .ok sql) :
    ∃ s, q.contents = .ok s ∧ readStatementOf sql = some s := by
  obtain ⟨hselect, items, hitems, table, htable, joins, hjoins, condition, hcondition, groups,
    hgroups, orders, horders, rfl⟩ := render_inv h
  obtain ⟨ws, c, hclause, hwhere, hcomment⟩ := isWhere_clause hcondition
  have hhead := isClauses_head hq.items hitems htable hjoins condition
  have htail := isClauses_tail hgroups horders condition
  have hlex := ((hhead.append hclause).append htail).lexes.lex_eq
  rw [List.append_assoc (q.contentsUnder condition).head] at hlex
  refine ⟨_, bind_eq_ok.2 ⟨condition, hcondition, rfl⟩,
    readStatementOf_eq hlex hwhere ?_ ?_ ?_⟩
  · simpa [contentsUnder] using hselect
  · exact List.forall_mem_map.2 fun j hj => by simpa [Join.contents] using hq.joins j hj
  · have hbefore : Lexeme.comment ∉ (q.contentsUnder condition).head ++ ws := by
      rw [List.mem_append, not_or]
      exact ⟨StatementContents.comment_notMem_head _, hcomment⟩
    exact conditionText_clause hhead (by simp) hclause htail hbefore
      (StatementContents.comment_notMem_tail _)

/-- **A statement determines what its query says.**  The text of a plain query, whatever its names
hold, is read clause by clause as exactly what the query says, so plain queries that say different
things have different texts. -/
theorem render_faithful (hq : q.IsPlain) (h : q.render = .ok sql) :
    (∃ s, q.contents = .ok s ∧ readStatementOf sql = some s)
      ∧ ∀ q' : SelectQuery, q'.IsPlain → q'.render = .ok sql → q'.contents = q.contents := by
  obtain ⟨s, hs, hread⟩ := readStatementOf_render hq h
  refine ⟨⟨s, hs, hread⟩, fun q' hq' h' => ?_⟩
  obtain ⟨s', hs', hread'⟩ := readStatementOf_render hq' h'
  rw [hs, hs', Option.some.inj (hread'.symm.trans hread)]

/-- A query whose names hold quotes, keywords and the marks of a comment. -/
def hostileQuery : SelectQuery where
  select := [.column "a\" FROM \"b", .aliased "c" (some "") false]
  table := "t"
  joins := [⟨.left, "u", [("id", "v.\".id")]⟩]
  filters := .object [("c", .text "' LIMIT 1")]
  groupBy := []
  orderBy := [⟨"c --", .descending⟩]
  limit := some 0
  offset := some 0

/-- The statement of the query. -/
def hostileStatement : String :=
  "SELECT \"a\"\" FROM \"\"b\", \"c\" FROM \"t\""
    ++ " LEFT JOIN \"u\" ON \"t\".\"id\" = \"v\".\"\"\".id\""
    ++ " WHERE \"c\" = ''' LIMIT 1' ORDER BY \"c --\" DESC LIMIT 0"

theorem hostileQuery_faithful : hostileQuery.IsPlain ∧ hostileQuery.render = .ok hostileStatement
    ∧ readStatementOf hostileStatement = some (hostileQuery.contentsUnder "\"c\" = ''' LIMIT 1'")
    ∧ ∀ q : SelectQuery, q.IsPlain → q.render = .ok hostileStatement →
      q.contents = hostileQuery.contents := by
  have hplain : hostileQuery.IsPlain := ⟨by decide, by decide⟩
  have hrender : hostileQuery.render = .ok hostileStatement := by rfl
  obtain ⟨⟨s, hs, hread⟩, hsame⟩ := render_faithful hplain hrender
  have hcontents : hostileQuery.contents
      = .ok (hostileQuery.contentsUnder "\"c\" = ''' LIMIT 1'") := by rfl
  obtain rfl := Except.ok.inj (hcontents.symm.trans hs)
  exact ⟨hplain, hrender, hread, hsame⟩

end SelectQuery

end MetricLayer
