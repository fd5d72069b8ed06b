import MetricLayer.Proofs.Sql.SearchCondition

/-!
# The tables that a statement reads

`readStatement` finds every table that a statement reads and the condition that the rows of the
table meet, as the database does:

* a query is SELECT, a list of items, FROM, its sources, an optional WHERE and a tail such as GROUP BY;
* a source is a table or a query in parentheses, and sources are joined by CROSS JOIN;
* items and tails are passed over, in step with their parentheses; they may hold no word that starts
  a query or a clause of one, so no table hides in them.

A list of lexemes that is no such statement has no reading.
-/

namespace MetricLayer.Sql

/-- A table that a statement reads, with the condition that its rows meet. -/
structure Scan where
  /-- The table. -/
  table : String
  /-- The condition of the query that reads the table, if it has one. -/
  condition : Option SearchCondition

/-! ## Clauses that are passed over -/

/-- The words that start or join queries, and those that start the clauses with tables. -/
def queryWords : List String :=
  ["select", "from", "where", "join", "union", "intersect", "except", "with", "table", "values"]

/-- What is left after a clause of which `depth` parentheses are open: nothing, the parenthesis that
closes the query, or a word of `queryWords`. -/
def skipClause : Nat → List Lexeme → Option (List Lexeme)
  | 0, [] => some []
  | _ + 1, [] => none
  | depth, .leftParen :: rest => skipClause (depth + 1) rest
  | 0, .rightParen :: rest => some (.rightParen :: rest)
  | depth + 1, .rightParen :: rest => skipClause depth rest
  | 0, .word w :: rest =>
    if w ∈ queryWords then some (.word w :: rest) else skipClause 0 rest
  | depth + 1, .word w :: rest => if w ∈ queryWords then none else skipClause (depth + 1) rest
  | depth, _ :: rest => skipClause depth rest

/-! ## Queries -/

/-- The tables and the scans of the queries among the sources of a query. -/
structure Sources where
  /-- The tables, which the condition of the query is about. -/
  tables : List String
  /-- The scans of the queries among the sources. -/
  scans : List Scan

/-- All scans of a query with these sources and this condition. -/
def Sources.all (s : Sources) (condition : Option SearchCondition) : List Scan :=
  s.tables.map (⟨·, condition⟩) ++ s.scans

/-- The condition of a query, if it has one. -/
def readWhere (ts : List Lexeme) : Option (Option SearchCondition × List Lexeme) :=
  match afterWord? "where" ts with
  | some rest => (readSearch rest).map fun r => (some r.1, r.2)
  | none => some (none, ts)

/-- The words that a tail starts with. -/
def tailWords : List String := ["group", "order", "limit", "offset"]

/-- A query may end here, or its tail may start here. -/
def startsTail : List Lexeme → Bool
  | [] => true
  | .rightParen :: _ => true
  | .word w :: _ => w ∈ tailWords
  | _ => false

/-- What follows a tail: nothing, or the parenthesis that closes the query. -/
def afterTail? (ts : List Lexeme) : Option (List Lexeme) :=
  if startsTail ts then
    (skipClause 0 ts).filter fun rest => rest.isEmpty || rest.head? = some .rightParen
  else none

/-- What follows the name that a query among the sources gets. -/
def afterAlias? (ts : List Lexeme) : Option (List Lexeme) :=
  match afterWord? "as" ts with
  | some (.word _ :: rest) => some rest
  | _ => none

/-- What follows CROSS JOIN. -/
def afterCrossJoin? (ts : List Lexeme) : Option (List Lexeme) :=
  (afterWord? "cross" ts).bind (afterWord? "join")

mutual

/-- The scans of the query at the head, with `fuel` nested steps at most. -/
def readQuery (fuel : Nat) (ts : List Lexeme) : Option (List Scan × List Lexeme) :=
  match fuel with
  | 0 => none
  | fuel + 1 => do
    let items ← afterWord? "select" ts
    let sources ← (skipClause 0 items).bind (afterWord? "from")
    let (found, rest) ← readSources fuel sources
    let (condition, rest) ← readWhere rest
    let rest ← afterTail? rest
    return (found.all condition, rest)

/-- The sources of a query. -/
def readSources (fuel : Nat) (ts : List Lexeme) : Option (Sources × List Lexeme) :=
  match fuel with
  | 0 => none
  | fuel + 1 => do
    let (first, rest) ← readSource fuel ts
    match afterCrossJoin? rest with
    | none => return (first, rest)
    | some others =>
      let (more, rest) ← readSources fuel others
      return (⟨first.tables ++ more.tables, first.scans ++ more.scans⟩, rest)

/-- One source: a table or a query. -/
def readSource (fuel : Nat) (ts : List Lexeme) : Option (Sources × List Lexeme) :=
  match fuel with
  | 0 => none
  | fuel + 1 =>
    match ts with
    | .name table :: rest => some (⟨[table], []⟩, rest)
    | .leftParen :: rest => do
      let (scans, rest) ← (readQuery fuel rest).bind closed
      let rest ← afterAlias? rest
      return (⟨[], scans⟩, rest)
    | _ => none

end

/-- All tables that a statement reads, each with the condition that its rows meet. -/
def readStatement (ts : List Lexeme) : Option (List Scan) :=
  match readQuery ts.length ts with
  | some (scans, []) => some scans
  | _ => none

/-! ## Lexemes that are passed over -/

/-- Whatever stands around them, the lexemes are passed over. -/
def Skipped (ts : List Lexeme) : Prop :=
  ∀ depth rest, skipClause depth (ts ++ rest) = skipClause depth rest

theorem Skipped.nil : Skipped [] := fun _ _ => rfl

theorem Skipped.append {ts us : List Lexeme} (ht : Skipped ts) (hu : Skipped us) :
    Skipped (ts ++ us) := by
  intro depth rest
  rw [List.append_assoc, ht, hu]

/-- Parentheses around lexemes that are passed over are passed over as well. -/
theorem Skipped.group {ts : List Lexeme} (h : Skipped ts) :
    Skipped (.leftParen :: (ts ++ [.rightParen])) := by
  intro depth rest
  rw [List.cons_append, List.append_assoc, List.singleton_append, skipClause, h, skipClause]

/-- The lexeme is no parenthesis, no comment and no word of queries. -/
def passes : Lexeme → Bool
  | .leftParen => false
  | .rightParen => false
  | .comment => false
  | .word w => w ∉ queryWords
  | _ => true

theorem Skipped.cons {l : Lexeme} {ts : List Lexeme} (hl : passes l = true) (h : Skipped ts) :
    Skipped (l :: ts) := by
  intro depth rest
  rw [List.cons_append]
  cases l with
  | leftParen | rightParen | comment => cases hl
  | word w =>
    have hw : w ∉ queryWords := by simpa [passes] using hl
    cases depth <;> rw [skipClause, if_neg hw, h]
  | _ => cases depth <;> simpa only [skipClause] using h _ rest

theorem Skipped.of_passes {ts : List Lexeme} (h : ∀ l ∈ ts, passes l = true) : Skipped ts := by
  induction ts with
  | nil => exact .nil
  | cons l ts ih =>
    exact .cons (h l (by simp)) (ih fun k hk => h k (List.mem_cons_of_mem _ hk))

/-- Lexemes between separators. -/
theorem Skipped.separated {l : Lexeme} {tss : List (List Lexeme)} (hl : passes l = true)
    (h : ∀ ts ∈ tss, Skipped ts) : Skipped (separatedBy l tss) := by
  induction tss with
  | nil => exact .nil
  | cons ts tss ih =>
    have hts := h ts (by simp)
    have hrest := ih fun us hus => h us (List.mem_cons_of_mem _ hus)
    cases tss with
    | nil => exact hts
    | cons us tss =>
      exact hts.append (.cons hl hrest)

/-! ## Queries that are read -/

/-- A query may end before these lexemes. -/
def EndsQuery (rest : List Lexeme) : Prop := ∀ l ∈ rest.head?, l = .rightParen

theorem endsQuery_nil : EndsQuery [] := by simp [EndsQuery]

theorem endsQuery_rightParen (rest : List Lexeme) : EndsQuery (.rightParen :: rest) := by
  simp [EndsQuery]

theorem EndsQuery.cases {rest : List Lexeme} (h : EndsQuery rest) :
    rest = [] ∨ ∃ rest', rest = .rightParen :: rest' := by
  cases rest with
  | nil => exact .inl rfl
  | cons l rest => exact .inr ⟨rest, by rw [h l (by simp)]⟩

/-- The lexemes are the tail of a query. -/
structure IsTail (ts : List Lexeme) : Prop where
  /-- They are passed over. -/
  skipped : Skipped ts
  /-- They are none, or they start with a word that tails start with. -/
  head : ∀ l ∈ ts.head?, ∃ w ∈ tailWords, l = .word w

theorem IsTail.nil : IsTail [] := ⟨.nil, by simp⟩

/-- What stands after the sources or the condition of a query. -/
theorem IsTail.cases {tail rest : List Lexeme} (htail : IsTail tail) (hrest : EndsQuery rest) :
    tail ++ rest = [] ∨ (∃ rest', tail ++ rest = .rightParen :: rest')
      ∨ ∃ w ∈ tailWords, ∃ rest', tail ++ rest = .word w :: rest' := by
  cases tail with
  | nil => exact hrest.cases.imp_right .inl
  | cons l tail =>
    obtain ⟨w, hw, rfl⟩ := htail.head l (by simp)
    exact .inr (.inr ⟨w, hw, _, rfl⟩)

theorem afterTail?_append {tail rest : List Lexeme} (htail : IsTail tail) (hrest : EndsQuery rest) :
    afterTail? (tail ++ rest) = some rest := by
  have hstarts : startsTail (tail ++ rest) = true := by
    rcases htail.cases hrest with h | ⟨_, h⟩ | ⟨w, hw, _, h⟩ <;> rw [h]
    · rfl
    · rfl
    · exact decide_eq_true hw
  rw [afterTail?, if_pos hstarts, htail.skipped]
  rcases hrest.cases with rfl | ⟨_, rfl⟩ <;> rfl

/-- The condition of a query has ended here. -/
theorem IsTail.ends {tail rest : List Lexeme} (htail : IsTail tail) (hrest : EndsQuery rest) :
    Ends .whole (tail ++ rest) := by
  rcases htail.cases hrest with h | ⟨_, h⟩ | ⟨w, hw, _, h⟩ <;> rw [h]
  · exact ends_nil _
  · exact ends_rightParen _ _
  · refine ends_word _ ?_ ?_ _ <;> rintro rfl <;> exact absurd hw (by decide)

/-- The lexemes are the condition of a query, or there are none. -/
inductive IsWhere : List Lexeme → Option SearchCondition → Prop
  | absent : IsWhere [] none
  | present {ts : List Lexeme} {c : SearchCondition} (h : ReadsCondition .whole ts c) :
      IsWhere (.word "where" :: ts) (some c)

theorem readWhere_append {ws tail rest : List Lexeme} {c : Option SearchCondition}
    (h : IsWhere ws c) (htail : IsTail tail) (hrest : EndsQuery rest) :
    readWhere (ws ++ (tail ++ rest)) = some (c, tail ++ rest) := by
  cases h with
  | absent =>
    rw [List.nil_append, readWhere]
    rcases htail.cases hrest with h | ⟨_, h⟩ | ⟨w, hw, _, h⟩ <;> rw [h]
    · rfl
    · rfl
    · rw [afterWord?, if_neg (by rintro rfl; exact absurd hw (by decide))]
  | present h =>
    rw [List.cons_append, readWhere, afterWord?, if_pos rfl]
    simp only [h.readSearch_eq (htail.ends hrest), Option.map_some]

theorem afterCrossJoin?_eq_none {ws tail rest : List Lexeme} {c : Option SearchCondition}
    (h : IsWhere ws c) (htail : IsTail tail) (hrest : EndsQuery rest) :
    afterCrossJoin? (ws ++ (tail ++ rest)) = none := by
  cases h with
  | absent =>
    rw [List.nil_append, afterCrossJoin?]
    rcases htail.cases hrest with h | ⟨_, h⟩ | ⟨w, hw, _, h⟩ <;> rw [h]
    · rfl
    · rfl
    · rw [afterWord?, if_neg (by rintro rfl; exact absurd hw (by decide)), Option.bind_none]
  | present h => rfl

/-- The lexemes are read as a query with these scans, with `depth` nested steps. -/
def ReadsQuery (depth : Nat) (ts : List Lexeme) (scans : List Scan) : Prop :=
  ∀ n rest, EndsQuery rest → readQuery (n + depth) (ts ++ rest) = some (scans, rest)

/-- A query of one table. -/
theorem ReadsQuery.ofTable {items ws tail : List Lexeme} {c : Option SearchCondition}
    (table : String) (hitems : Skipped items) (hws : IsWhere ws c) (htail : IsTail tail) :
    ReadsQuery 3 (.word "select" :: (items ++ .word "from" :: .name table :: (ws ++ tail)))
      [⟨table, c⟩] := by
  intro n rest hrest
  have hsources : readSources (n + 2) (.name table :: (ws ++ (tail ++ rest)))
      = some (⟨[table], []⟩, ws ++ (tail ++ rest)) := by
    rw [readSources, readSource]
    simp only [Option.bind_eq_bind, Option.bind_some, afterCrossJoin?_eq_none hws htail hrest]
    rfl
  have hskip : skipClause 0 (items ++ .word "from" :: .name table :: (ws ++ (tail ++ rest)))
      = some (.word "from" :: .name table :: (ws ++ (tail ++ rest))) := by
    rw [hitems, skipClause, if_pos (by decide)]
  simp only [List.cons_append, List.append_assoc]
  rw [readQuery, afterWord?, if_pos rfl]
  simp only [Option.bind_eq_bind, Option.bind_some, hskip, afterWord?, if_true, hsources,
    readWhere_append hws htail hrest, afterTail?_append htail hrest]
  rfl

/-- A source that is a query in parentheses with a name. -/
theorem ReadsQuery.readSource_eq {depth : Nat} {qs : List Lexeme} {scans : List Scan}
    (h : ReadsQuery depth qs scans) (n : Nat) (name : String) (rest : List Lexeme) :
    readSource (n + depth + 1)
        (.leftParen :: (qs ++ .rightParen :: .word "as" :: .word name :: rest))
      = some (⟨[], scans⟩, rest) := by
  rw [readSource]
  simp only [Option.bind_eq_bind, h n _ (endsQuery_rightParen _), Option.bind_some, closed,
    afterAlias?, afterWord?, if_true, Option.pure_def]

/-- A query of two queries in parentheses, each with a name. -/
theorem ReadsQuery.crossJoin {depth : Nat} {items qs rs : List Lexeme} {ss us : List Scan}
    (a b : String) (hitems : Skipped items) (hq : ReadsQuery depth qs ss)
    (hr : ReadsQuery depth rs us) :
    ReadsQuery (depth + 4)
      (.word "select" :: (items ++ .word "from" :: .leftParen ::
        (qs ++ .rightParen :: .word "as" :: .word a :: .word "cross" :: .word "join" :: .leftParen ::
          (rs ++ [.rightParen, .word "as", .word b]))))
      (ss ++ us) := by
  intro n rest hrest
  have hwhere := readWhere_append .absent .nil hrest
  have htail := afterTail?_append .nil hrest
  have hcross := afterCrossJoin?_eq_none .absent .nil hrest
  simp only [List.nil_append] at hwhere htail hcross
  have hsecond : readSources (n + depth + 2)
      (.leftParen :: (rs ++ .rightParen :: .word "as" :: .word b :: rest))
      = some (⟨[], us⟩, rest) := by
    rw [readSources, hr.readSource_eq]
    simp only [Option.bind_eq_bind, Option.bind_some, hcross, Option.pure_def]
  have hfirst : readSources (n + depth + 3)
      (.leftParen :: (qs ++ .rightParen :: .word "as" :: .word a :: .word "cross" :: .word "join" ::
        .leftParen :: (rs ++ .rightParen :: .word "as" :: .word b :: rest)))
      = some (⟨[], ss ++ us⟩, rest) := by
    have hsource := hq.readSource_eq (n + 1) a
    rw [show n + 1 + depth + 1 = n + depth + 2 by omega] at hsource
    rw [readSources, hsource]
    simp only [Option.bind_eq_bind, Option.bind_some, afterCrossJoin?, afterWord?, if_true, hsecond,
      Option.pure_def, List.append_nil]
  have hskip : ∀ more, skipClause 0 (items ++ .word "from" :: more)
      = some (.word "from" :: more) := by
    intro more
    rw [hitems, skipClause, if_pos (by decide)]
  simp only [List.cons_append, List.append_assoc, List.nil_append]
  rw [show n + (depth + 4) = n + depth + 3 + 1 from rfl, readQuery, afterWord?, if_pos rfl]
  simp only [Option.bind_eq_bind, Option.bind_some, hskip, afterWord?, if_true, hfirst, hwhere, htail]
  rfl

theorem ReadsQuery.readStatement_eq {depth : Nat} {ts : List Lexeme} {scans : List Scan}
    (h : ReadsQuery depth ts scans) (hdepth : depth ≤ ts.length) :
    readStatement ts = some scans := by
  obtain ⟨n, hn⟩ := Nat.exists_eq_add_of_le' hdepth
  have hread := h n [] endsQuery_nil
  rw [List.append_nil, ← hn] at hread
  rw [readStatement, hread]

end MetricLayer.Sql
