import MetricLayer.Proofs.Sql.ItemText
import MetricLayer.Proofs.Sql.Restriction
import MetricLayer.Sql.MetricQuery

/-!
# The text of a query

`Queries sql table m` says that a text is one query that reads one table, under a condition whose
meaning is `m`.  Any text `SELECT … FROM … WHERE … GROUP BY …` is one, provided that its items and
its tail hold no table (`queries_joined`), and two of them can be the sources of a third
(`Queries.readsUnder_comparison`).  `ReadsUnder sql table ms` says of any text how often it reads
the table and under which conditions.
-/

namespace MetricLayer.Sql

open Text

/-! ## Texts with spaces between them -/

/-- Texts with a space between them. -/
theorem Lexes.spaced {texts : List String} {tss : List (List Lexeme)}
    (h : List.Forall₂ (fun s ts => Lexes s.toList ts) texts tss) :
    Lexes (joined " " texts).toList tss.flatten := by
  induction h with
  | nil => simpa [joined] using Lexes.nil
  | @cons s ts texts tss hs hrest ih =>
    cases hrest with
    | nil => simpa [joined] using hs
    | @cons u us texts tss hu hrest =>
      have hlex := hs.append ih.space (by simp [isBoundary])
      rw [joined_cons]
      simpa using hlex

/-- A word before a text. -/
theorem Lexes.afterKeyword (s : String) {w : String} {t : String} {ts : List Lexeme}
    (hs : (isWordText s && folded s.toList = w) = true) (ht : Lexes t.toList ts) :
    Lexes (s ++ " " ++ t).toList (.word w :: ts) := by
  have hlex := (Lexes.keyword s hs).append ht.space (by simp [isBoundary])
  simpa using hlex

/-! ## Tails -/

/-- The text is a clause that stands in the tail of a query. -/
def IsTailText (s : String) : Prop := ∃ ts, Lexes s.toList ts ∧ Lexeme.comment ∉ ts ∧ IsTail ts

theorem IsTail.append {ts us : List Lexeme} (ht : IsTail ts) (hu : IsTail us) :
    IsTail (ts ++ us) := by
  refine ⟨ht.skipped.append hu.skipped, ?_⟩
  cases ts with
  | nil => exact hu.head
  | cons l ts => simpa using ht.head

/-- The clauses of a tail. -/
theorem isTailText_all {tail : List String} (h : ∀ s ∈ tail, IsTailText s) :
    ∃ tss, List.Forall₂ (fun s ts => Lexes s.toList ts) tail tss
      ∧ Lexeme.comment ∉ tss.flatten ∧ IsTail tss.flatten := by
  induction tail with
  | nil => exact ⟨[], .nil, by simp, .nil⟩
  | cons s tail ih =>
    obtain ⟨ts, hl, hc, ht⟩ := h s (by simp)
    obtain ⟨tss, hls, hcs, hts⟩ := ih fun u hu => h u (List.mem_cons_of_mem _ hu)
    refine ⟨ts :: tss, .cons hl hls, ?_, ?_⟩
    · rw [List.flatten_cons, List.mem_append]
      exact fun hmem => hmem.elim hc hcs
    · rw [List.flatten_cons]
      exact ht.append hts

/-- A word of tails before a text without a table. -/
theorem IsTailText.ofKeyword (s : String) {w t : String}
    (hs : (isWordText s && folded s.toList = w) = true) (hw : w ∈ tailWords)
    (ht : Passed t.toList) : IsTailText (s ++ " " ++ t) := by
  obtain ⟨ts, hl, hc, hskip⟩ := ht
  have hpass : passes (.word w) = true := by
    have hall : ∀ w ∈ tailWords, passes (.word w) = true := by decide
    exact hall w hw
  refine ⟨_, Lexes.afterKeyword s hs hl, by simpa using hc, .cons hpass hskip, fun l hlmem => ?_⟩
  exact ⟨w, hw, by simpa using hlmem.symm⟩

/-- The clause that groups or orders by a list, if there is one. -/
theorem listClause_isTailText {head : String} {items : List String}
    (hhead : head = "GROUP BY " ∨ head = "ORDER BY ") (hitems : ∀ s ∈ items, Solid s.toList) :
    ∀ s ∈ listClause head items, IsTailText s := by
  intro s hs
  unfold listClause at hs
  split at hs
  · cases hs
  · obtain rfl := List.mem_singleton.1 hs
    have hby : Passed ("BY" ++ " " ++ joined ", " items).toList := by
      have := (Solid.word (s := "BY") (by decide)).passed.append (Passed.joined hitems).space
        (by simp [isBoundary])
      simpa using this
    rcases hhead with rfl | rfl
    · have htail := IsTailText.ofKeyword "GROUP" (w := "group") (by decide) (by decide) hby
      have htext : "GROUP" ++ " " ++ ("BY" ++ " " ++ joined ", " items)
          = "GROUP BY " ++ joined ", " items := by
        rw [← String.toList_inj]
        simp
      rwa [htext] at htail
    · have htail := IsTailText.ofKeyword "ORDER" (w := "order") (by decide) (by decide) hby
      have htext : "ORDER" ++ " " ++ ("BY" ++ " " ++ joined ", " items)
          = "ORDER BY " ++ joined ", " items := by
        rw [← String.toList_inj]
        simp
      rwa [htext] at htail

/-! ## Queries -/

/-- The text is one query that reads the table once, under a condition with the meaning. -/
def Queries (sql table : String) (m : Option Meaning) : Prop :=
  ∃ ts c, Lexes sql.toList ts ∧ Lexeme.comment ∉ ts ∧ 3 ≤ ts.length
    ∧ ReadsQuery 3 ts [⟨table, c⟩] ∧ Means c m

/-- A query of one table from its clauses. -/
theorem queries_joined (tail : List String) {items table name condition : String}
    {m : Option Meaning} (hitems : Passed items.toList) (htable : sqlName table = .ok name)
    (hcondition : Restricts condition m) (htail : ∀ s ∈ tail, IsTailText s) :
    Queries (joined " " (["SELECT " ++ items, "FROM " ++ name]
      ++ (if condition = "" then [] else ["WHERE " ++ condition]) ++ tail)) table m := by
  obtain ⟨is, hil, hic, his⟩ := hitems
  obtain ⟨rfl, hne⟩ := sqlName_inv htable
  obtain ⟨wss, c, hwl, hwc, hws, hmeans⟩ := hcondition.whereClause
  obtain ⟨tss, htl, htc, hts⟩ := isTailText_all htail
  have hselect := Lexes.afterKeyword "SELECT" (w := "select") (by decide) hil
  have hfrom := Lexes.afterKeyword "FROM" (w := "from") (by decide) (Lexes.name hne)
  have hselect' : "SELECT" ++ " " ++ items = "SELECT " ++ items := by
    rw [← String.toList_inj]
    simp
  have hfrom' : "FROM" ++ " " ++ enclosed '"' table = "FROM " ++ enclosed '"' table := by
    rw [← String.toList_inj]
    simp
  rw [hselect'] at hselect
  rw [hfrom'] at hfrom
  have hclauses : List.Forall₂ (fun (s : String) ts => Lexes s.toList ts)
      ["SELECT " ++ items, "FROM " ++ enclosed '"' table]
      [.word "select" :: is, [.word "from", .name table]] := .cons hselect (.cons hfrom .nil)
  have hlex := Lexes.spaced (List.rel_append (List.rel_append hclauses hwl) htl)
  refine ⟨_, c, hlex, ?_, ?_, ?_, hmeans⟩
  · simp only [List.flatten_append, List.mem_append, not_or]
    exact ⟨⟨by simpa using hic, hwc⟩, htc⟩
  · simp only [List.flatten_append, List.flatten_cons, List.length_append, List.length_cons]
    omega
  · have hread := ReadsQuery.ofTable table his hws hts
    simpa using hread

/-! ## A query over two periods -/

theorem Solid.dotted {s u : String} (hs : isPassedWord s = true) (hu : isPassedWord u = true) :
    Solid (s ++ "." ++ u).toList := by
  simp only [isPassedWord, Bool.and_eq_true, decide_eq_true_eq] at hs hu
  exact .of_keepsItem (Lexes.dotted hs.1 hu.1) (by simp [keepsItem, passes, hs.2, hu.2])

/-- A text under another name. -/
theorem Solid.aliased {s u : String} (hs : Solid s.toList) (hu : Solid u.toList) :
    Solid (s ++ " AS " ++ u).toList := by
  have := (hs.beside (Solid.word (s := "AS") (by decide))).beside hu
  simpa using this

/-- The items of a query over two periods: their values and the change between them. -/
def changeItems (change : String) : List String :=
  ["current_period.value AS value", "previous_period.value AS previous_value",
    "((current_period.value - previous_period.value) "
      ++ "/ NULLIF(CAST(previous_period.value AS DOUBLE PRECISION), 0) * 100) AS " ++ change]

/-- A query over two periods, from the queries of each. -/
def comparisonText (change current previous : String) : String :=
  "SELECT " ++ joined ", " (changeItems change) ++ " FROM (" ++ current
    ++ ") AS current_period CROSS JOIN (" ++ previous ++ ") AS previous_period"

theorem solid_current : Solid ("current_period" ++ "." ++ "value").toList :=
  .dotted (by decide) (by decide)

theorem solid_previous : Solid ("previous_period" ++ "." ++ "value").toList :=
  .dotted (by decide) (by decide)

/-- The change between the values of two periods, in per cent. -/
theorem solid_change : Solid ("((current_period.value - previous_period.value) "
    ++ "/ NULLIF(CAST(previous_period.value AS DOUBLE PRECISION), 0) * 100)").toList := by
  have hzero : Solid "0".toList := .number (IsMantissa.whole (isDigits_of_all (by decide))).isNumeral
  have hhundred : Solid "100".toList :=
    .number (IsMantissa.whole (isDigits_of_all (by decide))).isNumeral
  have hdouble : Solid "DOUBLE PRECISION".toList :=
    Solid.words "DOUBLE" ["PRECISION"] (by decide)
  have hcast := Solid.call (f := "CAST") (by decide) (solid_previous.aliased hdouble).passed
  have hnullif := Solid.call (f := "NULLIF") (by decide) (.pair hcast hzero)
  have hdifference := Solid.enclosed (solid_current.between .sub solid_previous).passed
  have hquotient := Solid.enclosed ((hdifference.between .div hnullif).between .mul hhundred).passed
  simpa [joined, Operator.sign] using hquotient

theorem solid_changeItems {change : String} (h : isPassedWord change = true) :
    ∀ s ∈ changeItems change, Solid s.toList := by
  intro s hs
  simp only [changeItems, List.mem_cons, List.not_mem_nil, or_false] at hs
  rcases hs with rfl | rfl | rfl
  · have := solid_current.aliased (Solid.word (s := "value") (by decide))
    simpa using this
  · have := solid_previous.aliased (Solid.word (s := "previous_value") (by decide))
    simpa using this
  · have := solid_change.aliased (Solid.word h)
    simpa using this

/-- A query in parentheses with a name. -/
theorem Lexes.subquery (name : String) {s t w : String} {ts us : List Lexeme}
    (hs : Lexes s.toList ts) (hname : (isWordText name && folded name.toList = w) = true)
    (ht : Lexes t.toList us) (hb : AtBoundary t.toList) :
    Lexes ("(" ++ s ++ ") AS " ++ name ++ t).toList
      (.leftParen :: (ts ++ .rightParen :: .word "as" :: .word w :: us)) := by
  have hname' := (Lexes.keyword name hname).append ht hb
  have has := ((Lexes.keyword "AS" (w := "as") (by decide)).append hname'.space
    (by simp [isBoundary])).space.rightParen
  have hlex := (hs.append has (by simp [isBoundary])).leftParen
  simpa using hlex

/-- A text is read as a statement with these scans. -/
def Statements (sql : String) (scans : List Scan) : Prop :=
  ∃ ts, lex sql.toList = some ts ∧ Lexeme.comment ∉ ts ∧ readStatement ts = some scans

/-- The statement reads the table and nothing else, once under each of the conditions. -/
def ReadsUnder (sql table : String) (conditions : List (Option Meaning)) : Prop :=
  ∃ scans, Statements sql scans
    ∧ List.Forall₂ (fun s m => s.table = table ∧ Means s.condition m) scans conditions

theorem Queries.readsUnder {sql table : String} {m : Option Meaning} (h : Queries sql table m) :
    ReadsUnder sql table [m] := by
  obtain ⟨ts, c, hl, hc, hlength, hread, hmeans⟩ := h
  exact ⟨[⟨table, c⟩], ⟨ts, hl.lex_eq, hc, hread.readStatement_eq hlength⟩,
    .cons ⟨rfl, hmeans⟩ .nil⟩

/-- A query over two periods reads the table in each of them. -/
theorem Queries.readsUnder_comparison {current previous table change : String}
    {m n : Option Meaning} (hm : Queries current table m) (hn : Queries previous table n)
    (hchange : isPassedWord change = true) :
    ReadsUnder (comparisonText change current previous) table [m, n] := by
  obtain ⟨ts, c, htl, htc, -, htr, hcm⟩ := hm
  obtain ⟨us, d, hul, huc, -, hur, hdn⟩ := hn
  obtain ⟨is, hil, hic, his⟩ := Passed.joined (solid_changeItems hchange)
  have hsecond := Lexes.subquery "previous_period" hul (w := "previous_period")
    (t := "") (by decide) (by simpa using Lexes.nil) (by simp)
  have hjoin := ((Lexes.keyword "CROSS" (w := "cross") (by decide)).append
    (((Lexes.keyword "JOIN" (w := "join") (by decide)).append hsecond.space
      (by simp [isBoundary])).space) (by simp [isBoundary])).space
  have hfirst := Lexes.subquery "current_period" htl (w := "current_period")
    (t := " CROSS JOIN (" ++ previous ++ ") AS previous_period") (by decide)
    (by simpa using hjoin) (by simp [isBoundary])
  have hfrom := (hil.append (((Lexes.keyword "FROM" (w := "from") (by decide)).append hfirst.space
    (by simp [isBoundary])).space) (by simp [isBoundary]))
  have hselect := (Lexes.keyword "SELECT" (w := "select") (by decide)).append hfrom.space
    (by simp [isBoundary])
  have hread := ReadsQuery.crossJoin "current_period" "previous_period" his htr hur
  refine ⟨[⟨table, c⟩, ⟨table, d⟩], ⟨_, Lexes.lex_eq (by simpa [comparisonText] using hselect), ?_,
    hread.readStatement_eq ?_⟩, .cons ⟨rfl, hcm⟩ (.cons ⟨rfl, hdn⟩ .nil)⟩
  · simp [hic, htc, huc]
  · simp only [List.length_cons, List.length_append]
    omega

end MetricLayer.Sql
