import MetricLayer.Proofs.Sql.Spelling

/-!
# Search conditions

What stands after WHERE, as the database reads and evaluates it.

* `Truth` are the three truth values of SQL, `Truth.all` and `Truth.any` the conjunction and the
  disjunction of a list.
* `SearchCondition` is a boolean combination of predicates over terms; `SearchCondition.eval` is its
  value under any assignment of truth values to predicates.
* `readConditionAt` reads a condition from a list of lexemes: NOT binds tighter than AND, AND binds
  tighter than OR, both group to the left, and parentheses stand around any condition.
* `ReadsCondition level ts c` says that the lexemes `ts` are read as the condition `c` before
  anything that does not go on with it.
-/

namespace MetricLayer.Sql

/-! ## Truth values -/

/-- The truth values of SQL. -/
inductive Truth where
  | true | false | unknown
  deriving DecidableEq, Repr

namespace Truth

/-- The negation. -/
def not : Truth → Truth
  | true => false
  | false => true
  | unknown => unknown

/-- The conjunction: false as soon as one side is. -/
def and : Truth → Truth → Truth
  | true, b => b
  | false, _ => false
  | unknown, false => false
  | unknown, _ => unknown

/-- The disjunction: true as soon as one side is. -/
def or : Truth → Truth → Truth
  | false, b => b
  | true, _ => true
  | unknown, true => true
  | unknown, _ => unknown

/-- The conjunction of a list. -/
def all : List Truth → Truth
  | [] => true
  | a :: rest => a.and (all rest)

/-- The disjunction of a list. -/
def any : List Truth → Truth
  | [] => false
  | a :: rest => a.or (any rest)

@[simp]
theorem and_true (a : Truth) : a.and true = a := by cases a <;> rfl

@[simp]
theorem or_false (a : Truth) : a.or false = a := by cases a <;> rfl

theorem and_assoc (a b c : Truth) : (a.and b).and c = a.and (b.and c) := by
  cases a <;> cases b <;> cases c <;> rfl

theorem or_assoc (a b c : Truth) : (a.or b).or c = a.or (b.or c) := by
  cases a <;> cases b <;> cases c <;> rfl

theorem and_eq_true {a b : Truth} : a.and b = true ↔ a = true ∧ b = true := by
  cases a <;> cases b <;> simp [and]

theorem all_append (as bs : List Truth) : all (as ++ bs) = (all as).and (all bs) := by
  induction as with
  | nil => rfl
  | cons a as ih => rw [List.cons_append, all, ih, all, and_assoc]

/-- A conjunction is true exactly when all its parts are. -/
theorem all_eq_true {as : List Truth} : all as = true ↔ ∀ a ∈ as, a = true := by
  induction as with
  | nil => simp [all]
  | cons a as ih => simp [all, and_eq_true, ih]

end Truth

/-! ## Conditions and their values -/

/-- A statement about the values of a row that no connective joins. -/
inductive Predicate where
  /-- Two values compared. -/
  | compare (sign : String) (left right : Term)
  /-- A value that is null, or not. -/
  | isNull (negated : Bool) (value : Term)
  /-- A value among others, or not. -/
  | member (negated : Bool) (value : Term) (among : List Term)
  /-- A value that matches a pattern, or not. -/
  | like (negated : Bool) (value pattern : Term)
  deriving Repr

/-- An assignment of truth values to predicates, as a row makes one. -/
abbrev Assignment := Predicate → Truth

/-- A condition on the rows of a table. -/
inductive SearchCondition where
  /-- A single predicate. -/
  | predicate (p : Predicate)
  /-- A negation. -/
  | not (c : SearchCondition)
  /-- A conjunction. -/
  | and (left right : SearchCondition)
  /-- A disjunction. -/
  | or (left right : SearchCondition)
  deriving Repr

/-- The value of a condition. -/
def SearchCondition.eval (v : Assignment) : SearchCondition → Truth
  | .predicate p => v p
  | .not c => (c.eval v).not
  | .and l r => (l.eval v).and (r.eval v)
  | .or l r => (l.eval v).or (r.eval v)

/-! ## Reading predicates -/

/-- The signs of comparison. -/
def comparisonSigns : List String := ["=", "<", ">", "<=", ">=", "<>", "!="]

/-- A whole value expression at the head. -/
def readSum (ts : List Lexeme) : Reading Term := readAt (4 * ts.length + 3) .sum ts

/-- What follows a word at the head. -/
def afterWord? (w : String) : List Lexeme → Option (List Lexeme)
  | .word u :: rest => if u = w then some rest else none
  | _ => none

/-- What follows an opening parenthesis. -/
def afterParen? : List Lexeme → Option (List Lexeme)
  | .leftParen :: rest => some rest
  | _ => none

/-- The rest of `IN (…)` or `LIKE …` after the value it is about. -/
def readMatch (negated : Bool) (value : Term) (ts : List Lexeme) : Reading Predicate :=
  match (afterWord? "in" ts).bind afterParen?, afterWord? "like" ts with
  | some rest, _ =>
    (readArguments (4 * rest.length + 4) rest).map fun r => (.member negated value r.1, r.2)
  | none, some rest => (readSum rest).map fun r => (.like negated value r.1, r.2)
  | none, none => none

/-- The rest of `IS NULL` or `IS NOT NULL` after IS. -/
def readNull (value : Term) (ts : List Lexeme) : Reading Predicate :=
  match afterWord? "not" ts with
  | some rest => (afterWord? "null" rest).map (.isNull true value, ·)
  | none => (afterWord? "null" ts).map (.isNull false value, ·)

/-- The rest of a predicate after the value it is about. -/
def readComparison (value : Term) : List Lexeme → Reading Predicate
  | .operator s :: rest =>
    if s ∈ comparisonSigns then (readSum rest).map fun r => (.compare s value r.1, r.2) else none
  | ts =>
    match afterWord? "is" ts, afterWord? "not" ts with
    | some rest, _ => readNull value rest
    | none, some rest => readMatch true value rest
    | none, none => readMatch false value ts

/-- A predicate at the head. -/
def readPredicate (ts : List Lexeme) : Reading SearchCondition :=
  (readSum ts).bind fun r => (readComparison r.1 r.2).map fun p => (.predicate p.1, p.2)

/-! ## Reading conditions -/

/-- The levels of the grammar, from the tightest to the loosest. -/
inductive Level where
  /-- A predicate, or a condition in parentheses. -/
  | primary
  /-- A primary that may be negated. -/
  | factor
  /-- Factors joined by AND. -/
  | term
  /-- Terms joined by OR. -/
  | whole
  deriving DecidableEq, Repr

namespace Level

/-- The number of levels below. -/
def height : Level → Nat
  | primary => 0
  | factor => 1
  | term => 2
  | whole => 3

/-- What follows the connective of a level. -/
def afterConnective? : Level → List Lexeme → Option (List Lexeme)
  | term, ts => afterWord? "and" ts
  | whole, ts => afterWord? "or" ts
  | _, _ => none

/-- Two conditions joined by the connective of a level. -/
def join : Level → SearchCondition → SearchCondition → SearchCondition
  | whole => .or
  | _ => .and

end Level

mutual

/-- A condition of a level, with `fuel` nested steps at most. -/
def readConditionAt (fuel : Nat) (level : Level) (ts : List Lexeme) : Reading SearchCondition :=
  match fuel with
  | 0 => none
  | fuel + 1 =>
    match level with
    | .primary =>
      ((afterParen? ts).bind fun rest => (readConditionAt fuel .whole rest).bind closed).or
        (readPredicate ts)
    | .factor =>
      match afterWord? "not" ts with
      | some rest => (readConditionAt fuel .factor rest).map fun r => (.not r.1, r.2)
      | none => readConditionAt fuel .primary ts
    | .term => (readConditionAt fuel .factor ts).bind fun r => readMoreAt fuel .term .factor r.1 r.2
    | .whole => (readConditionAt fuel .term ts).bind fun r => readMoreAt fuel .whole .term r.1 r.2

/-- The further conditions of a level after `left`. -/
def readMoreAt (fuel : Nat) (level below : Level) (left : SearchCondition) (ts : List Lexeme) :
    Reading SearchCondition :=
  match fuel with
  | 0 => none
  | fuel + 1 =>
    match level.afterConnective? ts with
    | none => some (left, ts)
    | some rest =>
      (readConditionAt fuel below rest).bind fun r =>
        readMoreAt fuel level below (level.join left r.1) r.2

end

/-- The condition at the head of a list of lexemes, and what follows it. -/
def readSearch (ts : List Lexeme) : Reading SearchCondition :=
  readConditionAt (4 * ts.length + 3) .whole ts

/-- The condition that a list of lexemes spells. -/
def readCondition (ts : List Lexeme) : Option SearchCondition :=
  match readSearch ts with
  | some (c, []) => some c
  | _ => none

/-! ## Lexemes that are read as a condition -/

/-- What follows does not go on with a condition of the level. -/
structure Ends (level : Level) (rest : List Lexeme) : Prop where
  /-- The last value of a predicate ends here. -/
  stops : Stops .sum rest
  /-- No connective of the level or of one below follows. -/
  no_connective : ∀ below : Level, below.height ≤ level.height → below.afterConnective? rest = none

theorem Ends.mono {level below : Level} {rest : List Lexeme} (h : Ends level rest)
    (hle : below.height ≤ level.height) : Ends below rest :=
  ⟨h.stops, fun l hl => h.no_connective l (Nat.le_trans hl hle)⟩

theorem ends_nil (level : Level) : Ends level [] :=
  ⟨stops_nil _, fun below _ => by cases below <;> rfl⟩

theorem ends_rightParen (level : Level) (rest : List Lexeme) : Ends level (.rightParen :: rest) :=
  ⟨stops_rightParen _ _, fun below _ => by cases below <;> rfl⟩

/-- A word that is no connective ends every condition. -/
theorem ends_word (level : Level) {w : String} (hand : w ≠ "and") (hor : w ≠ "or")
    (rest : List Lexeme) : Ends level (.word w :: rest) :=
  ⟨stops_word _ _ _, fun below _ => by
    cases below <;> simp [Level.afterConnective?, afterWord?, hand, hor]⟩

/-- OR ends a term. -/
theorem ends_or (rest : List Lexeme) : Ends .term (.word "or" :: rest) :=
  ⟨stops_word _ _ _, fun below h => by
    cases below <;> first | rfl | (exact absurd h (by decide))⟩

/-- AND ends a factor. -/
theorem ends_and (rest : List Lexeme) : Ends .factor (.word "and" :: rest) :=
  ⟨stops_word _ _ _, fun below h => by
    cases below <;> first | rfl | (exact absurd h (by decide))⟩

/-- The lexemes are read as the condition before anything that does not go on with it. -/
def ReadsCondition (level : Level) (ts : List Lexeme) (c : SearchCondition) : Prop :=
  ∀ n rest, Ends level rest → 4 * ts.length + level.height ≤ n →
    readConditionAt n level (ts ++ rest) = some (c, rest)

theorem ReadsCondition.readCondition_eq {ts : List Lexeme} {c : SearchCondition}
    (h : ReadsCondition .whole ts c) : readCondition ts = some c := by
  have := h (4 * ts.length + 3) [] (ends_nil _) (Nat.le_refl _)
  rw [List.append_nil] at this
  rw [readCondition, readSearch, this]

/-- The condition before anything that does not go on with it. -/
theorem ReadsCondition.readSearch_eq {ts rest : List Lexeme} {c : SearchCondition}
    (h : ReadsCondition .whole ts c) (hrest : Ends .whole rest) :
    readSearch (ts ++ rest) = some (c, rest) :=
  h _ rest hrest (by simp only [List.length_append, Level.height]; omega)

/-! ### Looser levels -/

/-- A primary starts with no NOT. -/
theorem ReadsCondition.head {ts : List Lexeme} {c : SearchCondition}
    (h : ReadsCondition .primary ts c) : ∃ l ts', ts = l :: ts' ∧ l ≠ .word "not" := by
  have hread := h (4 * ts.length + 1) [] (ends_nil _) (by simp [Level.height])
  rw [List.append_nil, readConditionAt] at hread
  cases hparen : afterParen? ts with
  | some rest =>
    cases ts with
    | nil => cases hparen
    | cons l ts' =>
      cases l with
      | leftParen => exact ⟨_, _, rfl, by simp⟩
      | _ => cases hparen
  | none =>
    rw [hparen, Option.bind_none, Option.none_or, readPredicate] at hread
    obtain ⟨r, hr, -⟩ := Option.bind_eq_some_iff.1 hread
    obtain ⟨l, ts', rfl, hstart⟩ := readAt_start hr
    refine ⟨l, ts', rfl, ?_⟩
    rintro rfl
    exact absurd hstart (by decide)

theorem ReadsCondition.factor {ts : List Lexeme} {c : SearchCondition}
    (h : ReadsCondition .primary ts c) : ReadsCondition .factor ts c := by
  intro n rest hrest hn
  obtain ⟨l, ts', rfl, hnot⟩ := h.head
  obtain ⟨n, rfl⟩ : ∃ k, n = k + 1 := ⟨n - 1, by simp [Level.height] at hn; omega⟩
  have hword : afterWord? "not" (l :: ts' ++ rest) = none := by
    cases l <;> simp_all [afterWord?]
  rw [readConditionAt, hword]
  exact h n rest (hrest.mono (by decide)) (by simp [Level.height] at hn ⊢; omega)

theorem readMoreAt_stop {level below : Level} {rest : List Lexeme} (h : Ends level rest)
    (c : SearchCondition) (n : Nat) : readMoreAt (n + 1) level below c rest = some (c, rest) := by
  rw [readMoreAt, h.no_connective level (Nat.le_refl _)]

/-- Further conditions, each after the connective of the level. -/
theorem readMoreAt_flatMap {level below : Level} {w : String}
    (hconnective : ∀ rest, level.afterConnective? (.word w :: rest) = some rest)
    (hends : ∀ rest, Ends below (.word w :: rest)) (hbelow : below.height < level.height)
    {tss : List (List Lexeme)} {cs : List SearchCondition}
    (h : List.Forall₂ (ReadsCondition below) tss cs) (left : SearchCondition) {n : Nat}
    {rest : List Lexeme} (hrest : Ends level rest)
    (hn : 4 * (tss.flatMap (.word w :: ·)).length + 1 ≤ n) :
    readMoreAt n level below left (tss.flatMap (.word w :: ·) ++ rest)
      = some (cs.foldl level.join left, rest) := by
  induction h generalizing left n with
  | nil =>
    obtain ⟨n, rfl⟩ : ∃ k, n = k + 1 := ⟨n - 1, by omega⟩
    exact readMoreAt_stop hrest left n
  | @cons ts c tss cs hts htss ih =>
    obtain ⟨n, rfl⟩ : ∃ k, n = k + 1 := ⟨n - 1, by omega⟩
    simp only [List.flatMap_cons, List.cons_append, List.length_cons, List.length_append] at hn ⊢
    have hheight : below.height ≤ 3 := by cases below <;> decide
    have hnext : Ends below (tss.flatMap (.word w :: ·) ++ rest) := by
      cases tss with
      | nil => exact hrest.mono (Nat.le_of_lt hbelow)
      | cons us tss => exact hends _
    rw [readMoreAt, hconnective, List.append_assoc]
    simp only
    rw [hts n _ hnext (by omega), Option.bind_some, ih (level.join left c) (by omega)]
    rfl

/-- Conditions joined by the connective of the level above. -/
theorem ReadsCondition.joined {level below : Level} {w : String}
    (hconnective : ∀ rest, level.afterConnective? (.word w :: rest) = some rest)
    (hends : ∀ rest, Ends below (.word w :: rest)) (hbelow : below.height + 1 = level.height)
    (hheight : 2 ≤ level.height)
    (hread : ∀ n ts, readConditionAt (n + 1) level ts
      = (readConditionAt n below ts).bind fun r => readMoreAt n level below r.1 r.2)
    {ts : List Lexeme} {c : SearchCondition} {tss : List (List Lexeme)} {cs : List SearchCondition}
    (hfirst : ReadsCondition below ts c) (h : List.Forall₂ (ReadsCondition below) tss cs) :
    ReadsCondition level (separatedBy (.word w) (ts :: tss)) (cs.foldl level.join c) := by
  intro n rest hrest hn
  rw [separatedBy_cons] at hn ⊢
  rw [List.length_append] at hn
  obtain ⟨n, rfl⟩ : ∃ k, n = k + 1 := ⟨n - 1, by omega⟩
  have hnext : Ends below (tss.flatMap (.word w :: ·) ++ rest) := by
    cases tss with
    | nil => exact hrest.mono (by omega)
    | cons us tss => exact hends _
  rw [hread, List.append_assoc, hfirst n _ hnext (by omega), Option.bind_some]
  exact readMoreAt_flatMap hconnective hends (by omega) h c hrest (by omega)

/-- Factors joined by AND. -/
theorem ReadsCondition.conjunction {ts : List Lexeme} {c : SearchCondition}
    {tss : List (List Lexeme)} {cs : List SearchCondition} (hfirst : ReadsCondition .factor ts c)
    (h : List.Forall₂ (ReadsCondition .factor) tss cs) :
    ReadsCondition .term (separatedBy (.word "and") (ts :: tss)) (cs.foldl .and c) :=
  ReadsCondition.joined (fun _ => rfl) ends_and rfl (by decide) (fun n ts => by rw [readConditionAt])
    hfirst h

/-- Terms joined by OR. -/
theorem ReadsCondition.disjunction {ts : List Lexeme} {c : SearchCondition}
    {tss : List (List Lexeme)} {cs : List SearchCondition} (hfirst : ReadsCondition .term ts c)
    (h : List.Forall₂ (ReadsCondition .term) tss cs) :
    ReadsCondition .whole (separatedBy (.word "or") (ts :: tss)) (cs.foldl .or c) :=
  ReadsCondition.joined (fun _ => rfl) ends_or rfl (by decide) (fun n ts => by rw [readConditionAt])
    hfirst h

theorem ReadsCondition.term {ts : List Lexeme} {c : SearchCondition}
    (h : ReadsCondition .factor ts c) : ReadsCondition .term ts c :=
  ReadsCondition.conjunction h .nil

theorem ReadsCondition.whole {ts : List Lexeme} {c : SearchCondition}
    (h : ReadsCondition .term ts c) : ReadsCondition .whole ts c :=
  ReadsCondition.disjunction h .nil

/-! ### Primaries -/

/-- A condition in parentheses. -/
theorem ReadsCondition.group {ts : List Lexeme} {c : SearchCondition}
    (h : ReadsCondition .whole ts c) :
    ReadsCondition .primary (.leftParen :: (ts ++ [.rightParen])) c := by
  intro n rest _ hn
  simp only [List.length_cons, List.length_append, Level.height] at hn
  obtain ⟨n, rfl⟩ : ∃ k, n = k + 1 := ⟨n - 1, by omega⟩
  have hinner := h n (.rightParen :: rest) (ends_rightParen _ _) (by simp only [Level.height]; omega)
  rw [List.cons_append, List.append_assoc, List.singleton_append, readConditionAt, afterParen?,
    Option.bind_some, hinner]
  rfl

theorem Reads.readSum_eq {ts rest : List Lexeme} {t : Term} (h : Reads .sum ts t)
    (hrest : Stops .sum rest) : readSum (ts ++ rest) = some (t, rest) :=
  h _ rest hrest (by simp only [List.length_append, Rank.height]; omega)

/-- A value and what is said of it, which does not go on with the value. -/
theorem ReadsCondition.predicate {ts tail : List Lexeme} {t : Term} {p : Predicate}
    (ht : Reads .sum ts t) (hhead : afterParen? ts = none)
    (hstops : ∀ rest, Stops .sum (tail ++ rest))
    (htail : ∀ rest, Stops .sum rest → readComparison t (tail ++ rest) = some (p, rest)) :
    ReadsCondition .primary (ts ++ tail) (.predicate p) := by
  intro n rest hrest hn
  obtain ⟨l, ts', rfl, -⟩ := ht.start
  obtain ⟨n, rfl⟩ : ∃ k, n = k + 1 := ⟨n - 1, by simp at hn; omega⟩
  have hparen : afterParen? (l :: ts' ++ (tail ++ rest)) = none := by
    cases l <;> simp_all [afterParen?]
  rw [List.append_assoc, readConditionAt, hparen, readPredicate, ht.readSum_eq (hstops rest),
    Option.bind_some, htail rest hrest.stops]
  rfl

/-- Two values with a sign of comparison between them. -/
theorem ReadsCondition.compare {ls rs : List Lexeme} {l r : Term} {sign : String}
    (hl : Reads .sum ls l) (hhead : afterParen? ls = none) (hsign : sign ∈ comparisonSigns)
    (hr : Reads .sum rs r) :
    ReadsCondition .primary (ls ++ .operator sign :: rs) (.predicate (.compare sign l r)) := by
  have hrank : ∀ below : Rank, below.operator? sign = none := by
    intro below
    simp only [comparisonSigns, List.mem_cons, List.not_mem_nil, or_false] at hsign
    rcases hsign with rfl | rfl | rfl | rfl | rfl | rfl | rfl <;> cases below <;> rfl
  refine ReadsCondition.predicate hl hhead (fun rest => stops_operator fun below _ => hrank below) ?_
  intro rest hrest
  rw [List.cons_append, readComparison]
  simp only [if_pos hsign, hr.readSum_eq hrest]
  rfl

/-- A value that is null, or not. -/
theorem ReadsCondition.isNull {ts : List Lexeme} {t : Term} (negated : Bool) (ht : Reads .sum ts t)
    (hhead : afterParen? ts = none) :
    ReadsCondition .primary
      (ts ++ .word "is" :: ((if negated then [.word "not"] else []) ++ [.word "null"]))
      (.predicate (.isNull negated t)) := by
  refine ReadsCondition.predicate ht hhead (fun rest => stops_word _ _ _) fun rest _ => ?_
  cases negated <;> rfl

/-- A value that matches a pattern. -/
theorem ReadsCondition.like {ts ps : List Lexeme} {t p : Term} (ht : Reads .sum ts t)
    (hhead : afterParen? ts = none) (hp : Reads .sum ps p) :
    ReadsCondition .primary (ts ++ .word "like" :: ps) (.predicate (.like false t p)) := by
  refine ReadsCondition.predicate ht hhead (fun rest => stops_word _ _ _) fun rest hrest => ?_
  show (readSum (ps ++ rest)).map _ = _
  rw [hp.readSum_eq hrest]
  rfl

/-- A value among others, or not. -/
theorem ReadsCondition.member {ts : List Lexeme} {t : Term} (negated : Bool)
    {tss : List (List Lexeme)} {args : List Term} (ht : Reads .sum ts t)
    (hhead : afterParen? ts = none) (hargs : List.Forall₂ (Reads .sum) tss args) (hne : tss ≠ []) :
    ReadsCondition .primary
      (ts ++ ((if negated then [.word "not"] else []) ++ .word "in" :: .leftParen ::
        (separatedBy .comma tss ++ [.rightParen])))
      (.predicate (.member negated t args)) := by
  have hread : ∀ rest, readMatch negated t (.word "in" :: .leftParen ::
      (separatedBy .comma tss ++ [.rightParen]) ++ rest) = some (.member negated t args, rest) := by
    intro rest
    have hlist := readArguments_separated hargs hne rest
      (n := 4 * (separatedBy .comma tss ++ .rightParen :: rest).length + 4)
      (by simp only [List.length_append]; omega)
    simp only [readMatch, afterWord?, afterParen?, List.cons_append, List.append_assoc,
      List.nil_append, if_true, Option.bind_some]
    rw [hlist]
    rfl
  refine ReadsCondition.predicate ht hhead (fun rest => ?_) fun rest _ => ?_
  · cases negated <;> exact stops_word _ _ _
  · cases negated <;> exact hread rest

end MetricLayer.Sql
