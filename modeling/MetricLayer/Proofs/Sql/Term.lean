import MetricLayer.Expr.Basic
import MetricLayer.Proofs.Sql.Lexing

/-!
# Reading value expressions

`Term` is the value of a SQL expression as the database reads it: a unary minus binds tighter than
`* / %`, these bind tighter than `+ -`, and operators of one rank group to the left.

* `readAt` reads a term of a given rank from a list of lexemes and returns what is left; `readTerm`
  reads a whole list.
* `Reads rank ts t` says that the lexemes `ts` are read as the term `t` whatever stands after them,
  as long as it does not go on with the term.
* `Spells rank cs t` says the same of a text.
-/

namespace MetricLayer.Sql

/-- A value expression of SQL. -/
inductive Term where
  /-- A numeral as it is written. -/
  | number (text : String)
  /-- A string. -/
  | text (value : String)
  /-- A column by its quoted name. -/
  | column (name : String)
  /-- A word that stands for a value, such as TRUE or CURRENT_DATE. -/
  | constant (word : String)
  /-- A length of time. -/
  | interval (length : String)
  /-- The star of `COUNT(*)`. -/
  | star
  /-- A leading minus. -/
  | negate (operand : Term)
  /-- An arithmetic operator between two operands. -/
  | binary (op : Operator) (left right : Term)
  /-- A call of a function, possibly over distinct values. -/
  | call (function : String) (distinct : Bool) (args : List Term)
  /-- A part of a date. -/
  | extract (part : String) (source : Term)
  deriving Repr, Inhabited

/-- The words with a place of their own in the grammar; they name no value and no function. -/
def keywords : List String :=
  ["all", "and", "any", "as", "asc", "between", "by", "case", "cross", "desc", "distinct", "except",
    "exists", "from", "group", "having", "in", "inner", "intersect", "is", "join", "left", "like",
    "limit", "not", "offset", "on", "or", "order", "over", "right", "rows", "select", "some",
    "union", "using", "where", "window"]

/-- The ranks of the grammar, from the tightest to the loosest. -/
inductive Rank where
  | primary | signed | product | sum
  deriving DecidableEq, Repr

namespace Rank

/-- The number of ranks below. -/
def height : Rank → Nat
  | primary => 0
  | signed => 1
  | product => 2
  | sum => 3

/-- The operator of a rank with a sign. -/
def operator? : Rank → String → Option Operator
  | product, s => [.mul, .div, .mod].find? (·.sign = s)
  | sum, s => [.add, .sub].find? (·.sign = s)
  | _, _ => none

end Rank

/-- What is read of a list of lexemes, and what is left. -/
abbrev Reading (α : Type) := Option (α × List Lexeme)

/-- The value, if a closing parenthesis follows it. -/
def closed {α : Type} : α × List Lexeme → Reading α
  | (a, .rightParen :: rest) => some (a, rest)
  | _ => none

/-- The operator of a rank at the head, and what follows it. -/
def nextOperator? (rank : Rank) : List Lexeme → Reading Operator
  | .operator s :: rest => (rank.operator? s).map (·, rest)
  | _ => none

/-- What follows a leading minus. -/
def afterMinus? : List Lexeme → Option (List Lexeme)
  | .operator s :: rest => if s = "-" then some rest else none
  | _ => none

/-- A word that is no call. -/
def readWord (w : String) (ts : List Lexeme) : Reading Term :=
  if w = "interval" then
    match ts with
    | .text s :: rest => some (.interval s, rest)
    | _ => none
  else some (.constant w, ts)

/-- A part of a date, after the parenthesis that follows EXTRACT. -/
def readExtract (sum : List Lexeme → Reading Term) : List Lexeme → Reading Term
  | .word part :: .word w :: rest =>
    if w = "from" then ((sum rest).bind closed).map fun r => (.extract part r.1, r.2) else none
  | _ => none

/-- The arguments of a function, after the parenthesis that opens them. -/
def readApplied (arguments : List Lexeme → Reading (List Term)) (function : String) :
    List Lexeme → Reading Term
  | [] => none
  | l :: rest =>
    if l = .rightParen then some (.call function false [], rest)
    else if l = .operator "*" then closed (.call function false [.star], rest)
    else if l = .word "distinct" then
      (arguments rest).map fun r => (.call function true r.1, r.2)
    else (arguments (l :: rest)).map fun r => (.call function false r.1, r.2)

/-- The call of a function, after its opening parenthesis. -/
def readCall (sum : List Lexeme → Reading Term) (arguments : List Lexeme → Reading (List Term))
    (function : String) (ts : List Lexeme) : Reading Term :=
  if function = "extract" then readExtract sum ts else readApplied arguments function ts

/-- A term that no operator stands before. -/
def readPrimary (sum : List Lexeme → Reading Term) (arguments : List Lexeme → Reading (List Term)) :
    List Lexeme → Reading Term
  | .number s :: rest => some (.number s, rest)
  | .text s :: rest => some (.text s, rest)
  | .name s :: rest => some (.column s, rest)
  | .leftParen :: rest => (sum rest).bind closed
  | .word w :: rest =>
    if w ∈ keywords then none
    else
      match rest with
      | .leftParen :: inner => readCall sum arguments w inner
      | _ => readWord w rest
  | _ => none

mutual

/-- A term of a rank, with `fuel` nested steps at most. -/
def readAt (fuel : Nat) (rank : Rank) (ts : List Lexeme) : Reading Term :=
  match fuel with
  | 0 => none
  | fuel + 1 =>
    match rank with
    | .primary => readPrimary (readAt fuel .sum) (readArguments fuel) ts
    | .signed =>
      match afterMinus? ts with
      | some rest => (readAt fuel .signed rest).map fun r => (.negate r.1, r.2)
      | none => readAt fuel .primary ts
    | .product => (readAt fuel .signed ts).bind fun r => readMore fuel .product .signed r.1 r.2
    | .sum => (readAt fuel .product ts).bind fun r => readMore fuel .sum .product r.1 r.2

/-- The further operands of a rank after `left`. -/
def readMore (fuel : Nat) (rank below : Rank) (left : Term) (ts : List Lexeme) : Reading Term :=
  match fuel with
  | 0 => none
  | fuel + 1 =>
    match nextOperator? rank ts with
    | none => some (left, ts)
    | some (op, rest) =>
      (readAt fuel below rest).bind fun r => readMore fuel rank below (.binary op left r.1) r.2

/-- Terms between commas up to the closing parenthesis. -/
def readArguments (fuel : Nat) (ts : List Lexeme) : Reading (List Term) :=
  match fuel with
  | 0 => none
  | fuel + 1 =>
    (readAt fuel .sum ts).bind fun r =>
      match r.2 with
      | .comma :: rest => (readArguments fuel rest).map fun more => (r.1 :: more.1, more.2)
      | _ => closed ([r.1], r.2)

end

/-- The term that a list of lexemes spells. -/
def readTerm (ts : List Lexeme) : Option Term :=
  match readAt (4 * ts.length + 3) .sum ts with
  | some (t, []) => some t
  | _ => none

/-! ## Lexemes that are read as a term -/

/-- What follows does not go on with a term of the rank. -/
structure Stops (rank : Rank) (rest : List Lexeme) : Prop where
  /-- No word becomes a call. -/
  no_call : rest.head? ≠ some .leftParen
  /-- No operator of the rank or of one below follows. -/
  no_operator : ∀ below : Rank, below.height ≤ rank.height → nextOperator? below rest = none

theorem Stops.mono {rank below : Rank} {rest : List Lexeme} (h : Stops rank rest)
    (hle : below.height ≤ rank.height) : Stops below rest :=
  ⟨h.no_call, fun r hr => h.no_operator r (Nat.le_trans hr hle)⟩

theorem stops_nil (rank : Rank) : Stops rank [] := ⟨by simp, fun _ _ => rfl⟩

theorem stops_rightParen (rank : Rank) (rest : List Lexeme) : Stops rank (.rightParen :: rest) :=
  ⟨by simp, fun _ _ => rfl⟩

theorem stops_comma (rank : Rank) (rest : List Lexeme) : Stops rank (.comma :: rest) :=
  ⟨by simp, fun _ _ => rfl⟩

theorem stops_word (rank : Rank) (w : String) (rest : List Lexeme) :
    Stops rank (.word w :: rest) :=
  ⟨by simp, fun _ _ => rfl⟩

/-- An operator of a looser rank stops a term. -/
theorem stops_operator {rank : Rank} {s : String} {rest : List Lexeme}
    (h : ∀ below : Rank, below.height ≤ rank.height → below.operator? s = none) :
    Stops rank (.operator s :: rest) :=
  ⟨by simp, fun below hb => by simp [nextOperator?, h below hb]⟩

/-- The lexemes are read as the term before anything that does not go on with it. -/
def Reads (rank : Rank) (ts : List Lexeme) (t : Term) : Prop :=
  ∀ n rest, Stops rank rest → 4 * ts.length + rank.height ≤ n →
    readAt n rank (ts ++ rest) = some (t, rest)

theorem Reads.readTerm_eq {ts : List Lexeme} {t : Term} (h : Reads .sum ts t) :
    readTerm ts = some t := by
  have := h (4 * ts.length + 3) [] (stops_nil _) (Nat.le_refl _)
  rw [List.append_nil] at this
  rw [readTerm, this]

/-- A primary starts with a lexeme that is no operator. -/
theorem Reads.head {ts : List Lexeme} {t : Term} (h : Reads .primary ts t) :
    ∃ l ts', ts = l :: ts' ∧ ∀ s, l ≠ .operator s := by
  have hread := h (4 * ts.length + 1) [] (stops_nil _) (by simp [Rank.height])
  rw [List.append_nil, readAt] at hread
  cases ts with
  | nil => simp [readPrimary] at hread
  | cons l ts' =>
    refine ⟨l, ts', rfl, ?_⟩
    rintro s rfl
    simp [readPrimary] at hread

theorem Reads.signed {ts : List Lexeme} {t : Term} (h : Reads .primary ts t) :
    Reads .signed ts t := by
  intro n rest hrest hn
  obtain ⟨l, ts', rfl, hl⟩ := h.head
  obtain ⟨n, rfl⟩ : ∃ k, n = k + 1 := ⟨n - 1, by simp [Rank.height] at hn; omega⟩
  have hminus : afterMinus? (l :: ts' ++ rest) = none := by
    cases l <;> simp_all [afterMinus?]
  rw [readAt, hminus]
  exact h n rest (hrest.mono (by decide)) (by simp [Rank.height] at hn ⊢; omega)

theorem readMore_stop {rank below : Rank} {rest : List Lexeme} (h : Stops rank rest) (t : Term)
    (n : Nat) : readMore (n + 1) rank below t rest = some (t, rest) := by
  rw [readMore, h.no_operator rank (Nat.le_refl _)]

theorem Reads.product {ts : List Lexeme} {t : Term} (h : Reads .signed ts t) :
    Reads .product ts t := by
  intro n rest hrest hn
  obtain ⟨n, rfl⟩ : ∃ k, n = k + 2 := ⟨n - 2, by simp [Rank.height] at hn; omega⟩
  rw [readAt, h (n + 1) rest (hrest.mono (by decide)) (by simp [Rank.height] at hn ⊢; omega)]
  exact readMore_stop hrest t n

theorem Reads.sum {ts : List Lexeme} {t : Term} (h : Reads .product ts t) :
    Reads .sum ts t := by
  intro n rest hrest hn
  obtain ⟨n, rfl⟩ : ∃ k, n = k + 2 := ⟨n - 2, by simp [Rank.height] at hn; omega⟩
  rw [readAt, h (n + 1) rest (hrest.mono (by decide)) (by simp [Rank.height] at hn ⊢; omega)]
  exact readMore_stop hrest t n

/-! ### Primaries -/

/-- A single lexeme that is a term. -/
theorem Reads.single {l : Lexeme} {t : Term}
    (h : ∀ n rest, rest.head? ≠ some .leftParen → readAt (n + 1) .primary (l :: rest) = some (t, rest)) :
    Reads .primary [l] t := by
  intro n rest hrest hn
  obtain ⟨n, rfl⟩ : ∃ k, n = k + 1 := ⟨n - 1, by simp at hn; omega⟩
  exact h n rest hrest.no_call

theorem Reads.number (s : String) : Reads .primary [.number s] (.number s) :=
  Reads.single fun n rest _ => by rw [readAt]; rfl

theorem Reads.text (s : String) : Reads .primary [.text s] (.text s) :=
  Reads.single fun n rest _ => by rw [readAt]; rfl

theorem Reads.column (s : String) : Reads .primary [.name s] (.column s) :=
  Reads.single fun n rest _ => by rw [readAt]; rfl

theorem Reads.constant {w : String} (hw : w ∉ keywords) (hi : w ≠ "interval") :
    Reads .primary [.word w] (.constant w) :=
  Reads.single fun n rest hrest => by
    rw [readAt]
    simp only [readPrimary, if_neg hw]
    cases rest with
    | nil => simp [readWord, hi]
    | cons l rest => cases l <;> simp_all [readWord]

/-- A term in parentheses. -/
theorem Reads.group {ts : List Lexeme} {t : Term} (h : Reads .sum ts t) :
    Reads .primary (.leftParen :: (ts ++ [.rightParen])) t := by
  intro n rest hrest hn
  obtain ⟨n, rfl⟩ : ∃ k, n = k + 1 := ⟨n - 1, by simp at hn; omega⟩
  have hinner := h n (.rightParen :: rest) (stops_rightParen _ _)
    (by simp [Rank.height] at hn ⊢; omega)
  rw [List.cons_append, List.append_assoc, List.singleton_append, readAt, readPrimary, hinner]
  rfl

/-- A term after a minus. -/
theorem Reads.negate {ts : List Lexeme} {t : Term} (h : Reads .signed ts t) :
    Reads .signed (.operator "-" :: ts) (.negate t) := by
  intro n rest hrest hn
  obtain ⟨n, rfl⟩ : ∃ k, n = k + 1 := ⟨n - 1, by simp at hn; omega⟩
  rw [List.cons_append, readAt]
  simp only [afterMinus?, if_true]
  rw [h n rest hrest (by simp [Rank.height] at hn ⊢; omega)]
  rfl

/-! ### Operators -/

/-- The rank of an operator. -/
def rankOf : Operator → Rank
  | .add | .sub => .sum
  | .mul | .div | .mod => .product

theorem operator?_sign (op : Operator) : (rankOf op).operator? op.sign = some op := by
  cases op <;> decide

/-- An operator of the sum stands between products, one of the product between signed terms. -/
theorem stops_sign (op : Operator) (rest : List Lexeme) :
    Stops (if rankOf op = .sum then .product else .signed) (.operator op.sign :: rest) := by
  refine stops_operator fun below => ?_
  cases op <;> cases below <;> decide

/-- Two signed terms with an operator between them. -/
theorem Reads.binary {op : Operator} {ls rs : List Lexeme} {l r : Term} (hl : Reads .signed ls l)
    (hr : Reads .signed rs r) :
    Reads (rankOf op) (ls ++ .operator op.sign :: rs) (.binary op l r) := by
  -- the operands are read at the rank just below that of the operator
  have key : ∀ rank below : Rank, rankOf op = rank → below.height + 1 = rank.height →
      (∀ rest, Stops below (.operator op.sign :: rest)) →
      (∀ n ts, readAt (n + 1) rank ts
        = (readAt n below ts).bind fun r => readMore n rank below r.1 r.2) →
      Reads below ls l → Reads below rs r →
      Reads rank (ls ++ .operator op.sign :: rs) (.binary op l r) := by
    intro rank below hrank hbelow hstops heq hl hr n rest hrest hn
    simp only [List.length_append, List.length_cons] at hn
    obtain ⟨n, rfl⟩ : ∃ k, n = k + 3 := ⟨n - 3, by omega⟩
    have hnext : nextOperator? rank (.operator op.sign :: (rs ++ rest)) = some (op, rs ++ rest) := by
      rw [nextOperator?, ← hrank, operator?_sign]
      rfl
    rw [List.append_assoc, List.cons_append, heq,
      hl (n + 2) (.operator op.sign :: (rs ++ rest)) (hstops _) (by omega), Option.bind_some,
      readMore, hnext]
    simp only
    rw [hr (n + 1) rest (hrest.mono (by omega)) (by omega)]
    exact readMore_stop hrest _ n
  cases h : rankOf op with
  | primary | signed => cases op <;> cases h
  | product =>
    refine key .product .signed h rfl (fun rest => ?_) (fun n ts => by rw [readAt]) hl hr
    simpa [h] using stops_sign op rest
  | sum =>
    refine key .sum .product h rfl (fun rest => ?_) (fun n ts => by rw [readAt]) hl.product
      hr.product
    simpa [h] using stops_sign op rest

theorem Reads.sum_of_rankOf {op : Operator} {ts : List Lexeme} {t : Term}
    (h : Reads (rankOf op) ts t) : Reads .sum ts t := by
  cases op with
  | add | sub => exact h
  | mul | div | mod => exact Reads.sum h

/-! ### Calls -/

/-- The lexeme can start a term. -/
def startsTerm : Lexeme → Bool
  | .number _ | .text _ | .name _ | .leftParen => true
  | .word w => w ∉ keywords
  | .operator s => s = "-"
  | _ => false

theorem readAt_start {n : Nat} {rank : Rank} {ts : List Lexeme} {r : Term × List Lexeme}
    (h : readAt n rank ts = some r) : ∃ l ts', ts = l :: ts' ∧ startsTerm l = true := by
  induction n generalizing rank r with
  | zero => simp [readAt] at h
  | succ n ih =>
    cases rank with
    | primary =>
      rw [readAt] at h
      cases ts with
      | nil => simp [readPrimary] at h
      | cons l ts' =>
        refine ⟨l, ts', rfl, ?_⟩
        cases l <;> simp_all [readPrimary, startsTerm]
    | signed =>
      rw [readAt] at h
      cases hminus : afterMinus? ts with
      | none =>
        rw [hminus] at h
        exact ih h
      | some rest =>
        cases ts with
        | nil => simp [afterMinus?] at hminus
        | cons l ts' =>
          refine ⟨l, ts', rfl, ?_⟩
          cases l <;> simp_all [afterMinus?, startsTerm]
    | product | sum =>
      rw [readAt] at h
      obtain ⟨r', hr', -⟩ := Option.bind_eq_some_iff.1 h
      exact ih hr'

theorem Reads.start {rank : Rank} {ts : List Lexeme} {t : Term} (h : Reads rank ts t) :
    ∃ l ts', ts = l :: ts' ∧ startsTerm l = true := by
  have := h (4 * ts.length + rank.height) [] (stops_nil _) (Nat.le_refl _)
  rw [List.append_nil] at this
  exact readAt_start this

/-- Lists of lexemes with a lexeme between them. -/
def separatedBy (l : Lexeme) : List (List Lexeme) → List Lexeme
  | [] => []
  | [ts] => ts
  | ts :: us :: rest => ts ++ l :: separatedBy l (us :: rest)

theorem separatedBy_cons (l : Lexeme) (ts : List Lexeme) (tss : List (List Lexeme)) :
    separatedBy l (ts :: tss) = ts ++ tss.flatMap (l :: ·) := by
  induction tss generalizing ts with
  | nil => simp [separatedBy]
  | cons us tss ih => rw [separatedBy, ih, List.flatMap_cons, List.cons_append]

theorem readArguments_separated {tss : List (List Lexeme)} {args : List Term}
    (h : List.Forall₂ (Reads .sum) tss args) (hne : tss ≠ []) {n : Nat} (rest : List Lexeme)
    (hn : 4 * (separatedBy .comma tss).length + 4 ≤ n) :
    readArguments n (separatedBy .comma tss ++ .rightParen :: rest) = some (args, rest) := by
  induction h generalizing n with
  | nil => exact absurd rfl hne
  | @cons ts t tss args hts htss ih =>
    obtain ⟨n, rfl⟩ : ∃ k, n = k + 1 := ⟨n - 1, by omega⟩
    cases htss with
    | nil =>
      rw [separatedBy, readArguments, hts n _ (stops_rightParen _ _)]
      · rfl
      · simp only [separatedBy] at hn
        simp only [Rank.height]
        omega
    | @cons us u tss args hus htss =>
      have hlen : 4 * ts.length + 4 * (separatedBy .comma (us :: tss)).length + 8 ≤ n + 1 := by
        simp only [separatedBy, List.length_append, List.length_cons] at hn ⊢
        omega
      rw [separatedBy, List.append_assoc, List.cons_append, readArguments,
        hts n _ (stops_comma _ _) (by simp only [Rank.height]; omega)]
      simp only [Option.bind_some]
      rw [ih (by simp) (by omega)]
      rfl

theorem readApplied_arguments {arguments : List Lexeme → Reading (List Term)} {f : String}
    {l : Lexeme} {ts : List Lexeme} (hl : startsTerm l = true) :
    readApplied arguments f (l :: ts)
      = (arguments (l :: ts)).map fun r => (.call f false r.1, r.2) := by
  have key : ∀ m : Lexeme, startsTerm m = false → l ≠ m := by
    rintro m hm rfl
    rw [hm] at hl
    cases hl
  rw [readApplied, if_neg (key _ (by decide)), if_neg (key _ (by decide)),
    if_neg (key _ (by decide))]

/-- The lexemes after the name of a function and its parenthesis. -/
theorem Reads.ofCall {f : String} {ts : List Lexeme} {t : Term} (hf : f ∉ keywords)
    (h : ∀ n rest, 4 * ts.length + 7 ≤ n →
      readCall (readAt n .sum) (readArguments n) f (ts ++ rest) = some (t, rest)) :
    Reads .primary (.word f :: .leftParen :: ts) t := by
  intro n rest _ hn
  simp only [List.length_cons, Rank.height] at hn
  obtain ⟨n, rfl⟩ : ∃ k, n = k + 1 := ⟨n - 1, by omega⟩
  rw [List.cons_append, List.cons_append, readAt]
  simp only [readPrimary, if_neg hf]
  exact h n rest (by omega)

/-- A call over any number of arguments. -/
theorem Reads.call {f : String} {tss : List (List Lexeme)} {args : List Term}
    (hf : f ∉ keywords) (hx : f ≠ "extract") (h : List.Forall₂ (Reads .sum) tss args) :
    Reads .primary (.word f :: .leftParen :: (separatedBy .comma tss ++ [.rightParen]))
      (.call f false args) := by
  refine Reads.ofCall hf fun n rest hn => ?_
  rw [List.append_assoc, List.singleton_append]
  rw [readCall, if_neg hx]
  cases h with
  | nil => rfl
  | @cons ts t tss args hts htss =>
    obtain ⟨l, ts', hl, hstart⟩ := hts.start
    obtain ⟨us, hus⟩ : ∃ us, separatedBy .comma (ts :: tss) = l :: us := by
      cases tss with
      | nil => exact ⟨ts', by rw [separatedBy, hl]⟩
      | cons us tss => exact ⟨_, by rw [separatedBy, hl, List.cons_append]⟩
    have hargs := readArguments_separated (List.Forall₂.cons hts htss) (by simp) rest
      (n := n) (by simp only [List.length_append, List.length_cons] at hn; omega)
    rw [hus, List.cons_append] at hargs ⊢
    rw [readApplied_arguments hstart, hargs]
    rfl

/-- A call over distinct values. -/
theorem Reads.callDistinct {f : String} {ts : List Lexeme} {t : Term} (hf : f ∉ keywords)
    (hx : f ≠ "extract") (h : Reads .sum ts t) :
    Reads .primary (.word f :: .leftParen :: .word "distinct" :: (ts ++ [.rightParen]))
      (.call f true [t]) := by
  refine Reads.ofCall hf fun n rest hn => ?_
  have hargs := readArguments_separated (List.Forall₂.cons h .nil) (by simp) rest
    (n := n) (by
      simp only [separatedBy, List.length_append, List.length_cons] at hn ⊢
      omega)
  rw [separatedBy] at hargs
  rw [List.cons_append, List.append_assoc, List.singleton_append, readCall, if_neg hx, readApplied,
    if_neg (by decide), if_neg (by decide), if_pos rfl, hargs]
  rfl

/-- A call over all rows. -/
theorem Reads.callStar {f : String} (hf : f ∉ keywords) (hx : f ≠ "extract") :
    Reads .primary [.word f, .leftParen, .operator "*", .rightParen]
      (.call f false [.star]) := by
  refine Reads.ofCall hf fun n rest _ => ?_
  rw [readCall, if_neg hx]
  rfl

/-- A part of a date. -/
theorem Reads.extract {part : String} {ts : List Lexeme} {t : Term} (h : Reads .sum ts t) :
    Reads .primary (.word "extract" :: .leftParen :: .word part :: .word "from" ::
      (ts ++ [.rightParen])) (.extract part t) := by
  refine Reads.ofCall (by decide) fun n rest hn => ?_
  simp only [List.length_cons, List.length_append] at hn
  have hinner := h n (.rightParen :: rest) (stops_rightParen _ _)
    (by simp only [Rank.height]; omega)
  simp only [List.cons_append, List.append_assoc, List.nil_append, readCall, if_true, readExtract]
  rw [hinner]
  rfl

/-- A length of time. -/
theorem Reads.interval (s : String) : Reads .primary [.word "interval", .text s] (.interval s) := by
  intro n rest _ hn
  obtain ⟨n, rfl⟩ : ∃ k, n = k + 1 := ⟨n - 1, by simp at hn; omega⟩
  rw [List.cons_append, readAt]
  rfl

end MetricLayer.Sql
