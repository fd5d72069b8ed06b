/-!
# Searching and replacing in text

Occurrences are found from left to right and do not overlap.
-/

namespace MetricLayer.Text

/-- Every occurrence of a character replaced by a list of characters. -/
def replaceChar (old : Char) (new : List Char) (cs : List Char) : List Char :=
  cs.flatMap fun c => if c = old then new else [c]

/-- Every pair of the character `q` reduced to one; a lone `q` stays. -/
def undouble (q : Char) : List Char → List Char
  | [] => []
  | [c] => [c]
  | c :: d :: rest => if c = q ∧ d = q then q :: undouble q rest else c :: undouble q (d :: rest)

/-- Every `q` written twice. -/
def double (q : Char) (cs : List Char) : List Char := replaceChar q [q, q] cs

/-- The pattern occurs somewhere in the text. -/
def occurs (pattern : List Char) : List Char → Bool
  | [] => pattern.isEmpty
  | c :: cs => pattern.isPrefixOf (c :: cs) || occurs pattern cs

/-- The characters before the first `q` and those after it, if there is one. -/
def splitAtFirst? (q : Char) : List Char → Option (List Char × List Char)
  | [] => none
  | c :: cs =>
    if c = q then some ([], cs) else (splitAtFirst? q cs).map fun r => (c :: r.1, r.2)

/-- The characters from position `start` up to position `stop`. -/
def slice (cs : List Char) (start stop : Nat) : List Char := (cs.take stop).drop start

/-- Texts joined with a separator between them. -/
def joined (separator : String) : List String → String
  | [] => ""
  | [s] => s
  | s :: rest => s ++ separator ++ joined separator rest

/-- The elements of a list without those that occurred before. -/
def firstOccurrences {α : Type} [DecidableEq α] : List α → List α
  | [] => []
  | x :: xs => x :: (firstOccurrences xs).filter (· ≠ x)

end MetricLayer.Text
