import MetricLayer.Check.Issue

/-!
# Checked values

The outcome of checking incoming data: a value, or every issue found.  Checks that do not depend on
each other are combined as an applicative functor, which collects the issues of all of them in
order.
-/

namespace MetricLayer

/-- A value that passed its checks, or all the issues that were found. -/
inductive Checked (α : Type) where
  /-- The checks passed. -/
  | valid (value : α)
  /-- These issues were found. -/
  | invalid (issues : List Issue)
  deriving Repr

namespace Checked

variable {α β : Type}

/-- Applies a function to a valid value. -/
def map (f : α → β) : Checked α → Checked β
  | valid a => valid (f a)
  | invalid issues => invalid issues

/-- Combines two independent checks. -/
def both (f : Checked (α → β)) (a : Checked α) : Checked β :=
  match f, a with
  | valid f, valid a => valid (f a)
  | valid _, invalid issues => invalid issues
  | invalid issues, valid _ => invalid issues
  | invalid first, invalid second => invalid (first ++ second)

instance : Functor Checked := ⟨map, fun a c => map (fun _ => a) c⟩

instance : Applicative Checked where
  pure := valid
  seq f a := both f (a ())

/-- Goes on with a check that needs the value of the first one. -/
def andThen (c : Checked α) (next : α → Checked β) : Checked β :=
  match c with
  | valid a => next a
  | invalid issues => invalid issues

/-- A single issue at the place itself. -/
def issue (kind : IssueKind) : Checked α := invalid [⟨[], kind⟩]

/-- The outcome seen from one level further out. -/
def under (step : PathStep) : Checked α → Checked α
  | valid a => valid a
  | invalid issues => invalid (issues.map (Issue.under step))

end Checked

end MetricLayer
