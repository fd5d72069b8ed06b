import MetricLayer.Proofs.Expr.Grammar
import MetricLayer.Proofs.Expr.Tokens

/-!
# What a text can spell

Not every expression is spelled by a text: `Expr.Written` are those whose numerals are numerals,
whose scalar functions exist and whose star stands in `COUNT(*)`.  Whatever `Expr.parse` returns is
one of them (`parse_written`).
-/

namespace MetricLayer

open MetricLayer.Parser MetricLayer.Text

namespace Expr

/-- A text can spell the expression. -/
inductive Written : Expr → Prop
  | number {text : String} (h : Lexer.IsNumeralText text.toList) : Written (.number text)
  | string (value : String) : Written (.string value)
  | field (name : String) : Written (.field name)
  | negate {operand : Expr} (h : Written operand) : Written (.negate operand)
  | binary {op : Operator} {left right : Expr} (hl : Written left) (hr : Written right) :
      Written (.binary op left right)
  | countStar : Written (.aggregate .count .star false)
  | aggregate {func : Aggregate} {argument : Expr} {distinct : Bool} (h : Written argument) :
      Written (.aggregate func argument distinct)
  | call {name : String} {args : List Expr} (hname : name.toUpper ∈ scalarFunctions)
      (hargs : ∀ e ∈ args, Written e) : Written (.call name args)
  | timeCall {func : TimeFunction} {args : List Expr} {argsText : String}
      (hargs : ∀ e ∈ args, Written e) : Written (.timeCall func args argsText)

end Expr

/-- Every expression of a phrase can be spelled. -/
def Phrase.Written : Phrase → Prop
  | .sum e | .product e | .signed e | .primary e => e.Written
  | .arguments es => ∀ e ∈ es, e.Written

/-- The field that a plain argument names is a field. -/
theorem fieldOf_written (source : List Char) (stop : Nat) (ts : List Token) :
    (fieldOf source stop ts).Written := by
  cases ts with
  | nil => exact .field _
  | cons t ts =>
    rw [fieldOf]
    split
    · exact .field _
    · exact .field _

theorem toUpper_text (t : Token) : t.text.toUpper = t.upper := by
  rw [toUpper_eq, Token.text, String.toList_ofList]
  rfl

/-- Derived expressions can be spelled, by induction on the derivation. -/
theorem derives_written {source : List Char} {phrase : Phrase} {ts : List Token}
    (h : Derives source phrase ts) (hts : ∀ t ∈ ts, Lexer.Spelled t.kind t.chars) :
    phrase.Written := by
  induction h with
  | sum _ ih | product _ ih | signed _ ih => exact ih hts
  | addition _ _ _ ihl ihr | multiplication _ _ _ ihl ihr =>
    exact .binary (ihl fun t ht => hts t (by simp [ht])) (ihr fun t ht => hts t (by simp [ht]))
  | minus _ _ ih => exact .negate (ih fun t ht => hts t (by simp [ht]))
  | @number t ht =>
    have hspelled := hts t (by simp)
    rw [ht] at hspelled
    exact .number (by rwa [Token.text, String.toList_ofList])
  | string => exact .string _
  | quotedName | loneField | field => exact .field _
  | group _ _ _ ih => exact ih fun t ht => hts t (by simp [ht])
  | countStar => exact .countStar
  | plainAggregate => exact .aggregate (fieldOf_written _ _ _)
  | aggregate _ _ _ _ _ _ _ ih =>
    exact .aggregate (ih fun t ht => hts t (by simp [mem_of_mem_dropDistinct ht]))
  | scalar _ hfunc => exact .call (by rwa [toUpper_text]) (by simp)
  | scalarCall _ hfunc _ _ _ ih =>
    exact .call (by rwa [toUpper_text]) (ih fun t ht => hts t (by simp [ht]))
  | timeCall _ _ _ _ _ ih => exact .timeCall (ih fun t ht => hts t (by simp [ht]))
  | lastArgument _ ih =>
    have := ih hts
    intro e he
    obtain rfl := List.mem_singleton.1 he
    exact this
  | argument _ _ _ ihe ihs =>
    have hfirst := ihe fun t ht => hts t (by simp [ht])
    have hothers := ihs fun t ht => hts t (by simp [ht])
    intro e he
    rcases List.mem_cons.1 he with rfl | he
    · exact hfirst
    · exact hothers e he

/-- What `Expr.parse` returns can be spelled. -/
theorem Expr.parse_written {text : String} {e : Expr} (h : Expr.parse text = .ok e) :
    e.Written := by
  obtain ⟨ts, hts, hsum⟩ := parse_sound h
  exact derives_written hsum (Lexer.tokensFrom_spelled hts)

end MetricLayer
