import RateRules.Expr.Render
import RateRules.Fault
import RateRules.Number.Given
import RateRules.Requirement

/-! # Substituting rates

Every call outside other calls is replaced by the rate that a source gives for its exchange and
its first argument. A rate that is missing or not finite is a fault and leaves a marker; markers
that are already there stay and are a fault, too. -/
namespace RateRules

/-- Where rates come from. A source that fails gives nothing at all. -/
abbrev RateSource := String → Pair → Option Given

/-- The rate that a source gives, if it can be used. -/
def RateSource.rate? (source : RateSource) (venue : String) (p : Pair) : Option Decimal :=
  match (source venue p).map Given.toDecimal with
  | some (.ok d) => if d.isFinite then some d else none
  | _ => none

/-- The faults found so far and the rates that were asked for, each in order. -/
structure Asked where
  faults : List Fault
  lookups : List Requirement
  deriving DecidableEq

namespace Asked

def empty : Asked := ⟨[], []⟩

def fail (asked : Asked) (fault : Fault) : Asked := ⟨asked.faults ++ [fault], asked.lookups⟩

def look (asked : Asked) (r : Requirement) : Asked := ⟨asked.faults, asked.lookups ++ [r]⟩

end Asked

namespace Expr

def substituteCall (source : RateSource) (callee : Expr) (args : List Expr) (asked : Asked) :
    Expr × Asked :=
  let venue := callee.render
  if isMarkerName venue then (call callee args, asked.fail .preprocessError)
  else match args with
    | pair p :: _ =>
      let asked := asked.look ⟨venue, p⟩
      match source.rate? venue p with
      | some d => (number d, asked)
      | none => (marker "RATE_UNAVAILABLE" [exchange venue, pair p], asked.fail .rateUnavailable)
    | _ =>
      (marker "INVALID_CURRENCY_PAIR" [call callee args], asked.fail .invalidCurrencyIdentifier)

def substitute (source : RateSource) : Expr → Asked → Expr × Asked
  | call callee args, asked => substituteCall source callee args asked
  | unary op operand, asked =>
    let (operand, asked) := operand.substitute source asked
    (unary op operand, asked)
  | binary op left right, asked =>
    let (left, asked) := left.substitute source asked
    let (right, asked) := right.substitute source asked
    (binary op left right, asked)
  | parenthesized inner, asked =>
    let (inner, asked) := inner.substitute source asked
    (parenthesized inner, asked)
  | number value, asked => (number value, asked)
  | name word, asked => (name word, asked)
  | pair p, asked => (pair p, asked)
  | exchange venue, asked => (exchange venue, asked)

end Expr
end RateRules
