import RateRules.ExchangeRates

/-! # Providers of rates

A provider stands for one exchange. Asked for a pair it gives a rate, says that it does not list
the pair, fails, or never answers. A fixed provider answers from a table of its own. -/
namespace RateRules

inductive Answer where
  | rate (given : Given)
  | unlisted
  | failed (kind text : String)
  | silent
  deriving DecidableEq, Repr

/-- A failure is told by its text, or by its kind if it has none. -/
def failureMessage (kind text : String) : String := if text.isEmpty then kind else text

structure FixedProvider where
  exchange : String
  rates : Keyed Pair Decimal

namespace FixedProvider

def ofName (name : String) : FixedProvider := ⟨Text.small name, .empty⟩

def set (p : FixedProvider) (pair : Pair) (d : Decimal) : FixedProvider :=
  ⟨p.exchange, p.rates.set pair d⟩

def rate? (p : FixedProvider) (pair : Pair) : Option Decimal := p.rates.find? pair

def ask (p : FixedProvider) (pair : Pair) : Answer :=
  match p.rate? pair with
  | some d => .rate (.decimal d)
  | none => .unlisted

end FixedProvider
end RateRules
