import RateRules.Registry
import RateRules.Rulebook

/-! # Pricing many pairs

The rules of all pairs are found first, then everything they require is fetched at once, and
only if they require anything; then every rule is evaluated with what was fetched. -/
namespace RateRules

/-- The outcome for one pair. -/
structure Price where
  pair : Pair
  value : Option Decimal
  faults : List Fault
  exchangeErrors : List FetchError
  rule : String
  evaluated : String

namespace Price

def hasError (p : Price) : Bool := !p.faults.isEmpty || !p.exchangeErrors.isEmpty

end Price

/-- A pattern has no price. -/
def Rulebook.PatternRefused.priceMessage (refused : Rulebook.PatternRefused) : String :=
  "Invalid currency pair '" ++ refused.pair.text ++ "'"

def RateRule.price (rule : RateRule) (fetched : Fetched) : Except Decimal.Trap Price := do
  let (evaluation, _) ← rule.evaluate fetched.rates.source
  return ⟨rule.pair, evaluation.value, evaluation.faults, fetched.errorsFor rule.requirements,
    rule.text,
    evaluation.evaluated⟩

/-- Everything that some rules require, each rate once. -/
def requirementsOf (rules : List RateRule) : List Requirement :=
  (rules.flatMap RateRule.requirements).eraseDups

namespace Rulebook

/-- The rules for some pairs, each pair once. -/
def rules (book : Rulebook) (pairs : List Pair) : Except PatternRefused (List RateRule) :=
  pairs.eraseDups.mapM book.rule

/-- What is fetched for some rules from a source of many rates. -/
def fetchFor {m : Type → Type} [Monad m] (rules : List RateRule)
    (source : List Requirement → m Fetched) : m Fetched :=
  if (requirementsOf rules).isEmpty then pure .nothing else source (requirementsOf rules)

/-- Why pairs are not priced. -/
inductive Unpriced (ε : Type) where
  | pattern (refused : PatternRefused)
  | source (e : ε)
  | trap (t : Decimal.Trap)

/-- The prices of some pairs, each pair once, in the order of the pairs. The source may take steps
of its own when it is asked. -/
def pricesWith {m : Type → Type} [Monad m] {ε : Type} (book : Rulebook)
    (source : List Requirement → ExceptT ε m Fetched) (pairs : List Pair) :
    ExceptT (Unpriced ε) m (List Price) := do
  let rules ← ExceptT.mk (pure ((book.rules pairs).mapError .pattern))
  let fetched ← (fetchFor rules source).adapt .source
  ExceptT.mk (pure ((rules.mapM fun (rule : RateRule) => rule.price fetched).mapError .trap))

/-- The prices of some pairs from a source that answers at once. -/
def prices {ε : Type} (book : Rulebook) (source : List Requirement → Except ε Fetched)
    (pairs : List Pair) : Except (Unpriced ε) (List Price) :=
  (book.pricesWith (m := Id) (fun rs => ExceptT.mk (source rs)) pairs).run

/-- The prices of some pairs from a source that is told how long it may take. -/
def pricesFrom {m : Type → Type} [Monad m] {ε : Type} (book : Rulebook)
    (source : List Requirement → Timeout → ExceptT ε m Fetched) (timeout : Timeout)
    (pairs : List Pair) : ExceptT (Unpriced ε) m (List Price) :=
  book.pricesWith (fun rs => source rs timeout) pairs

end Rulebook
end RateRules
