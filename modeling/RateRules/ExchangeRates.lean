import RateRules.Keyed
import RateRules.Number.Given
import RateRules.Requirement
import RateRules.Substitution
import RateRules.Text.Small

/-! # Tables of exchange rates

A table has one rate for an exchange and a pair, in the order in which they came. The case of an
exchange name does not count. -/
namespace RateRules

structure ExchangeRates where
  rates : Keyed Requirement Decimal

namespace ExchangeRates

def empty : ExchangeRates := ⟨.empty⟩

/-- The rate as the table knows it, with the exchange in small letters. -/
def key (r : Requirement) : Requirement := ⟨Text.small r.exchange, r.pair⟩

def add (table : ExchangeRates) (r : Requirement) (d : Decimal) : ExchangeRates :=
  ⟨table.rates.set (key r) d⟩

/-- Adds a rate as it is given. -/
def addGiven (table : ExchangeRates) (r : Requirement) (given : Given) :
    Except NotDecimal ExchangeRates := do
  return table.add r (← given.toDecimal)

def find? (table : ExchangeRates) (r : Requirement) : Option Decimal := table.rates.find? (key r)

def contains (table : ExchangeRates) (r : Requirement) : Bool := (table.find? r).isSome

def requirements (table : ExchangeRates) : List Requirement := table.rates.keys

def size (table : ExchangeRates) : Nat := table.rates.size

/-- The table as a source of rates. -/
def source (table : ExchangeRates) : RateSource := fun venue p =>
  (table.find? ⟨venue, p⟩).map .decimal

end ExchangeRates
end RateRules
