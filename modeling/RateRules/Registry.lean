import RateRules.Provider
import RateRules.Timeout

/-! # Registry of providers

A registry has one provider for an exchange; the case of the name does not count. It fetches many
rates at once. A rate that cannot be fetched gives an error and leaves the others as they are. A
provider that never answers uses up the timeout, and then everything that has no rate yet is an
error; only a rate that is no number stops the whole fetch. -/
namespace RateRules

structure FetchError where
  exchange : String
  pair : Pair
  message : String
  deriving DecidableEq

namespace FetchError

def requirement (e : FetchError) : Requirement := ⟨e.exchange, e.pair⟩

def of (r : Requirement) (message : String) : FetchError := ⟨r.exchange, r.pair, message⟩

def unsupported (r : Requirement) : FetchError :=
  of r ("Exchange '" ++ r.exchange ++ "' is not supported")

def unlisted (r : Requirement) : FetchError := of r ("Rate for " ++ r.pair.text ++ " not available")

def timedOut (timeout : Timeout) (r : Requirement) : FetchError :=
  of r ("Timed out after " ++ timeout.text ++ "s")

end FetchError

structure Fetched where
  rates : ExchangeRates
  errors : List FetchError

namespace Fetched

def nothing : Fetched := ⟨.empty, []⟩

/-- The errors for some requirements. -/
def errorsFor (fetched : Fetched) (rs : List Requirement) : List FetchError :=
  fetched.errors.filter fun e => e.requirement ∈ rs

end Fetched

/-- The error that an answer gives, unless it is a rate or silence. -/
def Answer.error? (r : Requirement) : Answer → Option FetchError
  | .unlisted => some (.unlisted r)
  | .failed kind text => some (.of r (failureMessage kind text))
  | _ => none

/-- Adds the rates among some answers to a table. -/
def ExchangeRates.addAnswers (table : ExchangeRates) :
    List (Requirement × Answer) → Except NotDecimal ExchangeRates
  | [] => .ok table
  | (r, .rate given) :: more => do
    let table ← table.addGiven r given
    table.addAnswers more
  | _ :: more => table.addAnswers more

structure Registry (α : Type) where
  providers : Keyed String α

namespace Registry

variable {α : Type}

def empty : Registry α := ⟨.empty⟩

def register (registry : Registry α) (name : String) (provider : α) : Registry α :=
  ⟨registry.providers.set (Text.small name) provider⟩

def unregister (registry : Registry α) (name : String) : Registry α :=
  ⟨registry.providers.erase (Text.small name)⟩

def find? (registry : Registry α) (name : String) : Option α :=
  registry.providers.find? (Text.small name)

/-- The requirements that have a provider, each once, with the provider. -/
def supported (registry : Registry α) (rs : List Requirement) : List (Requirement × α) :=
  rs.eraseDups.filterMap fun r => (registry.find? r.exchange).map (r, ·)

def unsupported (registry : Registry α) (rs : List Requirement) : List Requirement :=
  rs.eraseDups.filter fun r => (registry.find? r.exchange).isNone

/-- What is asked of which provider within a timeout. -/
def asked (registry : Registry α) (timeout : Timeout) (rs : List Requirement) :
    List (Requirement × α) :=
  if timeout.isOver then [] else registry.supported rs

/-- Fetches the rates of some requirements from providers that `ask` gets the answers of. -/
def fetch (registry : Registry α) (ask : α → Pair → Answer) (timeout : Timeout)
    (rs : List Requirement) :
    Except NotDecimal Fetched := do
  let pending := registry.supported rs
  let answers := (registry.asked timeout rs).map fun (r, p) => (r, ask p r.pair)
  let rates ← ExchangeRates.empty.addAnswers answers
  let late := timeout.isOver || answers.any fun (_, a) => a == .silent
  let errors :=
    if late then (pending.filter fun (r, _) => !rates.contains r).map fun (r, _) =>
      .timedOut timeout r
    else answers.filterMap fun (r, a) => a.error? r
  return ⟨rates, (registry.unsupported rs).map .unsupported ++ errors⟩

end Registry
end RateRules
