import RateRules.Rulebook
import RateRules.Settings

/-! # Loading a rulebook

A script that is missing or blank is replaced by the one of the settings, and a missing
multiplier by theirs. -/
namespace RateRules

/-- Why no rulebook was loaded, as it is reported. -/
structure LoadRefused where
  cause : Rulebook.Invalid

namespace LoadRefused

def reason (refused : LoadRefused) : String :=
  match refused.cause with
  | .rules _ => "script contains invalid rules"
  | cause => cause.message

def message (refused : LoadRefused) : String := "Invalid rate rules: " ++ refused.reason

/-- The faults of the rules, if that is why. -/
def faults (refused : LoadRefused) : List Fault :=
  match refused.cause with
  | .rules faults => faults
  | _ => []

end LoadRefused

namespace Settings

def scriptFor (s : Settings) (script : Option String) : String :=
  match script with
  | some text => if (Text.trim text.toList).isEmpty then s.effectiveScript else text
  | none => s.effectiveScript

def load (s : Settings) (script : Option String) (multiplier : Option Decimal) :
    Except LoadRefused Rulebook := do
  let book := do
    let table ← Rulebook.tableOf (s.scriptFor script)
    Rulebook.ofTable table (multiplier.getD s.globalMultiplier)
  book.mapError LoadRefused.mk

end Settings
end RateRules
