import RateRules.Candidate
import RateRules.Normalization
import RateRules.RateRule
import RateRules.Script.Reading

/-! # Rulebooks

A rulebook is the table of a script with a positive multiplier that every price is multiplied by
once. It gives the rule for every pair that is no pattern. -/
namespace RateRules

structure Rulebook where
  table : RuleTable
  multiplier : Decimal
  positive : multiplier.isPositive = true

namespace Rulebook

/-- Why there is no rulebook: the script cannot be read, its rules have faults, or the multiplier
is no number or not positive. -/
inductive Invalid where
  | script (problem : Script.Problem)
  | rules (faults : List Fault)
  | multiplierForm (reason : NotDecimal)
  | multiplier (d : Decimal)
  deriving DecidableEq, Repr

def Invalid.message : Invalid → String
  | script problem => problem.message
  | rules faults => "Invalid rate rules: " ++ ", ".intercalate (faults.map Fault.text)
  | multiplierForm _ => "Global multiplier must be a number"
  | multiplier d => "Global multiplier must be positive, got " ++ d.text

def ofTable (table : RuleTable) (multiplier : Decimal) : Except Invalid Rulebook :=
  if h : multiplier.isPositive = true then .ok ⟨table, multiplier, h⟩
  else .error (.multiplier multiplier)

def withMultiplier (table : RuleTable) (given : Given) : Except Invalid Rulebook :=
  match given.toDecimal with
  | .ok d => ofTable table d
  | .error reason => .error (.multiplierForm reason)

/-- The table of a script whose rules have no fault. -/
def tableOf (script : String) : Except Invalid RuleTable := do
  let statements ← (Script.statements script).mapError .script
  let (statements, faults) := Script.normalizedStatements statements
  if !faults.isEmpty then throw (.rules faults)
  let (table, faults) := RuleTable.ofStatements statements
  if !faults.isEmpty then throw (.rules faults)
  return table

/-- Reads a rulebook. The multiplier is looked at last. -/
def parse (script : String) (multiplier : Given) : Except Invalid Rulebook := do
  let table ← tableOf script
  withMultiplier table multiplier

/-- A rulebook was asked to price a pattern. -/
structure PatternRefused where
  pair : Pair

def PatternRefused.message (refused : PatternRefused) : String :=
  "Invalid X currency: cannot get a rule for wildcard pair " ++ refused.pair.text

/-- The expression that prices a pair, multiplied unless the multiplier is one. -/
def start (book : Rulebook) (pair : Pair) : Expr :=
  let e := book.table.candidate pair
  if book.multiplier.isOne then e else .binary .mul (.parenthesized e) (.number book.multiplier)

def rule (book : Rulebook) (pair : Pair) : Except PatternRefused RateRule :=
  if pair.isPattern then .error ⟨pair⟩
  else
    let (e, found) := (book.start pair).flatten book.table.candidate pair
    .ok ⟨pair, e, found.requirements, found.faults⟩

end Rulebook
end RateRules
