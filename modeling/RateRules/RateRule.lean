import RateRules.Calculation
import RateRules.Flattening
import RateRules.Substitution

/-! # Rules for one pair

A rule is the flattened expression that prices a pair, with the rates it requires and the faults
of its flattening. It can be evaluated any number of times. An evaluation gives a value or the
faults that prevent it, each kind once, and the expression with the rates put in. -/
namespace RateRules

structure RateRule where
  pair : Pair
  expr : Expr
  requirements : List Requirement
  faults : List Fault

structure Evaluation where
  value : Option Decimal
  faults : List Fault
  evaluated : String
  deriving DecidableEq

namespace Evaluation

def hasFault (e : Evaluation) : Bool := !e.faults.isEmpty

end Evaluation

namespace RateRule

def text (rule : RateRule) : String := rule.expr.render

def description (rule : RateRule) : String :=
  "RateRule(" ++ rule.pair.text ++ ", " ++ rule.text ++ ")"

/-- The value and the faults of an expression whose rates are put in. -/
def outcome (e : Expr) (faults : List Fault) : Except Decimal.Trap (Option Decimal × List Fault) :=
  if !faults.isEmpty then .ok (none, faults)
  else do
    let stack ← calculate e
    return match stack.values, stack.faults with
      | [d], [] => (some d, [])
      | _, [] => (none, [.missingArgument])
      | _, faults => (none, faults)

/-- Evaluates a rule and says which rates it asked for. -/
def evaluate (rule : RateRule) (source : RateSource) :
    Except Decimal.Trap (Evaluation × List Requirement) := do
  let (e, asked) := rule.expr.substitute source ⟨rule.faults, []⟩
  let (value, faults) ← outcome e asked.faults
  return (⟨value, faults.eraseDups, e.render⟩, asked.lookups)

end RateRule

/-- A rule with the outcome of its last evaluation. -/
structure HeldRule where
  rule : RateRule
  last : Option Evaluation

namespace HeldRule

def ofRule (rule : RateRule) : HeldRule := ⟨rule, none⟩

/-! What a rule shows of its last evaluation. Before the first one there is nothing to show. -/

def value (held : HeldRule) : Option Decimal := held.last.bind Evaluation.value

def faults (held : HeldRule) : List Fault := held.last.elim [] Evaluation.faults

def hasFault (held : HeldRule) : Bool := !held.faults.isEmpty

def evaluated (held : HeldRule) : Option String := held.last.map Evaluation.evaluated

def evaluate (held : HeldRule) (source : RateSource) :
    Except Decimal.Trap (Evaluation × List Requirement × HeldRule) := do
  let (evaluation, lookups) ← held.rule.evaluate source
  return (evaluation, lookups, ⟨held.rule, some evaluation⟩)

end HeldRule
end RateRules
