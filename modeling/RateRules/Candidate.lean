import RateRules.RuleTable

/-! # Choosing a rule

The rules that can price a pair are those for the pair itself, for one of its sides and any
currency, for the inverse pair in the same way, and for any two currencies. The closest match is
chosen; of two that are equally close, the one that stands first in the script. A match of the
inverse pair is used as its reciprocal. -/
namespace RateRules

/-- A pattern that can match, how far from an exact match it is, and whether it is for the
inverse. -/
structure Pattern where
  pair : Pair
  distance : Nat
  inverse : Bool
  deriving DecidableEq

namespace Pattern

/-- The patterns for a pair, from its left and right code. -/
def all (pair : Pair) : List Pattern :=
  [⟨pair, 0, false⟩, ⟨⟨pair.left, .any⟩, 1, false⟩, ⟨⟨.any, pair.right⟩, 1, false⟩,
   ⟨pair.inverse, 2, true⟩, ⟨⟨pair.right, .any⟩, 3, true⟩, ⟨⟨.any, pair.left⟩, 3, true⟩,
   ⟨⟨.any, .any⟩, 4, false⟩]

end Pattern

structure Candidate where
  distance : Nat
  definition : Definition
  inverse : Bool

namespace Candidate

/-- One place stands before another. -/
def isBefore (a b : Script.Place) : Bool :=
  a.line < b.line || (a.line == b.line && a.column < b.column)

def isBetter (a b : Candidate) : Bool :=
  a.distance < b.distance
    || (a.distance == b.distance && isBefore a.definition.position b.definition.position)

/-- The best of some candidates; of equally good ones, the first. -/
def best? : List Candidate → Option Candidate
  | [] => none
  | c :: more => match best? more with
    | none => some c
    | some b => if b.isBetter c then some b else some c

end Candidate

def reciprocal (pair : Pair) : Expr := .binary .div (.number .one) (.pair pair)

namespace RuleTable

def candidates (table : RuleTable) (pair : Pair) : List Candidate :=
  (Pattern.all pair).filterMap fun p =>
    (table.find? p.pair).map fun d => ⟨p.distance, d, p.inverse⟩

/-- The expression that prices a pair, or a marker if no rule does. -/
def candidate (table : RuleTable) (pair : Pair) : Expr :=
  match Candidate.best? (table.candidates pair) with
  | none => .marker "NO_RULE_MATCH" [.pair pair]
  | some c => if c.inverse then reciprocal pair.inverse else c.definition.expr

end RuleTable
end RateRules
