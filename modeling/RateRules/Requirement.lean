import RateRules.Pair

/-! # Required rates

What has to be looked up before a rule can be evaluated: the rate of a pair on an exchange. -/
namespace RateRules

structure Requirement where
  exchange : String
  pair : Pair
  deriving DecidableEq

def Requirement.text (r : Requirement) : String := r.exchange ++ "(" ++ r.pair.text ++ ")"

end RateRules
