import RateRules.Number.Shortest

/-! # Timeouts

How long answers are waited for, in seconds. A timeout that is not above zero is over before
anybody is asked. -/
namespace RateRules

inductive Timeout where
  | whole (seconds : Int)
  | binary (seconds : Binary)
  deriving DecidableEq, Repr

namespace Timeout

def text : Timeout → String
  | whole seconds => toString seconds
  | binary seconds => seconds.text

def isOver : Timeout → Bool
  | whole seconds => seconds ≤ 0
  | binary seconds => seconds.isZero || seconds.isNegative

end Timeout
end RateRules
