import RateRules.Expr
import RateRules.Fault
import RateRules.Script.Statement
import RateRules.Text.Small

/-! # Normalization

Names become the pairs they spell, and the callee of a call becomes the name of an exchange in
small letters. A name that spells no pair, a callee that is no plain name or spells a pair, and a
call inside a call are faults; a call with a fault of its own stays as it was written. -/
namespace RateRules

namespace Expr

/-- The exchange that a callee names. -/
def exchangeName? : Expr → Option String
  | name word => if (Pair.ofText? word).isSome then none else some (Text.small word)
  | _ => none

mutual

/-- The normalized expression and its faults from left to right. -/
def normalized (inCall : Bool) : Expr → Expr × List Fault
  | name word => match Pair.ofText? word with
    | some p => (pair p, [])
    | none => (name word, [.invalidCurrencyIdentifier])
  | unary op operand =>
    let (operand, faults) := operand.normalized inCall
    (unary op operand, faults)
  | binary op left right =>
    let (left, leftFaults) := left.normalized inCall
    let (right, rightFaults) := right.normalized inCall
    (binary op left right, leftFaults ++ rightFaults)
  | parenthesized inner =>
    let (inner, faults) := inner.normalized inCall
    (parenthesized inner, faults)
  | call callee args =>
    if inCall then (call callee args, [.nestedInvocation])
    else
      match exchangeName? callee with
      | some venue =>
        let (args, faults) := normalizedAll args
        (call (exchange venue) args, faults)
      | none => (call callee args, [.invalidExchangeName])
  | number value => (number value, [])
  | pair p => (pair p, [])
  | exchange venue => (exchange venue, [])

/-- Arguments of a call. -/
def normalizedAll : List Expr → List Expr × List Fault
  | [] => ([], [])
  | e :: more =>
    let (e, faults) := e.normalized true
    let (rest, restFaults) := normalizedAll more
    (e :: rest, faults ++ restFaults)

end

end Expr

namespace Script

def Statement.normalized : Statement → Statement × List Fault
  | assign op target value position =>
    let (target, targetFaults) := target.normalized false
    let (value, valueFaults) := value.normalized false
    (assign op target value position, targetFaults ++ valueFaults)
  | expression e =>
    let (e, faults) := e.normalized false
    (expression e, faults)

def normalizedStatements : List Statement → List Statement × List Fault
  | [] => ([], [])
  | s :: more =>
    let (s, faults) := s.normalized
    let (rest, restFaults) := normalizedStatements more
    (s :: rest, faults ++ restFaults)

end Script
end RateRules
