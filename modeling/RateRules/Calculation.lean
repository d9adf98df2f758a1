import RateRules.Decimal.Arithmetic
import RateRules.Expr
import RateRules.Fault

/-! # Calculation

A calculation goes through an expression from left to right and keeps the values that wait for
their operator on a stack. An operation that fails leaves a fault and no value, so that the
operators above it miss their arguments. A part without a value pushes none. Comparing a
signaling undefined divisor with zero has no outcome at all and stops the calculation. -/
namespace RateRules

/-- The waiting values, the newest first, and the faults, the oldest first. -/
structure Stack where
  values : List Decimal
  faults : List Fault
  deriving DecidableEq, Repr

namespace Stack

def empty : Stack := ⟨[], []⟩

def push (s : Stack) (d : Decimal) : Stack := ⟨d :: s.values, s.faults⟩

def fail (s : Stack) (fault : Fault) : Stack := ⟨s.values, s.faults ++ [fault]⟩

def result (s : Stack) : Except Decimal.Trap Decimal → Stack
  | .ok d => s.push d
  | .error _ => s.fail .arithmeticError

def applyUnary (op : UnaryOp) (s : Stack) : Stack :=
  match op, s.values with
  | .plus, _ :: _ => s
  | .minus, a :: rest => (Stack.mk rest s.faults).result a.negate
  | .plus, [] => s.fail .missingArgument
  | .minus, [] => s.fail .missingArgument
  | .invert, _ => s.fail .unsupportedOperator
  | .other _, _ => s.fail .unsupportedOperator

/-- An operator that calculates, as opposed to one that can only be written. -/
def operation? : BinaryOp → Option (Decimal → Decimal → Except Decimal.Trap Decimal)
  | .add => some Decimal.add
  | .sub => some Decimal.sub
  | .mul => some Decimal.mul
  | .div => some Decimal.div
  | _ => none

def applyBinary (op : BinaryOp) (s : Stack) : Except Decimal.Trap Stack :=
  match operation? op, s.values with
  | none, _ => .ok (s.fail .unsupportedOperator)
  | some operation, b :: a :: rest =>
    let s := Stack.mk rest s.faults
    if op = .div then
      if b.isSignaling then .error .invalid
      else if b.isZero then .ok (s.fail .divideByZero)
      else .ok (s.result (operation a b))
    else .ok (s.result (operation a b))
  | some _, _ => .ok (s.fail .missingArgument)

def run : Expr → Stack → Except Decimal.Trap Stack
  | .number value, s => .ok (s.push value)
  | .parenthesized inner, s => run inner s
  | .unary op operand, s => do
    let s ← run operand s
    return s.applyUnary op
  | .binary op left right, s => do
    let s ← run left s
    let s ← run right s
    s.applyBinary op
  | _, s => .ok s

end Stack

def calculate (e : Expr) : Except Decimal.Trap Stack := Stack.run e .empty

end RateRules
