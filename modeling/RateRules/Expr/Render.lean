import RateRules.Expr
import RateRules.Decimal.Text

/-! # Expressions as text

An expression is written with the parentheses that its shape needs: an operand is enclosed when
it binds less than its place asks for. A right operand has to bind more than the operator itself.
Calls whose callee starts with `ERR_` are markers that stand for a part without a value. -/
namespace RateRules

def BinaryOp.strength : BinaryOp → Nat
  | .add => 1
  | .sub => 1
  | .mul => 2
  | .div => 2
  | .mod => 2
  | .pow => 4
  | .other _ => 0

namespace Expr

def unaryStrength : Nat := 3

def strength : Expr → Nat
  | binary op _ _ => op.strength
  | unary _ _ => unaryStrength
  | number value => if value.isNegative then unaryStrength else 10
  | _ => 10

def enclosedBelow (least strength : Nat) (text : String) : String :=
  if strength < least then "(" ++ text ++ ")" else text

mutual

def render : Expr → String
  | number value => value.text
  | name word => word
  | pair p => p.text
  | exchange venue => venue
  | parenthesized inner => "(" ++ inner.render ++ ")"
  | call callee args => callee.render ++ "(" ++ renderArgs args ++ ")"
  | unary op operand => op.text ++ enclosedBelow unaryStrength operand.strength operand.render
  | binary op left right =>
    enclosedBelow op.strength left.strength left.render ++ " " ++ op.text ++ " "
      ++ enclosedBelow (op.strength + 1) right.strength right.render

/-- The arguments of a call, with a comma and a blank between them. -/
def renderArgs : List Expr → String
  | [] => ""
  | [e] => e.render
  | e :: more => e.render ++ ", " ++ renderArgs more

end

/-- A name that marks a part without a value, whatever the case of its letters. -/
def isMarkerName (name : String) : Bool :=
  (name.toList.take 4).map Char.toUpper == ['E', 'R', 'R', '_']

def marker (code : String) (args : List Expr) : Expr := call (exchange ("ERR_" ++ code)) args

end Expr
end RateRules
