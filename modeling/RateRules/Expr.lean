import RateRules.Decimal.Basic
import RateRules.Pair

/-! # Expressions

What a rule is made of. A name is an identifier as it was written; once a script is normalized
there are pairs and exchange names instead. Operator signs beyond the language can stand in an
expression and have no meaning. -/
namespace RateRules

inductive UnaryOp where
  | plus
  | minus
  | invert
  | other (sign : String)
  deriving DecidableEq, Repr

inductive BinaryOp where
  | add
  | sub
  | mul
  | div
  | mod
  | pow
  | other (sign : String)
  deriving DecidableEq, Repr

def UnaryOp.text : UnaryOp → String
  | plus => "+"
  | minus => "-"
  | invert => "~"
  | other sign => sign

def UnaryOp.ofText : String → UnaryOp
  | "+" => plus
  | "-" => minus
  | "~" => invert
  | sign => other sign

def BinaryOp.text : BinaryOp → String
  | add => "+"
  | sub => "-"
  | mul => "*"
  | div => "/"
  | mod => "%"
  | pow => "**"
  | other sign => sign

def BinaryOp.ofText : String → BinaryOp
  | "+" => add
  | "-" => sub
  | "*" => mul
  | "/" => div
  | "%" => mod
  | "**" => pow
  | sign => other sign

inductive Expr where
  | number (value : Decimal)
  | name (identifier : String)
  | pair (pair : Pair)
  | exchange (name : String)
  | unary (op : UnaryOp) (operand : Expr)
  | binary (op : BinaryOp) (left right : Expr)
  | parenthesized (inner : Expr)
  | call (callee : Expr) (args : List Expr)
  deriving Inhabited

namespace Expr

mutual

/-- All parts of an expression, each before what it is made of. -/
def nodes : Expr → List Expr
  | unary op operand => unary op operand :: operand.nodes
  | binary op left right => binary op left right :: (left.nodes ++ right.nodes)
  | parenthesized inner => parenthesized inner :: inner.nodes
  | call callee args => call callee args :: (callee.nodes ++ nodesOfAll args)
  | number value => [number value]
  | name word => [name word]
  | pair p => [pair p]
  | exchange venue => [exchange venue]

def nodesOfAll : List Expr → List Expr
  | [] => []
  | e :: more => e.nodes ++ nodesOfAll more

end

def isBinary : Expr → Bool
  | binary .. => true
  | _ => false

def containsBinary (e : Expr) : Bool := e.nodes.any isBinary

end Expr
end RateRules
