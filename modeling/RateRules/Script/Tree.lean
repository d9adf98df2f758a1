import RateRules.Expr
import RateRules.Script.Token

/-! # What a script is written as

The grammar of scripts is wider than the language of rules. It knows operators, expressions and
statements that no rule may use, so that a script which uses one is told what it is. Every tree
has the place where its text starts. -/
namespace RateRules.Script

/-- Operators that the grammar knows and rules do not. -/
inductive ForeignOperator where
  | floorDivision
  | matrixProduct
  | shiftLeft
  | shiftRight
  | bitOr
  | bitXor
  | bitAnd
  | not
  deriving DecidableEq, Repr

def ForeignOperator.text : ForeignOperator → String
  | floorDivision => "FloorDiv"
  | matrixProduct => "MatMult"
  | shiftLeft => "LShift"
  | shiftRight => "RShift"
  | bitOr => "BitOr"
  | bitXor => "BitXor"
  | bitAnd => "BitAnd"
  | not => "Not"

/-- Expressions that the grammar knows and rules do not. -/
inductive Construct where
  | member
  | subscript
  | function
  | conditional
  | boolean
  | comparison
  | named
  | tuple
  | list
  | starred
  | dictionary
  | set
  | listComprehension
  | setComprehension
  | dictionaryComprehension
  | generator
  | awaited
  | yielded
  | yieldedFrom
  | template
  deriving DecidableEq, Repr

def Construct.text : Construct → String
  | member => "Attribute"
  | subscript => "Subscript"
  | function => "Lambda"
  | conditional => "IfExp"
  | boolean => "BoolOp"
  | comparison => "Compare"
  | named => "NamedExpr"
  | tuple => "Tuple"
  | list => "List"
  | starred => "Starred"
  | dictionary => "Dict"
  | set => "Set"
  | listComprehension => "ListComp"
  | setComprehension => "SetComp"
  | dictionaryComprehension => "DictComp"
  | generator => "GeneratorExp"
  | awaited => "Await"
  | yielded => "Yield"
  | yieldedFrom => "YieldFrom"
  | template => "JoinedStr"

inductive Tree where
  | number (place : Place) (text : String)
  | literal (place : Place) (shown : String)
  | name (place : Place) (word : String)
  | unary (place : Place) (op : Except ForeignOperator UnaryOp) (operand : Tree)
  | binary (place : Place) (op : Except ForeignOperator BinaryOp) (left right : Tree)
  | call (place : Place) (callee : Tree) (args : List Tree) (named : Bool)
  | tuple (place : Place) (items : List Tree)
  | list (place : Place) (items : List Tree)
  | starred (place : Place) (inner : Tree)
  | foreign (place : Place) (construct : Construct)
  deriving Inhabited

namespace Tree

def place : Tree → Place
  | number place _ => place
  | literal place _ => place
  | name place _ => place
  | unary place _ _ => place
  | binary place _ _ _ => place
  | call place _ _ _ => place
  | tuple place _ => place
  | list place _ => place
  | starred place _ => place
  | foreign place _ => place

def isStarred : Tree → Bool
  | starred .. => true
  | _ => false

/-- What a single target of an assignment may be. -/
def isSingleTarget : Tree → Bool
  | name .. => true
  | foreign _ .member => true
  | foreign _ .subscript => true
  | _ => false

mutual

/-- The first part that no value can be assigned to. -/
def badTarget? : Tree → Option Tree
  | tuple _ items => badTargetOf? items
  | list _ items => badTargetOf? items
  | starred _ inner => inner.badTarget?
  | t => if t.isSingleTarget then none else some t

def badTargetOf? : List Tree → Option Tree
  | [] => none
  | t :: more => t.badTarget? <|> badTargetOf? more

end

mutual

/-- The first part that cannot be deleted. -/
def badDeletion? : Tree → Option Tree
  | tuple _ items => badDeletionOf? items
  | list _ items => badDeletionOf? items
  | t => if t.isSingleTarget then none else some t

def badDeletionOf? : List Tree → Option Tree
  | [] => none
  | t :: more => t.badDeletion? <|> badDeletionOf? more

end

end Tree

/-- Statements that the grammar knows and rules do not. -/
inductive Command where
  | annotated
  | returned
  | raised
  | globals
  | nonlocals
  | deleted
  | asserted
  | imported
  | importedFrom
  | broken
  | continued
  | conditional
  | repeated
  | iterated
  | within
  | tried
  | triedGroup
  | function
  | classed
  | asyncFunction
  | asyncIterated
  | asyncWithin
  deriving DecidableEq, Repr

def Command.text : Command → String
  | annotated => "AnnAssign"
  | returned => "Return"
  | raised => "Raise"
  | globals => "Global"
  | nonlocals => "Nonlocal"
  | deleted => "Delete"
  | asserted => "Assert"
  | imported => "Import"
  | importedFrom => "ImportFrom"
  | broken => "Break"
  | continued => "Continue"
  | conditional => "If"
  | repeated => "While"
  | iterated => "For"
  | within => "With"
  | tried => "Try"
  | triedGroup => "TryStar"
  | function => "FunctionDef"
  | classed => "ClassDef"
  | asyncFunction => "AsyncFunctionDef"
  | asyncIterated => "AsyncFor"
  | asyncWithin => "AsyncWith"

inductive Clause where
  | assign (targets : List Tree) (value : Tree)
  | augment (place : Place) (op : Except ForeignOperator BinaryOp) (target value : Tree)
  | expression (e : Tree)
  | pass
  | foreign (place : Place) (command : Command)
  deriving Inhabited

end RateRules.Script
