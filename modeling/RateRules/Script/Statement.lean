import RateRules.Decimal.Reader
import RateRules.Script.Tree
import RateRules.Text.Quoted

/-! # Statements of a script

A statement assigns an expression to a target, with or without an operator, or is an expression
alone. The position of an assignment is the place of its value. An assignment to several targets
gives one statement for each. Whatever rules do not know is refused at its place. -/
namespace RateRules.Script

inductive Statement where
  | assign (op : Option BinaryOp) (target value : Expr) (position : Place)
  | expression (e : Expr)
  deriving Inhabited

/-- The sign between the target and the value. -/
def assignSign : Option BinaryOp → String
  | none => "="
  | some op => op.text ++ "="

/-- Why a construct is no part of a rule script. -/
inductive Reason where
  | statement (command : Command)
  | expression (construct : Construct)
  | operator (op : ForeignOperator)
  | literal (shown : String)
  | number (text : String)
  | namedArguments
  deriving DecidableEq, Repr

def Reason.text : Reason → String
  | statement command => "unsupported statement " ++ command.text
  | expression construct => "unsupported expression " ++ construct.text
  | operator op => "unsupported operator " ++ op.text
  | literal shown => "unsupported literal " ++ shown
  | number text => "unsupported numeric literal " ++ Text.quote text
  | namedArguments => "keyword arguments are not supported"

/-- A script does not follow the grammar on a line, or uses a foreign construct. There is no line
if the text has a character that no script may have. -/
inductive Problem where
  | grammar (line : Option Nat)
  | construct (reason : Reason) (place : Place)
  deriving DecidableEq, Repr

def invalidScript : String := "Invalid rate rules script"

def Problem.message : Problem → String
  | grammar none => invalidScript
  | grammar (some line) => invalidScript ++ " (line " ++ toString line ++ ")"
  | construct reason place =>
    invalidScript ++ " (line " ++ toString place.line ++ ", column " ++
      toString place.column ++ "): "
      ++ reason.text

/-- The operator, if rules know it. -/
def knownOperator {α : Type} (place : Place) : Except ForeignOperator α → Except Problem α
  | .ok op => .ok op
  | .error op => .error (.construct (.operator op) place)

/-- The number that a text stands for. -/
def numberOf (place : Place) (text : String) : Except Problem Expr :=
  match Decimal.ofText? text with
  | some d => if d.isFinite then .ok (.number d) else .error (.construct (.number text) place)
  | none => .error (.construct (.number text) place)

mutual

/-- The expression that a tree stands for. Parentheses leave no trace. -/
def Tree.expr : Tree → Except Problem Expr
  | .number place text => numberOf place text
  | .literal place shown => .error (.construct (.literal shown) place)
  | .name _ word => .ok (.name word)
  | .unary place op operand => do
    let op ← knownOperator place op
    let operand ← operand.expr
    return .unary op operand
  | .binary place op left right => do
    let op ← knownOperator place op
    let left ← left.expr
    let right ← right.expr
    return .binary op left right
  | .call place callee args named => do
    if named then throw (.construct .namedArguments place)
    let callee ← callee.expr
    let args ← exprsOf args
    return .call callee args
  | .tuple place _ => .error (.construct (.expression .tuple) place)
  | .list place _ => .error (.construct (.expression .list) place)
  | .starred place _ => .error (.construct (.expression .starred) place)
  | .foreign place construct => .error (.construct (.expression construct) place)

def exprsOf : List Tree → Except Problem (List Expr)
  | [] => .ok []
  | t :: more => do
    let e ← t.expr
    let rest ← exprsOf more
    return e :: rest

end

/-- The statements of a clause. The value of an assignment is looked at before its targets. -/
def Clause.statements : Clause → Except Problem (List Statement)
  | .assign targets value => do
    let e ← value.expr
    let targets ← exprsOf targets
    return targets.map fun target => .assign none target e value.place
  | .augment place op target value => do
    let op ← knownOperator place op
    let target ← target.expr
    let e ← value.expr
    return [.assign (some op) target e value.place]
  | .expression t => do
    let e ← t.expr
    return [.expression e]
  | .pass => .ok []
  | .foreign place command => .error (.construct (.statement command) place)

def statementsOf : List Clause → Except Problem (List Statement)
  | [] => .ok []
  | c :: more => do
    let first ← c.statements
    let rest ← statementsOf more
    return first ++ rest

end RateRules.Script
