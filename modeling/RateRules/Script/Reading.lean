import RateRules.Script.Grammar.Clause
import RateRules.Script.Prepared
import RateRules.Script.Statement

/-! # Reading scripts and expressions

A script is prepared, split into tokens and read as a whole before any of its statements is
looked at, so a text that does not follow the grammar is refused first. -/
namespace RateRules.Script

/-- How many levels may nest in one token: a text with fields has tokens of its own. No level
reaches over the end of a line. -/
def Token.levels (t : Token) : Nat :=
  match t.lexeme with
  | .quotation q => 2 * q.body.length + 4
  | .lineEnd => 0
  | _ => 1

/-- Every level takes a token, so nothing nests deeper than there are tokens. -/
def maxDepth (tokens : List Token) : Nat := tokens.foldr (fun t deeper => t.levels + deeper) 2

/-- What a parser reads from a text, or the line that is blamed. -/
def readWith {α : Type} (p : Grammar.Inner → Parser α) (cs : List Char) : Except Problem α :=
  if cs.contains '\x00' then .error (.grammar none)
  else
    let scanned := scan 1 cs
    match p (Grammar.nested (maxDepth scanned.tokens)) scanned.tokens with
    | .ok parsed => .ok parsed.value
    | .error refusal => .error (.grammar (some (refusal.line scanned.ending)))

/-- The last line of a script has an end, too. -/
def withLineEnd (cs : List Char) : List Char :=
  if cs.getLast? = some '\n' then cs else cs ++ ['\n']

/-- The statements of a script. -/
def statements (script : String) : Except Problem (List Statement) := do
  let clauses ← readWith Grammar.wholeScript (withLineEnd (prepared script.toList))
  statementsOf clauses

/-- The expression that a text stands for. -/
def expression (text : String) : Except Problem Expr := do
  let tree ← readWith Grammar.wholeExpression (Text.trim (prepared text.toList))
  tree.expr

end RateRules.Script
