/-! # Tokens of a script

A token has a place, which is the line and the column in bytes of its first character, and knows
how many brackets are open behind it. -/
namespace RateRules.Script

structure Place where
  line : Nat
  column : Nat
  deriving DecidableEq, Repr, Inhabited

/-- The place behind `cs`. -/
def Place.after (place : Place) (cs : List Char) : Place :=
  cs.foldl
    (fun p c => if c = '\n' then ⟨p.line + 1, 0⟩ else ⟨p.line, p.column + c.utf8Size⟩) place

/-- A quoted text with the letters before its quote and the characters between the quotes. -/
structure Quotation where
  bytes : Bool
  raw : Bool
  formatted : Bool
  body : List Char
  deriving DecidableEq, Repr

/-- `broken` stands where the text has no further token although it goes on or should. -/
inductive Lexeme where
  | keyword (word : String)
  | name (word : String)
  | number (text : String)
  | quotation (q : Quotation)
  | sign (text : String)
  | lineEnd
  | textEnd
  | broken
  deriving DecidableEq, Repr, Inhabited

structure Token where
  lexeme : Lexeme
  place : Place
  depth : Nat
  deriving DecidableEq, Repr, Inhabited

namespace Token

/-- The token is this keyword or sign. -/
def is (t : Token) (word : String) : Bool :=
  match t.lexeme with
  | .keyword w => w == word
  | .sign s => s == word
  | _ => false

def isOneOf (t : Token) (words : List String) : Bool := words.any t.is

def isLineEnd (t : Token) : Bool := t.lexeme == .lineEnd

def isBroken (t : Token) : Bool := t.lexeme == .broken

def name? (t : Token) : Option String :=
  match t.lexeme with
  | .name word => some word
  | _ => none

def line (t : Token) : Nat := t.place.line

end Token

def keywords : List String :=
  ["False", "None", "True", "and", "as", "assert", "async", "await", "break", "class", "continue",
   "def", "del", "elif", "else", "except", "finally", "for", "from", "global", "if", "import", "in",
   "is", "lambda", "nonlocal", "not", "or", "pass", "raise", "return", "try", "while", "with",
   "yield"]

/-- How a text stopped giving tokens: at its end, at a character that no token allows, with a
bracket still open, or at a backslash that does not end a line. The last two are only noticed
when a token is asked for, and then the innermost open bracket is blamed. -/
inductive Ending where
  | complete
  | fault (line : Nat)
  | unclosed (line : Nat)
  | stray (line : Nat) (opened : Option Nat)
  deriving DecidableEq, Repr

structure Lexed where
  tokens : List Token
  ending : Ending
  deriving DecidableEq, Repr

end RateRules.Script
