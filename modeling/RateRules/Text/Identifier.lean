import RateRules.Text.IdentifierTable

/-! # Identifiers

An identifier starts with a letter or an underscore and goes on with letters, digits and marks. -/
namespace RateRules.Text

def startsIdentifier (c : Char) : Bool :=
  if c.toNat < 128 then c.isAlpha || c == '_' else identifierStarts.has c

def continuesIdentifier (c : Char) : Bool :=
  if c.toNat < 128 then c.isAlphanum || c == '_'
  else identifierStarts.has c || identifierMarks.has c

def isIdentifier : List Char → Bool
  | [] => false
  | c :: rest => startsIdentifier c && rest.all continuesIdentifier

end RateRules.Text
