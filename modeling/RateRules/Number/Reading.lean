import RateRules.Number.Binary
import RateRules.Decimal.Reader

/-! # Reading binary numbers

A binary number is written with a sign, digits with a point among them, and a power of ten, or
as a word for an infinity or an undefined number. Blanks around it do not count; single
underscores may stand inside a number that has no blanks around it. -/
namespace RateRules.Binary

/-- Blanks that do not count around a number: all but the four separators of ASCII. -/
def isOuterBlank (c : Char) : Bool := Text.isBlank c && !('\x1c' ≤ c && c ≤ '\x1f')

def trimmed (cs : List Char) : List Char :=
  ((cs.dropWhile isOuterBlank).reverse.dropWhile isOuterBlank).reverse

def readWord? (negative : Bool) (cs : List Char) : Option Binary :=
  match cs.map Char.toLower with
  | ['i', 'n', 'f'] => some (infinite negative)
  | ['i', 'n', 'f', 'i', 'n', 'i', 't', 'y'] => some (infinite negative)
  | ['n', 'a', 'n'] => some undefined
  | _ => none

/-- The power of ten behind its letter; without a letter it is zero. -/
def readPower? : List Char → Option Int
  | [] => some 0
  | c :: rest =>
    let (negative, digits) := Decimal.readSign rest
    if (c == 'e' || c == 'E') && !digits.isEmpty && digits.all Text.isDigit then
      some (if negative then -(Decimal.digitsValue digits : Int) else Decimal.digitsValue digits)
    else none

def readFinite? (negative : Bool) (cs : List Char) : Option Binary := do
  let whole := cs.takeWhile Text.isDigit
  let rest := cs.dropWhile Text.isDigit
  let (part, rest) := match rest with
    | '.' :: more => (more.takeWhile Text.isDigit, more.dropWhile Text.isDigit)
    | _ => ([], rest)
  if whole.isEmpty && part.isEmpty then none
  else
    let power ← readPower? rest
    return ofDecimal (.finite negative (Decimal.digitsValue (whole ++ part)) (power - part.length))

def ofChars? (cs : List Char) : Option Binary :=
  let (negative, rest) := Decimal.readSign cs
  readFinite? negative rest <|> readWord? negative rest

/-- Underscores stand between other characters and not next to one another. -/
def hasUnderscoresInside (cs : List Char) : Bool :=
  cs.head? ≠ some '_' && cs.getLast? ≠ some '_' && !(cs.zip cs.tail).contains ('_', '_')

def ofText? (s : String) : Option Binary :=
  ofChars? (trimmed s.toList)
    <|> (if hasUnderscoresInside s.toList then ofChars? (s.toList.filter (· ≠ '_')) else none)

end RateRules.Binary
