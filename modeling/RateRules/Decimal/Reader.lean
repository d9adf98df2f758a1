import RateRules.Decimal.Basic
import RateRules.Text.Blank
import RateRules.Text.Digit

/-! # Reading decimals

A decimal is read exactly or not at all: a text beyond the limits of the exponent is refused,
never rounded. Blanks around it and underscores in it do not count, and the digits of every
script are digits. -/
namespace RateRules.Decimal

/-- The largest power of ten of a first digit, and the smallest of a last one. -/
def highestPower : Int := 999999999999999999
def lowestPower : Int := -1999999999999999997

def digitsValue (cs : List Char) : Nat :=
  cs.foldl (fun n c => 10 * n + (c.toNat - 48)) 0

/-- A finite decimal, if its exponent is within the limits. -/
def withinLimits? (negative : Bool) (coefficient : Nat) (exponent : Int) : Option Decimal :=
  if firstDigit coefficient exponent ≤ highestPower ∧ lowestPower ≤ exponent then
    some (finite negative coefficient exponent)
  else none

def readSign : List Char → Bool × List Char
  | '-' :: rest => (true, rest)
  | '+' :: rest => (false, rest)
  | cs => (false, cs)

/-- The power of ten after the letter E; nothing at all stands for zero. -/
def readPower? : List Char → Option Int
  | [] => some 0
  | c :: rest =>
    let (negative, digits) := readSign rest
    if (c == 'e' || c == 'E') && !digits.isEmpty && digits.all Text.isDigit then
      some (if negative then -(digitsValue digits : Int) else digitsValue digits)
    else none

def readFinite? (negative : Bool) (cs : List Char) : Option Decimal :=
  let whole := cs.takeWhile Text.isDigit
  let rest := cs.dropWhile Text.isDigit
  let (part, rest) := match rest with
    | '.' :: more => (more.takeWhile Text.isDigit, more.dropWhile Text.isDigit)
    | _ => ([], rest)
  if whole.isEmpty && part.isEmpty then none
  else do
    let power ← readPower? rest
    withinLimits? negative (digitsValue (whole ++ part)) (power - part.length)

/-- A word for an infinity, or for an undefined result with digits behind it. -/
def readWord? (negative : Bool) (cs : List Char) : Option Decimal :=
  let undefinedWith (signaling : Bool) (digits : List Char) : Option Decimal :=
    if digits.all Text.isDigit then some (undefined negative signaling (digitsValue digits))
    else none
  match cs.map Char.toLower with
  | ['i', 'n', 'f'] => some (infinite negative)
  | ['i', 'n', 'f', 'i', 'n', 'i', 't', 'y'] => some (infinite negative)
  | 'n' :: 'a' :: 'n' :: digits => undefinedWith false digits
  | 's' :: 'n' :: 'a' :: 'n' :: digits => undefinedWith true digits
  | _ => none

def ofChars? (cs : List Char) : Option Decimal :=
  let (negative, rest) := readSign cs
  readFinite? negative rest <|> readWord? negative rest

/-- A character as it counts inside a number: digits of every script become ASCII digits. -/
def plainChar? (c : Char) : Option Char :=
  if c.toNat < 128 then (if c = '\x00' then none else some c)
  else if Text.isBlank c then some ' '
  else (Text.digitValue? c).map fun value => Char.ofNat (48 + value)

/-- The decimal that a text stands for. -/
def ofText? (s : String) : Option Decimal := do
  let kept := (Text.trim s.toList).filter (· ≠ '_')
  ofChars? (← kept.mapM plainChar?)

end RateRules.Decimal
