import RateRules.Text.Digit

/-! # Number tokens

Numbers are whole, with a point or a power of ten, imaginary with a `j` behind, or written with
another base after `0x`, `0o` or `0b`. Single underscores may stand between digits. A number must
not run into a word, except for a few words that join expressions. Lengths count the characters
behind those already read; there is none where no number is allowed. -/
namespace RateRules.Script

open Text (isDigit)

def isWordStart (c : Char) : Bool := c.isAlpha || c == '_' || 128 ≤ c.toNat

def isWordChar (c : Char) : Bool := c.isAlphanum || c == '_' || 128 ≤ c.toNat

def endsWord (cs : List Char) : Bool := !cs.head?.any isWordChar

/-- A number may end before this text. -/
def endsNumber : List Char → Bool
  | 'a' :: 'n' :: 'd' :: rest => endsWord rest
  | 'e' :: 'l' :: 's' :: 'e' :: rest => endsWord rest
  | 'f' :: 'o' :: 'r' :: rest => endsWord rest
  | 'i' :: 'f' :: _ => true
  | 'i' :: 'n' :: _ => true
  | 'i' :: 's' :: _ => true
  | 'n' :: 'o' :: 't' :: rest => endsWord rest
  | 'o' :: 'r' :: rest => endsWord rest
  | cs => endsWord cs

/-- More digits of a class, single underscores between them. -/
def digitsLength? (isDigit : Char → Bool) : List Char → Option Nat
  | '_' :: d :: rest => if isDigit d then (digitsLength? isDigit rest).map (· + 2) else none
  | ['_'] => none
  | d :: rest => if isDigit d then (digitsLength? isDigit rest).map (· + 1) else some 0
  | [] => some 0

def imaginaryLength? : List Char → Option Nat
  | cs@(c :: rest) =>
    if c == 'j' || c == 'J' then (if endsNumber rest then some 1 else none)
    else if endsNumber cs then some 0 else none
  | [] => some 0

/-- A power of ten, or nothing where the letter starts a word. -/
def powerLength? : List Char → Option Nat
  | cs@(e :: rest) =>
    if e == 'e' || e == 'E' then
      match rest with
      | sign :: d :: more =>
        if sign == '+' || sign == '-' then
          if isDigit d then do
            let n ← digitsLength? isDigit more
            let m ← imaginaryLength? (more.drop n)
            return 3 + n + m
          else none
        else if isDigit sign then do
          let n ← digitsLength? isDigit (d :: more)
          let m ← imaginaryLength? ((d :: more).drop n)
          return 2 + n + m
        else if endsNumber cs then some 0 else none
      | [d] =>
        if isDigit d then some 2
        else if endsNumber cs && d != '+' && d != '-' then some 0
        else none
      | [] => if endsNumber cs then some 0 else none
    else imaginaryLength? cs
  | [] => some 0

/-- The digits behind a point, and what follows them. -/
def fractionLength? (cs : List Char) : Option Nat := do
  let n ← if cs.head?.any isDigit then (digitsLength? isDigit cs.tail).map (· + 1) else some 0
  let m ← powerLength? (cs.drop n)
  return n + m

/-- What follows the digits before a point. -/
def afterWholeLength? : List Char → Option Nat
  | '.' :: rest => (fractionLength? rest).map (· + 1)
  | cs => powerLength? cs

/-- Zeros behind a first zero. -/
def zerosLength? : List Char → Option Nat
  | '_' :: d :: rest =>
    if isDigit d then (if d = '0' then (zerosLength? rest).map (· + 2) else some 1) else none
  | ['_'] => none
  | '0' :: rest => (zerosLength? rest).map (· + 1)
  | _ => some 0

/-- Digits of another base behind the letter that names it. -/
def basedLength? (isDigit : Char → Bool) (cs : List Char) : Option Nat := do
  let start := if cs.head? = some '_' then 1 else 0
  if (cs.drop start).head?.any isDigit then
    let n ← digitsLength? isDigit (cs.drop (start + 1))
    let length := start + 1 + n
    if (cs.drop length).head?.any Text.isDigit || !endsNumber (cs.drop length) then none
    else return length
  else none

def isHexDigit (c : Char) : Bool :=
  isDigit c || ('a' ≤ c && c ≤ 'f') || ('A' ≤ c && c ≤ 'F')

def isOctalDigit (c : Char) : Bool := '0' ≤ c && c ≤ '7'

def isBinaryDigit (c : Char) : Bool := c == '0' || c == '1'

/-- What follows a first zero. More digits need a point, a power or a `j` behind them. -/
def afterZeroLength? (cs : List Char) : Option Nat :=
  match cs with
  | c :: rest =>
    if c == 'x' || c == 'X' then (basedLength? isHexDigit rest).map (· + 1)
    else if c == 'o' || c == 'O' then (basedLength? isOctalDigit rest).map (· + 1)
    else if c == 'b' || c == 'B' then (basedLength? isBinaryDigit rest).map (· + 1)
    else do
      let zeros ← zerosLength? cs
      let after := cs.drop zeros
      if after.head?.any isDigit then
        let n ← digitsLength? isDigit after.tail
        let length := zeros + 1 + n
        match (cs.drop length).head? with
        | some d =>
          if d == '.' || d == 'e' || d == 'E' || d == 'j' || d == 'J' then
            let m ← afterWholeLength? (cs.drop length)
            return length + m
          else none
        | none => none
      else
        let m ← afterWholeLength? after
        return zeros + m
  | [] => some 0

/-- The further characters of a number whose first digit is `c`. -/
def numberLength? (c : Char) (rest : List Char) : Option Nat :=
  if c = '0' then afterZeroLength? rest
  else do
    let n ← digitsLength? isDigit rest
    let m ← afterWholeLength? (rest.drop n)
    return n + m

end RateRules.Script
