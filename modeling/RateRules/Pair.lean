import RateRules.Text.Capital
import RateRules.Text.Quoted

/-! # Currency pairs

A pair names what is priced and in which currency, as in `BTC_USD`. Codes are made of ASCII
capitals and digits. The code `X` stands for any currency when a pair is a pattern. -/
namespace RateRules

def isCodeChar (c : Char) : Bool := ('A' ≤ c && c ≤ 'Z') || ('0' ≤ c && c ≤ '9')

def isCode (cs : List Char) : Bool := !cs.isEmpty && cs.all isCodeChar

structure Code where
  text : String
  valid : isCode text.toList = true
  deriving DecidableEq

namespace Code

def ofText? (s : String) : Option Code :=
  if h : isCode s.toList = true then some ⟨s, h⟩ else none

/-- The code that stands for any currency. -/
def any : Code := ⟨"X", by decide⟩

def isAny (code : Code) : Bool := code == any

instance : Inhabited Code := ⟨any⟩

end Code

structure Pair where
  left : Code
  right : Code
  deriving DecidableEq, Inhabited

namespace Pair

/-- Why no pair is named: a code or a text of the wrong form. The code is kept as it is shown. -/
inductive Invalid where
  | code (shown : String)
  | text (s : String)

def Invalid.message : Invalid → String
  | code shown => "Invalid currency code: " ++ shown
  | text s => "Invalid currency pair: " ++ Text.quote s

def text (pair : Pair) : String := pair.left.text ++ "_" ++ pair.right.text

/-- A pair of two codes, each a text of the right form or refused as it is shown. -/
def ofCodes (left right : Except String String) : Except Invalid Pair := do
  let code : Except String String → Except Invalid Code
    | .ok s => match Code.ofText? s with
      | some code => .ok code
      | none => .error (.code (Text.quote s))
    | .error shown => .error (.code shown)
  let left ← code left
  let right ← code right
  return ⟨left, right⟩

/-- The two sides of a text with exactly one underscore. -/
def sides? (cs : List Char) : Option (List Char × List Char) :=
  match cs.dropWhile (· ≠ '_') with
  | _ :: right => if right.contains '_' then none else some (cs.takeWhile (· ≠ '_'), right)
  | [] => none

/-- The pair that a text names, whatever the case of its letters. -/
def ofText? (s : String) : Option Pair := do
  let (left, right) ← sides? s.toList
  let left ← Code.ofText? (String.ofList (← Text.capitals? left))
  let right ← Code.ofText? (String.ofList (← Text.capitals? right))
  return ⟨left, right⟩

def parse (s : String) : Except Invalid Pair :=
  match ofText? s with
  | some pair => .ok pair
  | none => .error (.text s)

/-- One of the sides is the wildcard. -/
def isPattern (pair : Pair) : Bool := pair.left.isAny || pair.right.isAny

def inverse (pair : Pair) : Pair := ⟨pair.right, pair.left⟩

/-- Each wildcard side takes the code of the same side of `context`. -/
def filledFrom (pair context : Pair) : Pair :=
  ⟨if pair.left.isAny then context.left else pair.left,
   if pair.right.isAny then context.right else pair.right⟩

end Pair
end RateRules
