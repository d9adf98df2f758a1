import RateRules.Decimal.Basic

/-! # Decimals as text

A decimal is written with all its digits. The point is placed among them when the exponent is
not positive and at most five zeros follow the point before the first digit; otherwise one
digit stands before the point and the power of ten after an `E`. -/
namespace RateRules.Decimal

def zeroChars (n : Nat) : List Char := List.replicate n '0'

/-- Digits with a point before the last `places` of them. -/
def pointed (digits : List Char) (places : Nat) : List Char :=
  if places = 0 then digits
  else if places < digits.length then
    digits.take (digits.length - places) ++ '.' :: digits.drop (digits.length - places)
  else '0' :: '.' :: zeroChars (places - digits.length) ++ digits

/-- One digit before the point, and the power of ten with its sign. -/
def scientific (digits : List Char) (power : Int) : List Char :=
  (match digits with
    | [] => []
    | [digit] => [digit]
    | digit :: more => digit :: '.' :: more)
  ++ 'E' :: (if power < 0 then '-' else '+') :: Nat.toDigits 10 power.natAbs

def magnitude (coefficient : Nat) (exponent : Int) : List Char :=
  let digits := Nat.toDigits 10 coefficient
  let power := exponent + digits.length - 1
  if exponent ≤ 0 ∧ -6 ≤ power then pointed digits exponent.natAbs else scientific digits power

def sign (negative : Bool) : List Char := if negative then ['-'] else []

def chars : Decimal → List Char
  | finite negative coefficient exponent => sign negative ++ magnitude coefficient exponent
  | infinite negative => sign negative ++ "Infinity".toList
  | undefined negative signaling payload =>
    sign negative ++ (if signaling then ['s'] else []) ++ "NaN".toList
      ++ (if payload = 0 then [] else Nat.toDigits 10 payload)

def text (d : Decimal) : String := String.ofList d.chars

end RateRules.Decimal
