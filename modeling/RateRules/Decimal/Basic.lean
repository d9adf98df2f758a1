/-! # Decimal numbers

A finite decimal is a sign, a coefficient and a power of ten, and keeps the zeros it was
written with: `0.10` and `0.1` are two decimals of one value. Besides there are the two
infinities and the undefined results; a signaling undefined result refuses every operation. -/
namespace RateRules

inductive Decimal where
  | finite (negative : Bool) (coefficient : Nat) (exponent : Int)
  | infinite (negative : Bool)
  | undefined (negative signaling : Bool) (payload : Nat)
  deriving DecidableEq, Repr, Inhabited

/-- How many digits a coefficient is written with. -/
def digitCount (n : Nat) : Nat :=
  if n < 10 then 1 else digitCount (n / 10) + 1

/-- A one with so many zeros. -/
def powerOfTen (zeros : Nat) : Nat := Nat.pow 10 zeros

namespace Decimal

def ofNat (n : Nat) : Decimal := finite false n 0

def ofInt (z : Int) : Decimal := finite (z < 0) z.natAbs 0

def one : Decimal := ofNat 1

def isFinite : Decimal → Bool
  | finite .. => true
  | _ => false

def isNegative : Decimal → Bool
  | finite negative .. => negative
  | infinite negative => negative
  | undefined negative .. => negative

def isZero : Decimal → Bool
  | finite _ coefficient _ => coefficient == 0
  | _ => false

def isSignaling : Decimal → Bool
  | undefined _ signaling _ => signaling
  | _ => false

/-- The power of ten of the first digit. -/
def firstDigit (coefficient : Nat) (exponent : Int) : Int :=
  exponent + digitCount coefficient - 1

/-- A finite number above zero. -/
def isPositive : Decimal → Bool
  | finite negative coefficient _ => !negative && coefficient != 0
  | _ => false

/-- The value is one, whatever zeros it is written with. -/
def isOne : Decimal → Bool
  | finite negative coefficient exponent =>
    !negative && firstDigit coefficient exponent == 0 &&
      coefficient == powerOfTen (digitCount coefficient - 1)
  | _ => false

end Decimal
end RateRules
