import RateRules.Decimal.Basic

/-! # Binary numbers

A binary number is a mantissa of at most 53 bits and a power of two. A decimal is read as the
nearest binary number, a half to the even mantissa; the other way every binary number is a
decimal exactly. -/
namespace RateRules

inductive Binary where
  | finite (negative : Bool) (mantissa : Nat) (power : Int)
  | infinite (negative : Bool)
  | undefined
  deriving DecidableEq, Repr, Inhabited

/-- A two multiplied by itself so many times. -/
def powerOfTwo (times : Nat) : Nat := Nat.pow 2 times

namespace Binary

def mantissaBits : Nat := 53
def lowestPower : Int := -1074
def highestPower : Int := 971

/-- The quotient rounded to the nearest number, a half to the even one. -/
def nearest (dividend divisor : Nat) : Nat :=
  let quotient := dividend / divisor
  let twice := 2 * (dividend % divisor)
  if twice < divisor then quotient
  else if divisor < twice then quotient + 1
  else quotient + quotient % 2

/-- The power of two of the last bit of a mantissa for the value `dividend / divisor`. -/
def powerFor (dividend divisor : Nat) : Int :=
  let guess : Int := (Nat.log2 dividend : Int) - Nat.log2 divisor - mantissaBits
  let scaled := dividend * powerOfTwo (-guess).toNat / (divisor * powerOfTwo guess.toNat)
  max lowestPower (if powerOfTwo mantissaBits ≤ scaled then guess + 1 else guess)

def ofRatio (negative : Bool) (dividend divisor : Nat) : Binary :=
  if dividend = 0 then finite negative 0 lowestPower
  else
    let power := powerFor dividend divisor
    let mantissa :=
      nearest (dividend * powerOfTwo (-power).toNat) (divisor * powerOfTwo power.toNat)
    let (mantissa, power) :=
      if mantissa = powerOfTwo mantissaBits then (powerOfTwo (mantissaBits - 1), power + 1)
      else (mantissa, power)
    if highestPower < power then infinite negative else finite negative mantissa power

/-- The nearest binary number. Far outside the range of binary numbers the powers are not worked
out. -/
def ofDecimal : Decimal → Binary
  | .finite negative coefficient exponent =>
    if coefficient = 0 || Decimal.firstDigit coefficient exponent < -330 then
      finite negative 0 lowestPower
    else if 310 < Decimal.firstDigit coefficient exponent then infinite negative
    else ofRatio negative (coefficient * powerOfTen exponent.toNat) (powerOfTen (-exponent).toNat)
  | .infinite negative => infinite negative
  | .undefined .. => undefined

/-- Twos are divided out of the mantissa, as long as the power is below zero. -/
def reduced : Nat → Nat → Nat × Nat
  | mantissa, 0 => (mantissa, 0)
  | mantissa, places + 1 =>
    if mantissa % 2 = 0 then reduced (mantissa / 2) places else (mantissa, places + 1)

def toDecimal : Binary → Decimal
  | finite negative mantissa power =>
    if 0 ≤ power then .finite negative (mantissa * powerOfTwo power.toNat) 0
    else
      let (mantissa, places) := reduced mantissa (-power).toNat
      .finite negative (mantissa * Nat.pow 5 places) (-places)
  | infinite negative => .infinite negative
  | undefined => .undefined false false 0

def isZero : Binary → Bool
  | finite _ mantissa _ => mantissa == 0
  | _ => false

/-- The sign is a minus; an undefined number has none. -/
def isNegative : Binary → Bool
  | finite negative _ _ => negative
  | infinite negative => negative
  | undefined => false

end Binary
end RateRules
