import RateRules.Decimal.Basic

/-! # Rounding

Every computed decimal is rounded to 28 digits, a half to the even neighbour. A result whose
first digit stands too high overflows; one that reaches too low loses digits, down to zero. -/
namespace RateRules.Decimal

/-- Why an operation has no result. -/
inductive Trap where
  | invalid
  | overflow
  deriving DecidableEq, Repr

def precision : Nat := 28
def highestExponent : Int := 999999
def lowestExponent : Int := -999999

/-- The power of ten below which no digit is kept. -/
def lowestDigit : Int := lowestExponent - precision + 1

/-- `n` without its last `places` digits, rounded to the nearest, a half to the even neighbour. -/
def shortened (n places : Nat) : Nat :=
  if digitCount n < places then 0
  else
    let unit := powerOfTen places
    let quotient := n / unit
    let twice := 2 * (n % unit)
    if twice < unit then quotient
    else if unit < twice then quotient + 1
    else quotient + quotient % 2

/-- The power of ten of the last digit that is kept. -/
def keptDigit (coefficient : Nat) (exponent : Int) : Int :=
  max (max exponent (exponent + digitCount coefficient - precision)) lowestDigit

/-- A carry can leave one digit too many, which is a zero then. -/
def carried (coefficient : Nat) (exponent : Int) : Nat × Int :=
  if precision < digitCount coefficient then (coefficient / 10, exponent + 1)
  else (coefficient, exponent)

def rounded (negative : Bool) (coefficient : Nat) (exponent : Int) : Except Trap Decimal :=
  if coefficient = 0 then .ok (finite negative 0 (min (max exponent lowestDigit) highestExponent))
  else
    let last := keptDigit coefficient exponent
    let (coefficient, exponent) := carried (shortened coefficient (last - exponent).toNat) last
    if highestExponent < firstDigit coefficient exponent then .error .overflow
    else .ok (finite negative coefficient exponent)

end RateRules.Decimal
