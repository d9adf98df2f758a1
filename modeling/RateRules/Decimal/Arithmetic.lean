import RateRules.Decimal.Context

/-! # Arithmetic of decimals

Each operation works out the exact result, or one that rounds the same, and rounds it once. -/
namespace RateRules.Decimal

/-- The undefined result that stays when one of the operands is undefined. -/
def undefinedResult? : List Decimal → Option (Except Trap Decimal)
  | operands =>
    if operands.any isSignaling then some (.error .invalid)
    else operands.findSome? fun
      | undefined negative _ payload =>
        some (.ok (undefined negative false (payload % powerOfTen precision)))
      | _ => none

/-- Flips the sign. Zero has no sign afterwards. -/
def negate (a : Decimal) : Except Trap Decimal :=
  match undefinedResult? [a] with
  | some result => result
  | none => match a with
    | finite negative coefficient exponent =>
      rounded (!negative && coefficient != 0) coefficient exponent
    | infinite negative => .ok (infinite !negative)
    | undefined .. => .error .invalid

/-- The exponent at which a number too small to reach the kept digits of a sum can be replaced
by one unit. -/
def sumFloor (coefficient : Nat) (exponent : Int) : Int :=
  exponent - 1 +
    (if precision < digitCount coefficient then 0
     else (digitCount coefficient : Int) - precision - 1)

/-- The sum of two finite numbers with `exponent₂ ≤ exponent₁`. -/
def sumAligned (negative₁ : Bool) (coefficient₁ : Nat) (exponent₁ : Int)
    (negative₂ : Bool) (coefficient₂ : Nat) (exponent₂ : Int) : Except Trap Decimal :=
  let floor := sumFloor coefficient₁ exponent₁
  let (coefficient₂, exponent₂) :=
    if coefficient₁ ≠ 0 ∧ firstDigit coefficient₂ exponent₂ < floor then
      (if coefficient₂ = 0 then 0 else 1, floor)
    else (coefficient₂, exponent₂)
  let coefficient₁ :=
    if coefficient₁ = 0 then 0 else coefficient₁ * powerOfTen (exponent₁ - exponent₂).toNat
  if negative₁ = negative₂ then rounded negative₁ (coefficient₁ + coefficient₂) exponent₂
  else if coefficient₁ < coefficient₂ then rounded negative₂ (coefficient₂ - coefficient₁) exponent₂
  else if coefficient₂ < coefficient₁ then rounded negative₁ (coefficient₁ - coefficient₂) exponent₂
  else rounded false 0 exponent₂

def add (a b : Decimal) : Except Trap Decimal :=
  match undefinedResult? [a, b] with
  | some result => result
  | none => match a, b with
    | finite n₁ c₁ e₁, finite n₂ c₂ e₂ =>
      if e₂ ≤ e₁ then sumAligned n₁ c₁ e₁ n₂ c₂ e₂ else sumAligned n₂ c₂ e₂ n₁ c₁ e₁
    | infinite n₁, infinite n₂ => if n₁ = n₂ then .ok (infinite n₁) else .error .invalid
    | infinite n₁, _ => .ok (infinite n₁)
    | _, infinite n₂ => .ok (infinite n₂)
    | _, _ => .error .invalid

def opposite : Decimal → Decimal
  | finite negative coefficient exponent => finite (!negative) coefficient exponent
  | infinite negative => infinite !negative
  | undefined negative signaling payload => undefined negative signaling payload

def sub (a b : Decimal) : Except Trap Decimal := add a (opposite b)

def mul (a b : Decimal) : Except Trap Decimal :=
  match undefinedResult? [a, b] with
  | some result => result
  | none =>
    let negative := a.isNegative != b.isNegative
    match a, b with
    | finite _ c₁ e₁, finite _ c₂ e₂ => rounded negative (c₁ * c₂) (e₁ + e₂)
    | _, _ => if a.isZero || b.isZero then .error .invalid else .ok (infinite negative)

/-- A coefficient without trailing zeros, as long as its exponent stays within `ideal`. -/
def withoutZeros (ideal : Int) (coefficient : Nat) (exponent : Int) : Nat × Int :=
  if h : coefficient ≠ 0 ∧ coefficient % 10 = 0 ∧ exponent < ideal then
    withoutZeros ideal (coefficient / 10) (exponent + 1)
  else (coefficient, exponent)
termination_by coefficient
decreasing_by omega

/-- The quotient of two finite numbers, the second not zero. One digit more than is kept is
worked out; if a remainder is left, the last digit shows that there is more behind it. -/
def quotient (negative : Bool) (c₁ : Nat) (e₁ : Int) (c₂ : Nat) (e₂ : Int) : Except Trap Decimal :=
  let ideal := e₁ - e₂
  if c₁ = 0 then rounded negative 0 ideal
  else
    let shift : Int := (digitCount c₂ : Int) - digitCount c₁ + precision + 1
    let dividend := c₁ * powerOfTen shift.toNat
    let divisor := c₂ * powerOfTen (-shift).toNat
    let whole := dividend / divisor
    if dividend % divisor = 0 then
      let (coefficient, exponent) := withoutZeros ideal whole (ideal - shift)
      rounded negative coefficient exponent
    else rounded negative (if whole % 5 = 0 then whole + 1 else whole) (ideal - shift)

/-- The quotient of two numbers. A divisor of zero is left to the caller and has no quotient
here. -/
def div (a b : Decimal) : Except Trap Decimal :=
  match undefinedResult? [a, b] with
  | some result => result
  | none =>
    let negative := a.isNegative != b.isNegative
    match a, b with
    | finite _ c₁ e₁, finite _ c₂ e₂ =>
      if c₂ = 0 then .error .invalid else quotient negative c₁ e₁ c₂ e₂
    | finite .., _ => .ok (finite negative 0 lowestDigit)
    | infinite _, finite .. => .ok (infinite negative)
    | _, _ => .error .invalid

end RateRules.Decimal
