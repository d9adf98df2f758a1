import RateRules.Number.Binary
import RateRules.Decimal.Text

/-! # Shortest decimal text of a binary number

A binary number is written with the fewest digits that read back as the same number, and among
those with the digits nearest to its value. -/
namespace RateRules.Binary

/-- The two neighbours of a value on the grid of one power of ten, the nearer first; on a tie the
even one. -/
def neighbours (dividend divisor : Nat) : List Nat :=
  let below := dividend / divisor
  let near := nearest dividend divisor
  if near = below then [below, below + 1] else [below + 1, below]

/-- The power of ten of the first digit of `dividend / divisor`, which is not zero. -/
def leadingPower (dividend divisor : Nat) : Int :=
  let guess : Int := (digitCount dividend : Int) - digitCount divisor
  if divisor * powerOfTen guess.toNat ≤ dividend * powerOfTen (-guess).toNat then guess
  else guess - 1

/-- The digits and the power of ten of the last of them, with `count` digits, if they read back. -/
def digitsWith? (mantissa : Nat) (power : Int) (dividend divisor : Nat) (count : Nat) :
    Option (Nat × Int) :=
  let last := leadingPower dividend divisor - count + 1
  let candidates :=
    neighbours (dividend * powerOfTen (-last).toNat) (divisor * powerOfTen last.toNat)
  (candidates.find? fun n => ofDecimal (.finite false n last) == finite false mantissa power).map
    (·, last)

/-- Fewest digits that read back; 17 always do. -/
def shortestDigits (mantissa : Nat) (power : Int) : Nat × Int :=
  let dividend := mantissa * powerOfTwo power.toNat
  let divisor := powerOfTwo (-power).toNat
  ((List.range' 1 17).findSome? (digitsWith? mantissa power dividend divisor)).getD (mantissa, 0)

/-- Digits with a point or a power of ten: the power is written below -4 and from 16 on, with two
digits at least. -/
def digitsText (wholeMark : Bool) (digits : List Char) (power : Int) : List Char :=
  if -4 ≤ power ∧ power < 16 then
    if (digits.length : Int) ≤ power + 1 then
      digits ++ Decimal.zeroChars (power + 1 - digits.length).toNat ++
        (if wholeMark then ['.', '0'] else [])
    else Decimal.pointed digits (digits.length - 1 - power).toNat
  else
    let powerDigits := Nat.toDigits 10 power.natAbs
    (match digits with
      | [] => []
      | [digit] => [digit]
      | digit :: more => digit :: '.' :: more)
    ++ 'e' :: (if power < 0 then '-' else '+') :: Decimal.zeroChars (2 - powerDigits.length) ++
      powerDigits

/-- The text of a number. With `wholeMark` a whole number ends with a point and a zero. -/
def textWith (wholeMark : Bool) : Binary → String
  | finite negative mantissa power =>
    let (number, last) := if mantissa = 0 then (0, 0) else shortestDigits mantissa power
    let all := Nat.toDigits 10 number
    let digits := if number = 0 then all else (all.reverse.dropWhile (· == '0')).reverse
    String.ofList (Decimal.sign negative ++ digitsText wholeMark digits (last + all.length - 1))
  | infinite negative => if negative then "-inf" else "inf"
  | undefined => "nan"

def text : Binary → String := textWith true

end RateRules.Binary
