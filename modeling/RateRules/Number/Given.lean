import RateRules.Number.Binary
import RateRules.Decimal.Reader

/-! # Numbers as they are given

A rate or a multiplier may be given as a decimal, a text, a whole or a binary number, or not at
all. -/
namespace RateRules

inductive Given where
  | decimal (d : Decimal)
  | text (s : String)
  | whole (z : Int)
  | binary (x : Binary)
  | absent
  | foreign
  deriving DecidableEq, Repr

/-- Why a given number is no decimal: its text cannot be read, or it is no number at all. -/
inductive NotDecimal where
  | unreadable
  | noNumber
  deriving DecidableEq, Repr

def Given.toDecimal : Given → Except NotDecimal Decimal
  | decimal d => .ok d
  | text s => match Decimal.ofText? s with
    | some d => .ok d
    | none => .error .unreadable
  | whole z => .ok (Decimal.ofInt z)
  | binary x => .ok x.toDecimal
  | absent => .error .noNumber
  | foreign => .error .noNumber

end RateRules
