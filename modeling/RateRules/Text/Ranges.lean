/-! # Sets of characters

A set of characters is a list of ranges of code points, both ends included. -/
namespace RateRules.Text

abbrev Ranges := List (Nat × Nat)

def Ranges.has (ranges : Ranges) (c : Char) : Bool :=
  ranges.any fun (first, last) => first ≤ c.toNat && c.toNat ≤ last

end RateRules.Text
