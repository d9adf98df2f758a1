import RateRules.Text.CaseTable

/-! # Small letters

The small form of a text. A capital sigma becomes a final sigma after a letter with case, if
no letter with case follows; marks in between do not count. -/
namespace RateRules.Text

def smallLetter (c : Char) : Char :=
  if c.toNat < 128 then c.toLower
  else match smallOffsets.find? fun (first, last, step, _) =>
      first ≤ c.toNat && c.toNat ≤ last && (c.toNat - first) % step == 0 with
    | some (_, _, _, offset) => Char.ofNat ((c.toNat : Int) + offset).toNat
    | none => c

def nextToCased (cs : List Char) : Bool :=
  (cs.dropWhile caseless.has).head?.any cased.has

/-- Small letters of `cs`, where `before` holds the characters already passed, nearest first. -/
def smallAfter (before : List Char) : List Char → List Char
  | [] => []
  | c :: rest =>
    let small :=
      if c = 'İ' then ['i', '\u0307']
      else if c = 'Σ' then [if nextToCased before && !nextToCased rest then 'ς' else 'σ']
      else [smallLetter c]
    small ++ smallAfter (c :: before) rest

def small (s : String) : String := String.ofList (smallAfter [] s.toList)

end RateRules.Text
