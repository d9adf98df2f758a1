import RateRules.Script.Token
import RateRules.Text.Quoted

/-! # What quoted texts stand for

A backslash starts an escape, unless the text is raw. A backslash before a line feed stands for
nothing, and one before a character that is no escape stands for itself. A text is a list of code
points, since an escape may name one that is no character; escapes by name are refused. -/
namespace RateRules.Script.Literal

def highestCode : Nat := 0x10FFFF

/-- Escapes of one character. -/
def simpleEscapes : List (Char × Nat) :=
  [('\\', 92), ('\'', 39), ('"', 34), ('a', 7), ('b', 8), ('f', 12), ('n', 10), ('r', 13), ('t', 9),
   ('v', 11)]

def isHex (c : Char) : Bool := c.isDigit || ('a' ≤ c && c ≤ 'f') || ('A' ≤ c && c ≤ 'F')

def isOctal (c : Char) : Bool := '0' ≤ c && c ≤ '7'

def hexValue (cs : List Char) : Nat :=
  cs.foldl (fun n c => 16 * n + (if c.isDigit then c.toNat - 48 else c.toLower.toNat - 87)) 0

def octalValue (cs : List Char) : Nat := cs.foldl (fun n c => 8 * n + (c.toNat - 48)) 0

/-- Exactly `count` hexadecimal digits. -/
def hexCode? (count : Nat) (cs : List Char) : Option Nat :=
  let digits := cs.take count
  if digits.length = count && digits.all isHex then some (hexValue digits) else none

/-- The code points of an escape and how many characters it has behind its backslash. -/
def escape? (bytes : Bool) (c : Char) (rest : List Char) : Option (List Nat × Nat) :=
  if c = '\n' then some ([], 1)
  else match simpleEscapes.lookup c with
    | some code => some ([code], 1)
    | none =>
      if isOctal c then
        let digits := c :: (rest.take 2).takeWhile isOctal
        let code := octalValue digits
        some ([if bytes then code % 256 else code], digits.length)
      else if c = 'x' then (hexCode? 2 rest).map fun code => ([code], 3)
      else if bytes then some ([92, c.toNat], 1)
      else if c = 'u' then (hexCode? 4 rest).map fun code => ([code], 5)
      else if c = 'U' then
        (hexCode? 8 rest).bind fun code => if code ≤ highestCode then some ([code], 9) else none
      else if c = 'N' then none
      else some ([92, c.toNat], 1)

/-- The code points of a text with escapes. -/
def unescaped? (bytes : Bool) : List Char → Option (List Nat)
  | [] => some []
  | '\\' :: c :: rest => do
    let (codes, length) ← escape? bytes c rest
    return codes ++ (← unescaped? bytes ((c :: rest).drop length))
  | c :: rest => (unescaped? bytes rest).map (c.toNat :: ·)
termination_by cs => cs.length
decreasing_by all_goals (simp only [List.length_cons, List.length_drop]; omega)

def codes? (q : Quotation) : Option (List Nat) :=
  if q.raw then some (q.body.map Char.toNat) else unescaped? q.bytes q.body

/-- Texts of bytes hold ASCII alone. -/
def isPlain (q : Quotation) : Bool := !q.bytes || q.body.all (·.toNat < 128)

def shown (bytes : Bool) (codes : List Nat) : String :=
  if bytes then Text.quoteBytes codes else Text.quoteCodes codes

end RateRules.Script.Literal
