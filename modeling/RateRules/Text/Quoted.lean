import RateRules.Text.PrintableTable

/-! # Quoted text

A quoted text stands between single quotes, or between double quotes when it holds single
quotes and no double ones. The quote and the backslash are escaped, and so is every character
without a printed shape. Code points are numbers here, since an escaped text may name one that
is no character. -/
namespace RateRules.Text

def hexDigits (width n : Nat) : List Char :=
  let digits := Nat.toDigits 16 n
  List.replicate (width - digits.length) '0' ++ digits

def isPrinted (code : Nat) : Bool :=
  if code < 128 then 32 ≤ code && code < 127
  else code.isValidChar && !unprintable.has (Char.ofNat code)

/-- The quote that needs fewer escapes. -/
def quoteFor (codes : List Nat) : Char :=
  if codes.contains 39 && !codes.contains 34 then '"' else '\''

/-- One code point inside quotes. -/
def escape (quote : Char) (code : Nat) : List Char :=
  if code = quote.toNat || code = 92 then ['\\', Char.ofNat code]
  else if code = 9 then ['\\', 't']
  else if code = 10 then ['\\', 'n']
  else if code = 13 then ['\\', 'r']
  else if isPrinted code then [Char.ofNat code]
  else if code < 0x100 then ['\\', 'x'] ++ hexDigits 2 code
  else if code < 0x10000 then ['\\', 'u'] ++ hexDigits 4 code
  else ['\\', 'U'] ++ hexDigits 8 code

def quoteCodes (codes : List Nat) : String :=
  let quote := quoteFor codes
  String.ofList ([quote] ++ codes.flatMap (escape quote) ++ [quote])

def quote (s : String) : String := quoteCodes (s.toList.map Char.toNat)

/-- Bytes are quoted after the letter `b`, and all beyond ASCII is escaped. -/
def quoteBytes (bytes : List Nat) : String :=
  let quote := quoteFor bytes
  let one (byte : Nat) := if byte < 128 then escape quote byte else ['\\', 'x'] ++ hexDigits 2 byte
  String.ofList (['b', quote] ++ bytes.flatMap one ++ [quote])

end RateRules.Text
