import RateRules.Script.Token
import RateRules.Script.Token.Number
import RateRules.Text.Composed
import RateRules.Text.Identifier

/-! # Splitting a text into tokens

Tokens are as long as they can be. Line feeds end a line of the script unless a bracket is open
or the line has no token; a backslash before a line feed joins two lines. -/
namespace RateRules.Script

/-- What starts at a character: a token with the number of its further characters. -/
structure Found where
  lexeme : Lexeme
  more : Nat

def wordAt? (c : Char) (rest : List Char) : Option Found :=
  let more := (rest.takeWhile isWordChar).length
  let cs := c :: rest.take more
  let word := String.ofList cs
  if keywords.contains word then some ⟨.keyword word, more⟩
  else if cs.all (·.toNat < 128) || Text.isIdentifier cs then
    some ⟨.name (Text.composed word), more⟩
  else none

/-- How many letters stand before the quote of a text that starts here. -/
def prefixLength (cs : List Char) : Option Nat :=
  let isQuote (c : Char) : Bool := c == '\'' || c == '"'
  match cs with
  | q :: rest =>
    if isQuote q then some 0
    else match rest with
      | r :: more =>
        if isQuote r && ['b', 'r', 'u', 'f'].contains q.toLower then some 1
        else if more.head?.any isQuote
            && [['b', 'r'], ['r', 'b'], ['f', 'r'], ['r', 'f']].contains [q.toLower, r.toLower] then
          some 2
        else none
      | [] => none
  | [] => none

/-- The characters of a text up to its quote, with the quote. It must not reach over a line. -/
def quotedLength? (quote : Char) : List Char → Option Nat
  | [] => none
  | '\\' :: _ :: rest => (quotedLength? quote rest).map (· + 2)
  | c :: rest =>
    if c = quote then some 1
    else if c = '\n' then none
    else (quotedLength? quote rest).map (· + 1)

/-- The characters of a text up to its three quotes, with the quotes. -/
def tripleLength? (quote : Char) : List Char → Option Nat
  | [] => none
  | '\\' :: _ :: rest => (tripleLength? quote rest).map (· + 2)
  | c :: rest =>
    if c = quote && rest.take 2 == [quote, quote] then some 3
    else (tripleLength? quote rest).map (· + 1)

/-- A text behind `before` letters and its first quote. -/
def quotationAt? (letters : List Char) (quote : Char) (rest : List Char) : Option Found := do
  let has (letter : Char) : Bool := (letters.map Char.toLower).contains letter
  let found (body : List Char) (more : Nat) : Found :=
    ⟨.quotation ⟨has 'b', has 'r', has 'f', body⟩, letters.length + more⟩
  if rest.take 2 == [quote, quote] then
    let inner := rest.drop 2
    let n ← tripleLength? quote inner
    return found (inner.take (n - 3)) (2 + n)
  else
    let n ← quotedLength? quote rest
    return found (rest.take (n - 1)) n

def longSigns : List String := ["**=", "//=", "<<=", ">>=", "..."]

def doubleSigns : List String :=
  ["!=", "%=", "&=", "**", "*=", "+=", "-=", "->", "//", "/=", ":=", "<<", "<=", "<>", "==", ">=",
   ">>", "@=", "^=", "|="]

def signAt (c : Char) (rest : List Char) : Found :=
  let three := String.ofList (c :: rest.take 2)
  let two := String.ofList (c :: rest.take 1)
  if longSigns.contains three then ⟨.sign three, 2⟩
  else if doubleSigns.contains two then ⟨.sign two, 1⟩
  else ⟨.sign (String.singleton c), 0⟩

/-- The token that starts with `c`, if one may. -/
def lexemeAt? (c : Char) (rest : List Char) : Option Found :=
  match prefixLength (c :: rest) with
  | some n =>
    let cs := c :: rest
    match cs.drop n with
    | quote :: after => quotationAt? (cs.take n) quote after
    | [] => none
  | none =>
    if isWordStart c then wordAt? c rest
    else if Text.isDigit c then
      (numberLength? c rest).map fun n => ⟨.number (String.ofList (c :: rest.take n)), n⟩
    else if c = '.' && rest.head?.any Text.isDigit then
      (fractionLength? rest).map fun n => ⟨.number (String.ofList (c :: rest.take n)), n⟩
    else if c.toNat < 32 || c.toNat = 127 then none
    else some (signAt c rest)

/-- The open brackets with the lines they stand on, the innermost first. -/
abbrev Opened := List (Char × Nat)

def maxOpened : Nat := 200

def closes (opening closing : Char) : Bool :=
  (opening, closing) == ('(', ')') || (opening, closing) == ('[', ']') ||
    (opening, closing) == ('\x7b', '\x7d')

/-- The open brackets behind a token, unless it closes what is not open or opens too many. -/
def Opened.after? (opened : Opened) (line : Nat) : Lexeme → Option Opened
  | .sign text =>
    match text.toList with
    | [c] =>
      if c = '(' || c = '[' || c = '\x7b' then
        if maxOpened ≤ opened.length then none else some ((c, line) :: opened)
      else if c = ')' || c = ']' || c = '\x7d' then
        match opened with
        | (opening, _) :: outer => if closes opening c then some outer else none
        | [] => none
      else some opened
    | _ => some opened
  | _ => some opened

/-- The line that a text ends on; a line feed at its end starts no line. -/
def lastLine (place : Place) : Nat := if place.column = 0 then place.line - 1 else place.line

def Lexed.stop (lexeme : Lexeme) (place : Place) (opened : Opened) (ending : Ending) : Lexed :=
  ⟨[⟨lexeme, place, opened.length⟩], ending⟩

/-- The tokens from `place` on. `fresh` says that the line has no token so far. -/
def scanFrom (opened : Opened) (fresh : Bool) (place : Place) : List Char → Lexed
  | [] =>
    match opened with
    | [] => .stop .textEnd ⟨lastLine place, place.column⟩ [] .complete
    | (_, line) :: _ => .stop .broken ⟨line, 0⟩ opened (.unclosed line)
  | c :: rest =>
    if c = ' ' || c = '\t' || c = '\x0c' then scanFrom opened fresh (place.after [c]) rest
    else if c = '#' then
      let n := (rest.takeWhile (· ≠ '\n')).length
      scanFrom opened fresh (place.after (c :: rest.take n)) (rest.drop n)
    else if c = '\n' then
      if fresh || !opened.isEmpty then scanFrom opened fresh (place.after [c]) rest
      else
        let after := scanFrom opened true (place.after [c]) rest
        ⟨⟨.lineEnd, place, 0⟩ :: after.tokens, after.ending⟩
    else if c = '\\' then
      match rest with
      | '\n' :: more =>
        if more.isEmpty then
          match opened with
          | [] => .stop .broken place [] (.stray place.line none)
          | (_, line) :: _ => .stop .broken place opened (.unclosed line)
        else scanFrom opened fresh (place.after [c, '\n']) more
      | _ => .stop .broken place opened (.stray place.line (opened.head?.map (·.2)))
    else
      match lexemeAt? c rest with
      | none => .stop .broken place opened (.fault place.line)
      | some found =>
        match opened.after? place.line found.lexeme with
        | none => .stop .broken place opened (.fault place.line)
        | some inner =>
          let after :=
            scanFrom inner false (place.after (c :: rest.take found.more)) (rest.drop found.more)
          ⟨⟨found.lexeme, place, inner.length⟩ :: after.tokens, after.ending⟩
termination_by cs => cs.length
decreasing_by all_goals (simp only [List.length_cons, List.length_drop]; omega)

/-- The tokens of a text whose first line is `line`. -/
def scan (line : Nat) (cs : List Char) : Lexed := scanFrom [] true ⟨line, 0⟩ cs

end RateRules.Script
