import RateRules.Script.Token

/-! # Reading tokens

A parser takes tokens off the front of a list or refuses them; what it leaves is the end of what it
was given. A refusal names the line that is blamed and the line of the last token that was looked
at. A broken token stops every parser, and then the end of the tokens says what is blamed. -/
namespace RateRules.Script

inductive Refusal where
  | broken
  | refused (line reach : Nat)
  deriving DecidableEq, Repr

/-- A value that was read from the front of some tokens. -/
structure Parsed (α : Type) (tokens : List Token) where
  value : α
  rest : List Token
  isSuffix : rest <:+ tokens

def Parser (α : Type) : Type := (tokens : List Token) → Except Refusal (Parsed α tokens)

/-- The line that is blamed in the end. A fault among the tokens goes before every refusal, and a
bracket left open goes before a refusal on a later line. -/
def Refusal.line (refusal : Refusal) (ending : Ending) : Nat :=
  match ending, refusal with
  | .fault line, _ => line
  | .unclosed line, .broken => line
  | .stray line _, .broken => line
  | .complete, .broken => 0
  | .unclosed opened, .refused line reach => if opened < reach then opened else line
  | .stray _ (some opened), .refused line reach => if opened < reach then opened else line
  | .stray _ none, .refused line _ => line
  | .complete, .refused line _ => line

namespace Parser

instance : Monad Parser where
  pure a := fun tokens => .ok ⟨a, tokens, List.suffix_rfl⟩
  bind p f := fun tokens =>
    match p tokens with
    | .error refusal => .error refusal
    | .ok first => match f first.value first.rest with
      | .error refusal => .error refusal
      | .ok second => .ok ⟨second.value, second.rest, second.isSuffix.trans first.isSuffix⟩

instance : MonadExcept Refusal Parser where
  throw refusal := fun _ => .error refusal
  tryCatch p handler := fun tokens =>
    match p tokens with
    | .error refusal => handler refusal tokens
    | .ok parsed => .ok parsed

/-- All tokens that are left. -/
def remaining : Parser (List Token) := fun tokens => .ok ⟨tokens, tokens, List.suffix_rfl⟩

def advance : Parser Unit := fun tokens => .ok ⟨(), tokens.tail, List.tail_suffix tokens⟩

def peek : Parser Token := do
  match ← remaining with
  | [] => throw Refusal.broken
  | t :: _ => if t.isBroken then throw Refusal.broken else return t

/-- The token behind the next one. -/
def peekSecond : Parser (Option Token) := do
  return (← remaining)[1]?

def next : Parser Token := do
  let t ← peek
  advance
  return t

/-- Refuses the next token. -/
def refuse {α : Type} : Parser α := do
  let t ← peek
  throw (Refusal.refused t.line t.line)

/-- Refuses the next token and blames an earlier line. -/
def refuseAt {α : Type} (line : Nat) : Parser α := do
  let t ← peek
  throw (Refusal.refused line t.line)

def sees (word : String) : Parser Bool := do
  return (← peek).is word

def seesOneOf (words : List String) : Parser Bool := do
  return (← peek).isOneOf words

def skip? (word : String) : Parser Bool := do
  if ← sees word then
    advance
    return true
  else return false

def expect (word : String) : Parser Unit := do
  if !(← skip? word) then refuse

def name : Parser String := do
  match (← peek).name? with
  | some word =>
    advance
    return word
  | none => refuse

/-- Goes back if `p` refuses. -/
def attempt {α : Type} (p : Parser α) : Parser (Option α) := fun tokens =>
  match p tokens with
  | .ok parsed => .ok ⟨some parsed.value, parsed.rest, parsed.isSuffix⟩
  | .error _ => .ok ⟨none, tokens, List.suffix_rfl⟩

/-- Repeats a step that carries a value on, until the step gives none. -/
def repeatFrom {α : Type} (step : α → Parser (Option α)) : Nat → α → Parser α
  | 0, a => return a
  | fuel + 1, a => do
    match ← step a with
    | some b => repeatFrom step fuel b
    | none => return a

/-- A step that takes a token each time cannot be repeated more often than there are tokens. -/
def iterate {α : Type} (step : α → Parser (Option α)) (a : α) : Parser α := do
  repeatFrom step (← remaining).length a

/-- Further items, each behind a comma. A comma before a token that starts no item is the last. -/
def furtherItems {α : Type} (starts : Token → Bool) (item : Parser α) : Parser (List α) := do
  let items ← iterate (fun items => do
    if ← skip? "," then
      if starts (← peek) then return some ((← item) :: items) else return none
    else return none) []
  return items.reverse

/-- One or more items with commas between them. -/
def itemsOf {α : Type} (item : Parser α) : Parser (List α) := do
  let first ← item
  let more ← iterate (fun items => do
    if ← skip? "," then return some ((← item) :: items) else return none) []
  return first :: more.reverse

end Parser
end RateRules.Script
