import RateRules.Number.Shortest
import RateRules.Decimal.Reader
import RateRules.Script.Grammar
import RateRules.Script.Grammar.Template
import RateRules.Script.Token.Scan
import RateRules.Script.Tree

/-! # Grammar of expressions

Every level of the grammar is a parser that is given the parser of all levels for what stands
inside it, so that only the last definitions tie the knot. A level asks for a level inside it
after it has taken a token, which bounds how deep they nest.

Where a part of the text can be read as an expression but does not fit where it stands, the line
of its start is blamed; otherwise the line of the first token that does not fit. -/
namespace RateRules.Script

/-- From the loosest to the tightest. -/
inductive Level where
  | expression
  | disjunction
  | inversion
  | bitOr
  | factor
  | primary
  deriving DecidableEq, Repr

namespace Grammar

open RateRules.Script.Parser

abbrev Inner := Level → Parser Tree

def startsExpression (t : Token) : Bool :=
  match t.lexeme with
  | .name _ => true
  | .number _ => true
  | .quotation _ => true
  | .keyword word => ["True", "False", "None", "not", "lambda", "await"].contains word
  | .sign text => ["(", "[", "\x7b", "+", "-", "~", "..."].contains text
  | _ => false

/-- The token starts an expression and cannot go on with one. -/
def standsAlone (t : Token) : Bool :=
  match t.lexeme with
  | .sign text => ["\x7b", "~", "..."].contains text
  | _ => startsExpression t

def startsItem (t : Token) : Bool := t.is "*" || startsExpression t

def startsComprehension (t : Token) : Bool := t.is "for" || t.is "async"

def isSoftKeyword (word : String) : Bool := ["_", "match", "case"].contains word

def starred (inner : Inner) (level : Level) : Parser Tree := do
  let star ← next
  return .starred star.place (← inner level)

/-- One tree stands for itself, more of them or one with a comma for a tuple. -/
def tupleOf (starts : Token → Bool) (item : Parser Tree) : Parser Tree := do
  let start := (← peek).place
  let first ← item
  if ← sees "," then
    return .tuple start (first :: (← furtherItems starts item))
  else return first

def starExpressionsWith (expression : Parser Tree) (inner : Inner) : Parser Tree :=
  tupleOf startsItem do
    if ← sees "*" then starred inner .bitOr else expression

/-- Expressions behind a token that was taken. -/
def starExpressions (inner : Inner) : Parser Tree := starExpressionsWith (inner .expression) inner

def yieldExpression (inner : Inner) : Parser Tree := do
  let start := (← next).place
  if ← skip? "from" then
    let _ ← inner .expression
    return .foreign start .yieldedFrom
  else
    if startsItem (← peek) then
      let _ ← starExpressions inner
    return .foreign start .yielded

def yieldOrExpressions (inner : Inner) : Parser Tree := do
  if ← sees "yield" then yieldExpression inner else starExpressions inner

/-- What an equals sign can be mistaken for an assignment to. -/
def isAssignable : Tree → Bool
  | .tuple .. => false
  | .list .. => false
  | .literal _ shown => !(["True", "False", "None"].contains shown)
  | .unary _ (.error _) _ => false
  | .foreign _ construct =>
    !([Construct.generator, .listComprehension, .conditional, .function, .boolean,
       .comparison].contains construct)
  | _ => true

/-- Refuses an assignment where only a value may stand. -/
def refuseAssignment (inner : Inner) (t : Tree) : Parser Unit := do
  if ← sees ":=" then
    let sign ← peek
    advance
    match ← attempt (inner .expression) with
    | some _ => refuseAt t.place.line
    | none => throw (.refused sign.line sign.line)
  else if (← sees "=") && isAssignable t then
    let sign ← peek
    advance
    match ← attempt (inner .bitOr) with
    | some _ =>
      if ← seesOneOf ["=", ":="] then throw (.refused sign.line sign.line)
      else refuseAt t.place.line
    | none => throw (.refused sign.line sign.line)

/-- An expression that has a name before it, if a name and a colon with an equals sign come next. -/
def nameBefore? (inner : Inner) : Parser (Option Tree) := do
  let first ← peek
  if first.name?.isSome && (← peekSecond).any (·.is ":=") then
    advance
    advance
    let _ ← inner .expression
    return some (.foreign first.place .named)
  else return none

def namedWith (expression : Parser Tree) (inner : Inner) : Parser Tree := do
  match ← nameBefore? inner with
  | some t => return t
  | none =>
    let t ← expression
    refuseAssignment inner t
    return t

def named (inner : Inner) : Parser Tree := namedWith (inner .expression) inner

def starNamed (inner : Inner) : Parser Tree := do
  if ← sees "*" then starred inner .bitOr else named inner

/-- What stands before a parameter: nothing yet, a default value, or a star. -/
structure Parameters where
  withDefault : Bool
  starred : Bool
  /-- The star has no name, so that another parameter has to follow. -/
  bare : Bool
  slashed : Bool
  count : Nat

def annotation (inner : Inner) (annotated : Bool) : Parser Unit := do
  if annotated then
    if ← skip? ":" then
      let _ ← inner .expression

/-- One parameter, or nothing where no parameter starts. -/
def parameter? (inner : Inner) (annotated : Bool) (ps : Parameters) :
    Parser (Option (Parameters × Bool)) := do
  let t ← peek
  if t.name?.isSome then
    advance
    annotation inner annotated
    let withDefault ← skip? "="
    if withDefault then
      let _ ← inner .expression
    if ps.withDefault && !withDefault && !ps.starred then refuse
    return some
      ({ ps with
        withDefault := ps.withDefault || withDefault
        bare := false
        count := ps.count + 1 }, true)
  else if t.is "/" then
    if ps.starred || ps.slashed || ps.count = 0 then refuse
    advance
    return some ({ ps with slashed := true }, true)
  else if t.is "*" then
    if ps.starred then refuse
    advance
    if (← peek).name?.isSome then
      advance
      if annotated then
        if ← skip? ":" then
          if ← sees "*" then
            let _ ← starred inner .bitOr
          else
            let _ ← inner .expression
      return some ({ ps with starred := true }, true)
    else if (← sees ",") then return some ({ ps with starred := true, bare := true }, true)
    else refuse
  else if t.is "**" then
    if ps.bare then refuse
    advance
    let _ ← name
    annotation inner annotated
    return some (ps, false)
  else return none

/-- Parameters up to the sign that ends them. -/
def parameters (inner : Inner) (annotated : Bool) (closing : String) : Parser Unit := do
  let last ← iterate (fun (ps, more) => do
    if !more || (← sees closing) then return none
    else
      match ← parameter? inner annotated ps with
      | none => refuse
      | some (ps, more) =>
        if ← skip? "," then return some (ps, more) else return some (ps, false))
    (Parameters.mk false false false false 0, true)
  if last.1.bare then refuse

def refuseTarget (t : Tree) : Parser Unit := do
  match t.badTarget? with
  | some bad => refuseAt bad.place.line
  | none => return ()

/-- What is assigned to in each round. -/
def roundTargets (inner : Inner) : Parser Tree := do
  let t ← tupleOf startsItem do
    if ← sees "*" then starred inner .bitOr else inner .bitOr
  refuseTarget t
  return t

def comprehension (inner : Inner) : Parser Unit := do
  iterate (fun _ => do
    if startsComprehension (← peek) then
      let _ ← skip? "async"
      expect "for"
      let _ ← roundTargets inner
      expect "in"
      let _ ← inner .disjunction
      iterate (fun _ => do
        if ← skip? "if" then
          let _ ← inner .disjunction
          return some ()
        else return none) ()
      return some ()
    else return none) ()

/-- Whole numbers have a limit for their digits, unless they start with a zero. -/
def maxWholeDigits : Nat := 4300

def isTooLong (text : String) : Bool :=
  let digits := text.toList.filter (· ≠ '_')
  digits.all Char.isDigit && digits.head? ≠ some '0' && maxWholeDigits < digits.length

def isImaginary (text : String) : Bool := text.toList.getLast?.any fun c => c == 'j' || c == 'J'

/-- The imaginary part as it is shown. -/
def imaginaryText (text : String) : String :=
  let digits := text.toList.dropLast
  match Decimal.ofText? (String.ofList digits) with
  | some d => (Binary.ofDecimal d).textWith false ++ "j"
  | none => text

def number (t : Token) (text : String) : Parser Tree := do
  if isTooLong text then refuse
  else
    advance
    return if isImaginary text then .literal t.place (imaginaryText text) else .number t.place text

/-- The expression of a field, which is read like one in parentheses. -/
def field (inner : Inner) (line : Nat) (f : Field) : Parser Unit := do
  let scanned := scan (line + f.linesBefore) ('(' :: f.text ++ [')', '\n'])
  match (inner .primary) scanned.tokens with
  | .ok _ => return ()
  | .error refusal => refuseAt (refusal.line scanned.ending)

def template (inner : Inner) (t : Token) (q : Quotation) : Parser Unit := do
  let template := Template.ofQuotation q
  for f in template.fields do
    field inner t.line f
  if template.rest?.isNone then refuse

/-- Texts that follow one another, which are one text. -/
def quotationRun : Parser (List (Token × Quotation)) := do
  let run ← iterate (fun run => do
    let t ← peek
    match t.lexeme with
    | .quotation q =>
      advance
      return some ((t, q) :: run)
    | _ => return none) []
  return run.reverse

def quotationFrom (inner : Inner) (start : Place) (bytes : Bool) :
    List (Token × Quotation) → Bool → List Nat → Parser Tree
  | [], templated, codes =>
    return if templated then .foreign start .template
    else .literal start (Literal.shown bytes codes)
  | (t, q) :: more, templated, codes => do
    if !Literal.isPlain q then refuseAt t.line
    match if q.formatted then some [] else Literal.codes? q with
    | none => refuse
    | some found =>
      if q.bytes ≠ bytes then refuse
      if q.formatted then template inner t q
      quotationFrom inner start bytes more (templated || q.formatted) (codes ++ found)

def quotations (inner : Inner) : Parser Tree := do
  match ← quotationRun with
  | [] => refuse
  | (t, q) :: more => quotationFrom inner t.place q.bytes ((t, q) :: more) false []

/-- What stands behind an opening parenthesis. -/
def group (inner : Inner) (start : Place) : Parser Tree := do
  if ← skip? ")" then return .tuple start []
  else if ← sees "yield" then
    let t ← yieldExpression inner
    expect ")"
    return t
  else
    let first ← starNamed inner
    let after ← peek
    if after.is "," then
      let items := first :: (← furtherItems startsItem (starNamed inner))
      if startsComprehension (← peek) then refuse
      expect ")"
      return .tuple start items
    else if startsComprehension after then
      if first.isStarred then refuseAt first.place.line
      comprehension inner
      expect ")"
      return .foreign start .generator
    else
      if first.isStarred && after.is ")" then refuseAt first.place.line
      expect ")"
      return first

/-- The items of a list or a set up to their closing bracket, or `none` for a comprehension. -/
def displayItems? (inner : Inner) (first : Tree) (closing : String) :
    Parser (Option (List Tree)) := do
  if startsComprehension (← peek) then
    if first.isStarred then refuseAt first.place.line
    comprehension inner
    expect closing
    return none
  else
    let more ← furtherItems startsItem (starNamed inner)
    if startsComprehension (← peek) then refuseAt first.place.line
    expect closing
    return some (first :: more)

def listDisplay (inner : Inner) (start : Place) : Parser Tree := do
  if ← skip? "]" then return .list start []
  else
    let first ← starNamed inner
    match ← displayItems? inner first "]" with
    | some items => return .list start items
    | none => return .foreign start .listComprehension

def entryValue (inner : Inner) : Parser Unit := do
  let colon ← peek
  advance
  if (← seesOneOf ["\x7d", ","]) then refuseAt colon.line
  if (← sees "*") then refuse
  let _ ← inner .expression

/-- A further entry of a dictionary. -/
def entry (inner : Inner) : Parser Unit := do
  if ← skip? "**" then
    let _ ← inner .bitOr
  else
    let start ← peek
    let _ ← inner .expression
    if !(← sees ":") then refuseAt start.line
    entryValue inner

def dictionary (inner : Inner) (start : Place) : Parser Tree := do
  let _ ← furtherItems (fun t => t.is "**" || startsExpression t) (entry inner)
  expect "\x7d"
  return .foreign start .dictionary

def braceDisplay (inner : Inner) (start : Place) : Parser Tree := do
  if ← skip? "\x7d" then return .foreign start .dictionary
  else if ← skip? "**" then
    let _ ← inner .bitOr
    dictionary inner start
  else
    let first ← starNamed inner
    if (← sees ":") && !first.isStarred then
      entryValue inner
      if startsComprehension (← peek) then
        comprehension inner
        expect "\x7d"
        return .foreign start .dictionaryComprehension
      else dictionary inner start
    else
      match ← displayItems? inner first "\x7d" with
      | some _ => return .foreign start .set
      | none => return .foreign start .setComprehension

def atom (inner : Inner) : Parser Tree := do
  let t ← peek
  match t.lexeme with
  | .name word =>
    advance
    return .name t.place word
  | .number text => number t text
  | .quotation _ => quotations inner
  | .keyword word =>
    if ["True", "False", "None"].contains word then
      advance
      return .literal t.place word
    else refuse
  | .sign "(" =>
    advance
    group inner t.place
  | .sign "[" =>
    advance
    listDisplay inner t.place
  | .sign "\x7b" =>
    advance
    braceDisplay inner t.place
  | .sign "..." =>
    advance
    return .literal t.place "Ellipsis"
  | _ => refuse

/-- The arguments read so far, the newest first. -/
structure Arguments where
  args : List Tree
  named : Bool
  doubled : Bool
  start : Option Place
  /-- No further argument may follow. -/
  closed : Bool

/-- An argument without a name in front of it. -/
def plainArgument (inner : Inner) (bracket : Place) (read : Arguments) : Parser Arguments := do
  let first ← peek
  let t ← match ← nameBefore? inner with
    | some t => pure t
    | none => inner .expression
  if ← sees "=" then refuseAt first.line
  let isGenerator := startsComprehension (← peek)
  if isGenerator then
    comprehension inner
    if !(read.start.isNone && (← sees ")")) then refuseAt first.line
  if read.named then refuse
  let arg := if isGenerator then .foreign bracket .generator else t
  return { read with args := arg :: read.args, closed := isGenerator }

def argument (inner : Inner) (bracket : Place) (read : Arguments) : Parser Arguments := do
  let t ← peek
  let isNamed := (← peekSecond).any (·.is "=")
  if ← skip? "**" then
    let _ ← inner .expression
    return { read with named := true, doubled := true }
  else if t.is "*" then
    if read.doubled then refuseAt ((read.start.getD t.place).line)
    let arg ← starred inner .expression
    return { read with args := arg :: read.args }
  else if isNamed && t.name?.isSome then
    advance
    advance
    let _ ← inner .expression
    if startsComprehension (← peek) then refuseAt t.line
    return { read with named := true }
  else if isNamed && t.isOneOf ["True", "False", "None"] then refuseAt t.line
  else plainArgument inner bracket read

/-- The arguments of a call up to the closing parenthesis, and whether some have names. -/
def arguments (inner : Inner) (bracket : Place) : Parser (List Tree × Bool) := do
  let read ← iterate (fun (read : Arguments) => do
    if read.closed || (← sees ")") then return none
    else
      let t ← peek
      let read ← argument inner bracket read
      let read := { read with start := some (read.start.getD t.place) }
      if ← skip? "," then return some read
      else return some { read with closed := true }) (Arguments.mk [] false false none false)
  expect ")"
  return (read.args.reverse, read.named)

/-- A part of a subscript: an expression, or bounds with colons between them. -/
def slice (inner : Inner) : Parser Unit := do
  if ← sees "*" then
    let _ ← starred inner .expression
  else
    if !(← sees ":") then
      let _ ← named inner
    let _ ← iterate (fun (colons : Nat) => do
      if colons < 2 && (← sees ":") then
        advance
        if startsExpression (← peek) then
          let _ ← inner .expression
        return some (colons + 1)
      else return none) 0

def subscript (inner : Inner) : Parser Unit := do
  slice inner
  let _ ← furtherItems (fun t => t.is ":" || startsItem t) (slice inner)
  expect "]"

def trailer? (inner : Inner) (start : Place) (t : Tree) : Parser (Option Tree) := do
  let sign ← peek
  if ← skip? "." then
    let _ ← name
    return some (.foreign start .member)
  else if ← skip? "[" then
    subscript inner
    return some (.foreign start .subscript)
  else if ← skip? "(" then
    let (args, hasNames) ← arguments inner sign.place
    return some (.call start t args hasNames)
  else return none

def primary (inner : Inner) : Parser Tree := do
  let start := (← peek).place
  iterate (trailer? inner start) (← atom inner)

def awaited (inner : Inner) : Parser Tree := do
  let t ← peek
  if ← skip? "await" then
    let _ ← inner .primary
    return .foreign t.place .awaited
  else primary inner

def power (inner : Inner) : Parser Tree := do
  let start := (← peek).place
  let base ← awaited inner
  if ← skip? "**" then return .binary start (.ok .pow) base (← inner .factor)
  else return base

def signOperator? (t : Token) : Option UnaryOp :=
  match t.lexeme with
  | .sign "+" => some .plus
  | .sign "-" => some .minus
  | .sign "~" => some .invert
  | _ => none

def factor (inner : Inner) : Parser Tree := do
  let t ← peek
  match signOperator? t with
  | some op =>
    advance
    return .unary t.place (.ok op) (← inner .factor)
  | none => power inner

abbrev Operation := Except ForeignOperator BinaryOp

def termOperation? (t : Token) : Option Operation :=
  match t.lexeme with
  | .sign "*" => some (.ok .mul)
  | .sign "/" => some (.ok .div)
  | .sign "%" => some (.ok .mod)
  | .sign "//" => some (.error .floorDivision)
  | .sign "@" => some (.error .matrixProduct)
  | _ => none

def sumOperation? (t : Token) : Option Operation :=
  match t.lexeme with
  | .sign "+" => some (.ok .add)
  | .sign "-" => some (.ok .sub)
  | _ => none

def shiftOperation? (t : Token) : Option Operation :=
  match t.lexeme with
  | .sign "<<" => some (.error .shiftLeft)
  | .sign ">>" => some (.error .shiftRight)
  | _ => none

def signOf (sign : String) (op : ForeignOperator) (t : Token) : Option Operation :=
  if t.is sign then some (.error op) else none

/-- Operands joined from left to right by operators of one strength. -/
def joined (operand : Parser Tree) (operation? : Token → Option Operation) : Parser Tree := do
  let start := (← peek).place
  let first ← operand
  iterate (fun left => do
    match operation? (← peek) with
    | some op =>
      advance
      return some (.binary start op left (← operand))
    | none => return none) first

def term (inner : Inner) : Parser Tree := joined (factor inner) termOperation?

def sum (inner : Inner) : Parser Tree := joined (term inner) sumOperation?

def shift (inner : Inner) : Parser Tree := joined (sum inner) shiftOperation?

def bitAnd (inner : Inner) : Parser Tree := joined (shift inner) (signOf "&" .bitAnd)

def bitXor (inner : Inner) : Parser Tree := joined (bitAnd inner) (signOf "^" .bitXor)

def bitOr (inner : Inner) : Parser Tree := joined (bitXor inner) (signOf "|" .bitOr)

/-- Takes an operator that compares. -/
def comparison? : Parser Bool := do
  if ← seesOneOf ["==", "!=", "<", "<=", ">", ">=", "in"] then
    advance
    return true
  else if ← skip? "is" then
    let _ ← skip? "not"
    return true
  else if (← sees "not") && (← peekSecond).any (·.is "in") then
    advance
    advance
    return true
  else return false

def comparison (inner : Inner) : Parser Tree := do
  let start := (← peek).place
  let first ← bitOr inner
  iterate (fun _ => do
    if ← comparison? then
      let _ ← bitOr inner
      return some (.foreign start .comparison)
    else return none) first

def inversion (inner : Inner) : Parser Tree := do
  let t ← peek
  if ← skip? "not" then return .unary t.place (.error .not) (← inner .inversion)
  else comparison inner

/-- Conditions joined by a word. -/
def boolean (word : String) (condition : Parser Tree) : Parser Tree := do
  let start := (← peek).place
  let first ← condition
  iterate (fun _ => do
    if ← skip? word then
      let _ ← condition
      return some (.foreign start .boolean)
    else return none) first

def conjunction (inner : Inner) : Parser Tree := boolean "and" (inversion inner)

def disjunction (inner : Inner) : Parser Tree := boolean "or" (conjunction inner)

def function (inner : Inner) : Parser Tree := do
  let start := (← next).place
  parameters inner false ":"
  expect ":"
  let _ ← inner .expression
  return .foreign start .function

/-- Some words before an expression are left for other readings. -/
def mayStandAlone (first : Token) (second : Option Token) : Bool :=
  match first.name?, second with
  | some word, some t =>
    let isQuotation := match t.lexeme with
      | .quotation _ => true
      | _ => false
    !isSoftKeyword word && !isQuotation
  | some word, none => !isSoftKeyword word
  | none, _ => true

/-- How many brackets are open before a token. -/
def depthBefore (t : Token) : Nat := if t.is "\x7b" then t.depth - 1 else t.depth

/-- Inside brackets, an expression that follows another one is blamed on the start of the first. -/
def refuseNeighbour (inner : Inner) (first : Token) (second : Option Token) : Parser Unit := do
  let t ← peek
  if depthBefore t ≠ 0 && standsAlone t && mayStandAlone first second then
    let isExpression ← match t.lexeme with
      | .keyword "not" => pure ((← attempt (do advance; inner .inversion)).isSome)
      | .keyword "await" => pure ((← attempt (do advance; inner .primary)).isSome)
      | .keyword "lambda" => pure ((← attempt (function inner)).isSome)
      | .sign "~" => pure ((← attempt (do advance; inner .factor)).isSome)
      | .sign "\x7b" => pure ((← attempt (atom inner)).isSome)
      | _ => pure true
    if isExpression then throw (.refused first.line t.line)

def expression (inner : Inner) : Parser Tree := do
  let first ← peek
  if first.is "lambda" then function inner
  else
    let second ← peekSecond
    let t ← disjunction inner
    if ← skip? "if" then
      let _ ← inner .disjunction
      if ← skip? "else" then
        let _ ← inner .expression
        return .foreign first.place .conditional
      else if ← sees ":" then refuse
      else refuseAt first.line
    else
      refuseNeighbour inner first second
      return t

def atLevel (inner : Inner) : Level → Parser Tree
  | .expression => expression inner
  | .disjunction => disjunction inner
  | .inversion => inversion inner
  | .bitOr => bitOr inner
  | .factor => factor inner
  | .primary => primary inner

/-- All levels, nested at most `depth` deep. -/
def nested : Nat → Inner
  | 0, _ => refuse
  | depth + 1, level => atLevel (nested depth) level

/-- Expressions with commas between them, up to the end of the text. -/
def wholeExpression (inner : Inner) : Parser Tree := do
  let t ← tupleOf startsExpression (expression inner)
  iterate (fun _ => do
    if (← peek).isLineEnd then
      advance
      return some ()
    else return none) ()
  if (← peek).lexeme = .textEnd then return t else refuse

end Grammar
end RateRules.Script
