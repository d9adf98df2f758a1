import RateRules.Script.Grammar.Expression

/-! # Grammar of statements

Statements stand on a line with semicolons between them. Statements with a block must have it on
their own line, since lines have no indentation; a block that starts on a further line is refused
where it would have to be indented. -/
namespace RateRules.Script.Grammar

open RateRules.Script.Parser

def augmentation? (t : Token) : Option Operation :=
  match t.lexeme with
  | .sign "+=" => some (.ok .add)
  | .sign "-=" => some (.ok .sub)
  | .sign "*=" => some (.ok .mul)
  | .sign "/=" => some (.ok .div)
  | .sign "%=" => some (.ok .mod)
  | .sign "**=" => some (.ok .pow)
  | .sign "//=" => some (.error .floorDivision)
  | .sign "@=" => some (.error .matrixProduct)
  | .sign "<<=" => some (.error .shiftLeft)
  | .sign ">>=" => some (.error .shiftRight)
  | .sign "|=" => some (.error .bitOr)
  | .sign "^=" => some (.error .bitXor)
  | .sign "&=" => some (.error .bitAnd)
  | _ => none

/-- Targets, each before an equals sign, and the value behind the last one. -/
def assignment (inner : Inner) (first : Tree) : Parser Clause := do
  let (targets, value) ← iterate (fun (targets, value) => do
    if ← sees "=" then
      refuseTarget value
      advance
      return some (value :: targets, ← yieldOrExpressions inner)
    else return none) ([], first)
  return if targets.isEmpty then .expression value else .assign targets.reverse value

def annotated (inner : Inner) (start : Place) (target : Tree) : Parser Clause := do
  expect ":"
  if target.isSingleTarget then
    let _ ← inner .expression
    if ← skip? "=" then
      let _ ← yieldOrExpressions inner
    return .foreign start .annotated
  else
    let _ ← inner .expression
    refuseAt target.place.line

def augmented (inner : Inner) (start : Place) (target : Tree) (op : Operation) : Parser Clause := do
  advance
  let value ← yieldOrExpressions inner
  if target.isSingleTarget then return .augment start op target value
  else refuseAt target.place.line

def expressionClause (inner : Inner) : Parser Clause := do
  let start := (← peek).place
  let t ← yieldOrExpressions inner
  if ← sees ":" then annotated inner start t
  else
    match augmentation? (← peek) with
    | some op => augmented inner start t op
    | none => assignment inner t

def isClauseEnd (t : Token) : Bool := t.is ";" || t.isLineEnd

def deletion (inner : Inner) : Parser Unit := do
  let t ← starExpressions inner
  match t.badDeletion? with
  | some bad => refuseAt bad.place.line
  | none => if !isClauseEnd (← peek) then refuse

def raising (inner : Inner) : Parser Unit := do
  if !isClauseEnd (← peek) then
    let _ ← inner .expression
    if ← skip? "from" then
      let _ ← inner .expression

def assertion (inner : Inner) : Parser Unit := do
  let _ ← inner .expression
  if ← skip? "," then
    let _ ← inner .expression

def dottedName : Parser Unit := do
  let _ ← name
  iterate (fun _ => do
    if ← skip? "." then
      let _ ← name
      return some ()
    else return none) ()

/-- A name that may get another name. -/
def renamed (p : Parser Unit) : Parser Unit := do
  p
  if ← skip? "as" then
    let _ ← name

def dots : Parser Bool := do
  iterate (fun _ => do
    if ← seesOneOf [".", "..."] then
      advance
      return some true
    else return none) false

def importedNames : Parser Unit := do
  let item := renamed do
    let _ ← name
  if ← skip? "*" then return ()
  else if ← skip? "(" then
    item
    let _ ← furtherItems (fun t => t.name?.isSome) item
    expect ")"
  else
    let _ ← itemsOf item

def importFrom : Parser Unit := do
  let hasDots ← dots
  if !(hasDots && (← sees "import")) then dottedName
  expect "import"
  importedNames

/-- What follows the word of a simple statement. -/
def afterWord (inner : Inner) (start : Place) : String → Parser Clause
  | "pass" => return .pass
  | "break" => return .foreign start .broken
  | "continue" => return .foreign start .continued
  | "return" => do
    if startsItem (← peek) then
      let _ ← starExpressions inner
    return .foreign start .returned
  | "raise" => do
    raising inner
    return .foreign start .raised
  | "global" => do
    let _ ← itemsOf name
    return .foreign start .globals
  | "nonlocal" => do
    let _ ← itemsOf name
    return .foreign start .nonlocals
  | "del" => do
    deletion inner
    return .foreign start .deleted
  | "assert" => do
    assertion inner
    return .foreign start .asserted
  | "import" => do
    let _ ← itemsOf (renamed dottedName)
    return .foreign start .imported
  | "from" => do
    importFrom
    return .foreign start .importedFrom
  | _ => refuse

def simpleWords : List String :=
  ["pass", "break", "continue", "return", "raise", "global", "nonlocal", "del", "assert",
   "import", "from"]

def simpleClause (inner : Inner) : Parser Clause := do
  let t ← peek
  match simpleWords.find? t.is with
  | some word =>
    advance
    afterWord inner t.place word
  | none => expressionClause inner

/-- The simple statements of a line. -/
def simpleClauses (inner : Inner) : Parser (List Clause) := do
  let first ← simpleClause inner
  let clauses ← iterate (fun clauses => do
    if ← skip? ";" then
      if (← peek).isLineEnd then return none else return some ((← simpleClause inner) :: clauses)
    else return none) [first]
  if (← peek).isLineEnd then
    advance
    return clauses.reverse
  else refuse

def block (inner : Inner) : Parser Unit := do
  expect ":"
  if (← peek).isLineEnd then
    advance
    refuse
  else
    let _ ← simpleClauses inner

def elseBlock (inner : Inner) : Parser Unit := do
  if ← skip? "else" then block inner

def conditional (inner : Inner) : Parser Unit := do
  let _ ← named inner
  block inner
  iterate (fun _ => do
    if ← skip? "elif" then
      let _ ← named inner
      block inner
      return some ()
    else return none) ()
  elseBlock inner

def repetition (inner : Inner) : Parser Unit := do
  let _ ← named inner
  block inner
  elseBlock inner

def iteration (inner : Inner) : Parser Unit := do
  let _ ← roundTargets inner
  expect "in"
  let _ ← starExpressions inner
  block inner
  elseBlock inner

def withItem (inner : Inner) : Parser Unit := do
  let _ ← inner .expression
  if ← skip? "as" then
    let t ← if ← sees "*" then starred inner .bitOr else inner .bitOr
    refuseTarget t

/-- Items in parentheses. -/
def enclosedItems (inner : Inner) : Parser Unit := do
  expect "("
  withItem inner
  let _ ← furtherItems startsExpression (withItem inner)
  expect ")"
  if !(← sees ":") then refuse

def within (inner : Inner) : Parser Unit := do
  match ← attempt (enclosedItems inner) with
  | some _ => block inner
  | none =>
    let _ ← itemsOf (withItem inner)
    block inner

/-- A handler, and whether it has a star. -/
def handler? (inner : Inner) : Parser (Option Bool) := do
  if ← skip? "except" then
    if ← sees ":" then
      block inner
      return some false
    else
      let hasStar ← skip? "*"
      let _ ← inner .expression
      if ← skip? "as" then
        let _ ← name
      block inner
      return some hasStar
  else return none

/-- The command is a group if its handlers have stars. -/
def trial (inner : Inner) : Parser Command := do
  block inner
  match ← handler? inner with
  | some grouped =>
    iterate (fun _ => do
      let t ← peek
      match ← handler? inner with
      | some hasStar => if hasStar = grouped then return some () else refuseAt t.line
      | none => return none) ()
    elseBlock inner
    if ← skip? "finally" then block inner
    return if grouped then .triedGroup else .tried
  | none =>
    expect "finally"
    block inner
    return .tried

def functionDefinition (inner : Inner) : Parser Unit := do
  let _ ← name
  expect "("
  parameters inner true ")"
  expect ")"
  if ← skip? "->" then
    let _ ← inner .expression
  block inner

def classDefinition (inner : Inner) : Parser Unit := do
  let _ ← name
  let bracket := (← peek).place
  if ← skip? "(" then
    let _ ← arguments inner bracket
  block inner

def asynchronous (inner : Inner) : Parser Command := do
  if ← skip? "def" then
    functionDefinition inner
    return .asyncFunction
  else if ← skip? "with" then
    within inner
    return .asyncWithin
  else
    expect "for"
    iteration inner
    return .asyncIterated

/-- Decorators, each on a line of its own, and what they decorate. -/
def decorated (inner : Inner) : Parser Clause := do
  iterate (fun _ => do
    if ← skip? "@" then
      let _ ← named inner
      if (← peek).isLineEnd then
        advance
        return some ()
      else refuse
    else return none) ()
  let t ← peek
  if ← skip? "def" then
    functionDefinition inner
    return .foreign t.place .function
  else if ← skip? "class" then
    classDefinition inner
    return .foreign t.place .classed
  else
    expect "async"
    expect "def"
    functionDefinition inner
    return .foreign t.place .asyncFunction

/-- What follows the word of a statement with a block. -/
def afterBlockWord (inner : Inner) : String → Parser Command
  | "if" => do
    conditional inner
    return .conditional
  | "while" => do
    repetition inner
    return .repeated
  | "for" => do
    iteration inner
    return .iterated
  | "with" => do
    within inner
    return .within
  | "try" => trial inner
  | "def" => do
    functionDefinition inner
    return .function
  | "class" => do
    classDefinition inner
    return .classed
  | "async" => asynchronous inner
  | _ => refuse

def blockWords : List String := ["if", "while", "for", "with", "try", "def", "class", "async"]

/-- A choice among patterns needs an indented block and so is always refused; it is blamed where
its block would start. -/
def refuseChoice (inner : Inner) : Parser Unit := do
  if (← peek).name? = some "match" then
    let isChoice ← attempt do
      advance
      let _ ← tupleOf startsItem (starNamed inner)
      expect ":"
      if !(← peek).isLineEnd then refuse
      advance
    if isChoice.isSome then refuse

def clauses (inner : Inner) : Parser (List Clause) := do
  let t ← peek
  if t.is "@" then return [← decorated inner]
  else
    match blockWords.find? t.is with
    | some word =>
      advance
      return [.foreign t.place (← afterBlockWord inner word)]
    | none =>
      refuseChoice inner
      simpleClauses inner

/-- All statements up to the end of the text. -/
def wholeScript (inner : Inner) : Parser (List Clause) := do
  let lines ← iterate (fun lines => do
    if (← peek).lexeme = .textEnd then return none
    else return some ((← clauses inner) :: lines)) []
  return lines.reverse.flatten

end RateRules.Script.Grammar
