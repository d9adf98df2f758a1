import RateRules.Text.Digit
import RateRules.Text.Quoted

/-! # Options on the command line

An argument that starts with a dash names an option, perhaps shortened, and may hold the value
of the option behind an equals sign. Negative numbers and arguments with blanks are values. After
a lone double dash everything is a value. -/
namespace RateRules.CommandLine

inductive Opt where
  | help
  | rules
  | rulesFile
  | pair
  | rate
  | multiplier
  | debug
  deriving DecidableEq, Repr

namespace Opt

/-- The spellings of the options, in the order in which they are searched. -/
def spellings : List (String × Opt) :=
  [("-h", help), ("--help", help), ("--rules", rules), ("--rules-file", rulesFile),
   ("--pair", pair),
   ("--rate", rate), ("--multiplier", multiplier), ("--debug", debug)]

def takesValue : Opt → Bool
  | help => false
  | debug => false
  | _ => true

/-- The name of an option in messages. -/
def name : Opt → String
  | help => "-h/--help"
  | rules => "--rules"
  | rulesFile => "--rules-file"
  | pair => "--pair"
  | rate => "--rate"
  | multiplier => "--multiplier"
  | debug => "--debug"

/-- Two options of which only one may be given. -/
def conflict? : Opt → Option Opt
  | rules => some rulesFile
  | rulesFile => some rules
  | _ => none

end Opt

/-- What an argument is, before it is known what it belongs to. -/
inductive Word where
  | value
  | separator
  | opt (o : Opt) (explicit : Option String)
  | unknown
  deriving DecidableEq, Repr

/-- A message about the use of the command line. -/
structure Usage where
  message : String
  deriving DecidableEq, Repr

def Usage.of (o : Opt) (message : String) : Usage := ⟨"argument " ++ o.name ++ ": " ++ message⟩

/-- The parts of a text before and after its first such character. -/
def cutAt? (mark : Char) (cs : List Char) : Option (List Char × List Char) :=
  match cs.dropWhile (· ≠ mark) with
  | _ :: after => some (cs.takeWhile (· ≠ mark), after)
  | [] => none

/-- The argument is a negative number with digits and perhaps a point. -/
def isNegativeNumber (cs : List Char) : Bool :=
  let isDigit (c : Char) : Bool := (Text.digitValue? c).isSome
  match cs with
  | '-' :: rest =>
    let after := rest.dropWhile isDigit
    match after with
    | [] => !rest.isEmpty
    | '.' :: part => !part.isEmpty && part.all isDigit
    | _ => false
  | _ => false

/-- The options whose spelling starts with a shortened one. -/
def matching (shortened : List Char) : List (String × Opt) :=
  Opt.spellings.filter fun (spelling, _) => shortened.isPrefixOf spelling.toList

/-- Readings of an argument that is no full spelling. -/
def readings (cs : List Char) : List (String × Word) :=
  match cs with
  | '-' :: '-' :: _ =>
    let (shortened, explicit) := match cutAt? '=' cs with
      | some (before, after) => (before, some (String.ofList after))
      | none => (cs, none)
    (matching shortened).map fun (spelling, o) => (spelling, .opt o explicit)
  | '-' :: 'h' :: rest => [("-h", .opt .help (some (String.ofList rest)))]
  | _ => []

def wordOf (arg : String) : Except Usage Word :=
  let cs := arg.toList
  match cs with
  | '-' :: _ :: _ =>
    let exact := Opt.spellings.lookup arg
    let beforeMark := (cutAt? '=' cs).bind fun (before, after) =>
      (Opt.spellings.lookup (String.ofList before)).map fun o =>
        Word.opt o (some (String.ofList after))
    match exact, beforeMark, readings cs with
    | some o, _, _ => .ok (.opt o none)
    | none, some word, _ => .ok word
    | none, none, [(_, word)] => .ok word
    | none, none, [] =>
      .ok (if isNegativeNumber cs || cs.contains ' ' then .value else .unknown)
    | none, none, several =>
      .error ⟨"ambiguous option: " ++ arg ++ " could match " ++
        ", ".intercalate (several.map (·.1))⟩
  | _ => .ok .value

/-- All arguments with what they are. -/
def words : List String → Except Usage (List (String × Word))
  | [] => .ok []
  | "--" :: more => .ok (("--", .separator) :: more.map (·, .value))
  | arg :: more => do
    let word ← wordOf arg
    let rest ← words more
    return (arg, word) :: rest

end RateRules.CommandLine
