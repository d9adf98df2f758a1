import RateRules.CommandLine.Options
import RateRules.Decimal.Reader
import RateRules.Pair
import RateRules.Text.Blank
import RateRules.Text.Small

/-! # Arguments of the command line

Options are taken in the order in which they stand, and each value is converted at once. What is
missing is told after that, and what belongs to no option last. -/
namespace RateRules.CommandLine

/-- A rate that is given for a pair on an exchange. -/
structure KnownRate where
  exchange : String
  pair : Pair
  rate : Decimal

structure Arguments where
  rules : Option String
  rulesFile : Option String
  pairs : List Pair
  rates : List KnownRate
  multiplier : Option Decimal
  debug : Bool

def Arguments.empty : Arguments := ⟨none, none, [], [], none, false⟩

/-- Why the arguments are not used: they are wrong, ask for help, or have a multiplier that is no
number. -/
inductive Stop where
  | usage (u : Usage)
  | help
  | multiplier

/-- Reads an exchange, a pair and a rate with a colon and an equals sign between them. -/
def knownRate? (arg : String) : Option KnownRate := do
  let (source, rate) ← cutAt? '=' arg.toList
  let (exchange, pair) ← cutAt? ':' source
  let pair ← Pair.ofText? (String.ofList (Text.trim pair))
  let rate ← Decimal.ofText? (String.ofList (Text.trim rate))
  return ⟨Text.small (String.ofList (Text.trim exchange)), pair, rate⟩

namespace Arguments

/-- Takes the value of an option. -/
def take (args : Arguments) (o : Opt) (value : String) : Except Stop Arguments :=
  match o with
  | .rules => .ok { args with rules := some value }
  | .rulesFile => .ok { args with rulesFile := some value }
  | .pair => match Pair.parse value with
    | .ok p => .ok { args with pairs := args.pairs ++ [p] }
    | .error e => .error (.usage (.of .pair e.message))
  | .rate => match knownRate? value with
    | some r => .ok { args with rates := args.rates ++ [r] }
    | none => .error (.usage (.of .rate
        ("invalid rate '" ++ value ++ "', expected exchange:PAIR=rate")))
  | .multiplier => match Decimal.ofText? value with
    | some d => .ok { args with multiplier := some d }
    | none => .error .multiplier
  | .help => .error .help
  | .debug => .ok { args with debug := true }

/-- Refuses an option that another one excludes. -/
def checkConflict (args : Arguments) (o : Opt) : Except Stop Unit :=
  let clash (other : Opt) : Except Stop Unit :=
    .error (.usage (.of o ("not allowed with argument " ++ other.name)))
  match o.conflict? with
  | some .rules => if args.rules.isSome then clash .rules else .ok ()
  | some .rulesFile => if args.rulesFile.isSome then clash .rulesFile else .ok ()
  | _ => .ok ()

/-- Takes an option with its value. -/
def takeValue (args : Arguments) (o : Opt) (value : String) : Except Stop Arguments := do
  args.checkConflict o
  args.take o value

/-- What becomes of a value for an option without values. Letters behind the letter for help are
options of their own. -/
def takeExplicit (o : Opt) (arg value : String) : Except Stop Arguments :=
  let left :=
    if arg.toList.take 2 = ['-', '-'] then value.toList else value.toList.dropWhile (· = 'h')
  if left.isEmpty && !value.isEmpty then .error .help
  else .error (.usage (.of o ("ignored explicit argument " ++ Text.quote (String.ofList left))))

end Arguments

/-- The arguments, and the words that belong to no option. -/
def consume (args : Arguments) (extras : List String) :
    List (String × Word) → Except Stop (Arguments × List String)
  | [] => .ok (args, extras)
  | (arg, .opt o (some value)) :: more =>
    if o.takesValue then do
      let args ← args.takeValue o value
      consume args extras more
    else do
      let args ← Arguments.takeExplicit o arg value
      consume args extras more
  | (_, .opt o none) :: more =>
    if o.takesValue then
      match more with
      | (value, .value) :: rest => do
        let args ← args.takeValue o value
        consume args extras rest
      | _ => .error (.usage (.of o "expected one argument"))
    else do
      let args ← args.take o ""
      consume args extras more
  | (arg, _) :: more => consume args (extras ++ [arg]) more

/-- Reads the command line. At least one pair is required. -/
def parse (argv : List String) : Except Stop Arguments := do
  let words ← (words argv).mapError .usage
  let (args, extras) ← consume .empty [] words
  if args.pairs.isEmpty then
    throw (.usage ⟨"the following arguments are required: " ++ Opt.pair.name⟩)
  else if extras.isEmpty then return args
  else throw (.usage ⟨"unrecognized arguments: " ++ " ".intercalate extras⟩)

end RateRules.CommandLine
