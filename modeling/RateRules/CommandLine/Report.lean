import RateRules.CommandLine.Arguments
import RateRules.Loading
import RateRules.Pricing

/-! # Pricing from the command line

The rates that are given stand for the exchanges. The rules are shown first, then every pair with
its rule and its price. The exit code says if every pair has a price. -/
namespace RateRules.CommandLine

/-- How a run ends: with an exit code and what is printed, with wrong arguments, with settings that
are refused, without its file, or at a number that cannot be used. -/
inductive Outcome where
  | finished (exit : Nat) (printed : String)
  | usage (u : Usage)
  | settings (refused : List String)
  | noFile
  | number (reason : NotDecimal)
  deriving DecidableEq

/-- One provider for each exchange; of several rates for a pair the last one counts. -/
def registryOf (rates : List KnownRate) : Registry FixedProvider :=
  rates.foldl (fun registry r =>
    let provider := (registry.find? r.exchange).getD (.ofName r.exchange)
    registry.register r.exchange (provider.set r.pair r.rate)) .empty

def rule : String := String.ofList (List.replicate 50 '=')

/-- Printed lines. -/
def printed (lines : List String) : String := String.join (lines.map (· ++ "\n"))

def refusal (message : String) : String := "✗ " ++ message

def heading (table : RuleTable) : List String := [rule, "Rate rules", rule, table.text]

def errorLine (e : FetchError) : String :=
  "    " ++ e.requirement.text ++ ": " ++ e.message

def priceLines (p : Price) : List String :=
  ["\n" ++ p.pair.text, "    Rule:      " ++ p.rule, "    Evaluated: " ++ p.evaluated]
  ++ match p.value with
    | some d => ["  ✓ Rate: " ++ d.text]
    | none =>
      ("  ✗ Errors: " ++ ", ".intercalate (p.faults.map Fault.text)) ::
        p.exchangeErrors.map errorLine

def priced (book : Rulebook) (args : Arguments) (timeout : Timeout) : Outcome :=
  let source := (registryOf args.rates).fetch FixedProvider.ask timeout
  match book.prices source args.pairs with
  | .ok prices =>
    let exit := if prices.all fun p => p.value.isSome then 0 else 1
    .finished exit (printed (heading book.table ++ prices.flatMap priceLines))
  | .error (.pattern refused) =>
    .finished 1 (printed (heading book.table ++ [refusal refused.priceMessage]))
  | .error (.source reason) => .number reason
  | .error (.trap _) => .number .unreadable

/-- Runs with the text of the rules that the arguments name. -/
def report (args : Arguments) (settings : Settings) (script : Option String) : Outcome :=
  match settings.load script args.multiplier with
  | .ok book => priced book args (.binary settings.rateFetchTimeout)
  | .error refused =>
    .finished 1 (printed (refusal refused.message :: refused.faults.map fun f => "    " ++ f.text))

/-- The text of the rules: what is given goes before a file. -/
def scriptOf (args : Arguments) (file : String → Option String) : Except Unit (Option String) :=
  match args.rulesFile with
  | none => .ok args.rules
  | some path => match file path with
    | some text => .ok (some (String.ofList (Text.withLineFeeds text.toList)))
    | none => .error ()

def helpText : String := printed
  ["usage: rate_rules [-h] [--rules RULES | --rules-file RULES_FILE] --pair PAIR",
   "                  [--rate RATE] [--multiplier MULTIPLIER] [--debug]",
   "",
   "Evaluate rate rules for currency pairs",
   "",
   "options:",
   "  -h, --help            show this help message and exit",
   "  --rules RULES         Rule script text",
   "  --rules-file RULES_FILE",
   "                        File containing the rule script",
   "  --pair PAIR           Pair to evaluate, e.g. BTC_USD (repeatable)",
   "  --rate RATE           Known rate as exchange:PAIR=value (repeatable)",
   "  --multiplier MULTIPLIER",
   "                        Global multiplier",
   "  --debug               Log resolution details"]

/-- A whole run with the arguments, the environment and the files that can be read. -/
def run (argv : List String) (env : List (String × String))
    (file : String → Option String) : Outcome :=
  match parse argv with
  | .error (.usage u) => .usage u
  | .error .help => .finished 0 helpText
  | .error .multiplier => .number .unreadable
  | .ok args => match Settings.read [] env with
    | .error refused => .settings refused
    | .ok settings => match scriptOf args file with
      | .error _ => .noFile
      | .ok script => report args settings script

end RateRules.CommandLine
