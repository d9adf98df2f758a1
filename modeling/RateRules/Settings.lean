import RateRules.Number.Given
import RateRules.Number.Reading
import RateRules.Number.Shortest
import RateRules.Text.Blank
import RateRules.Text.Capital
import RateRules.Text.Small

/-! # Settings

Settings are given by name or come from an environment, whose names count in any case of letters;
what is given goes first, and what is missing has a default. A value is converted where its form
allows it, and all names whose values are refused are told together. -/
namespace RateRules

/-- A value before it is converted. -/
inductive SettingValue where
  | text (s : String)
  | whole (z : Int)
  | binary (x : Binary)
  | flag (b : Bool)
  | foreign
  deriving DecidableEq, Repr

inductive LogLevel where
  | debug
  | info
  | warning
  | error
  | critical
  deriving DecidableEq, Repr

def LogLevel.text : LogLevel → String
  | debug => "DEBUG"
  | info => "INFO"
  | warning => "WARNING"
  | error => "ERROR"
  | critical => "CRITICAL"

structure Settings where
  appEnv : String
  debug : Bool
  logLevel : LogLevel
  preferredExchange : String
  rateRulesScript : String
  globalMultiplier : Decimal
  rateFetchTimeout : Binary
  deriving DecidableEq, Repr

namespace SettingValue

def toText? : SettingValue → Option String
  | text s => some s
  | _ => none

def trueWords : List String := ["1", "t", "true", "y", "yes", "on"]
def falseWords : List String := ["0", "f", "false", "n", "no", "off"]

/-- A word in any case of ASCII letters, or a number that is zero or one. -/
def toFlag? : SettingValue → Option Bool
  | flag b => some b
  | text s =>
    let word := String.ofList (s.toList.map Char.toLower)
    if trueWords.contains word then some true
    else if falseWords.contains word then some false
    else none
  | whole z => if z = 1 then some true else if z = 0 then some false else none
  | binary x =>
    if x.isZero then some false else if x = Binary.ofDecimal .one then some true else none
  | foreign => none

def allLevels : List LogLevel := [.debug, .info, .warning, .error, .critical]

/-- A level without the blanks around it and in any case of letters. -/
def toLevel? : SettingValue → Option LogLevel
  | text s => do
    let word := String.ofList (← Text.capitals? (Text.trim s.toList))
    allLevels.find? fun level => level.text == word
  | _ => none

/-- A binary number stands for the decimal that it is written as. -/
def toDecimal? : SettingValue → Option Decimal
  | text s => Decimal.ofText? s
  | whole z => some (.ofInt z)
  | binary x => Decimal.ofText? x.text
  | _ => none

/-- A decimal above zero. -/
def toMultiplier? (v : SettingValue) : Option Decimal :=
  v.toDecimal?.filter Decimal.isPositive

def toBinary? : SettingValue → Option Binary
  | text s => Binary.ofText? s
  | whole z => match Binary.ofDecimal (.ofInt z) with
    | .infinite _ => none
    | x => some x
  | binary x => some x
  | flag b => some (Binary.ofDecimal (.ofNat b.toNat))
  | foreign => none

/-- A number that is not below or at zero. -/
def toTimeout? (v : SettingValue) : Option Binary :=
  v.toBinary?.filter fun x => !(x.isZero || x.isNegative)

end SettingValue

namespace Settings

/-- The value of a setting: the last one in the environment, unless one is given. -/
def value? (given : List (String × SettingValue)) (env : List (String × String)) (name : String) :
    Option SettingValue :=
  given.lookup name <|>
    ((env.reverse.find? fun (key, _) => Text.small key == name).map fun (_, s) => .text s)

def read (given : List (String × SettingValue)) (env : List (String × String)) :
    Except (List String) Settings :=
  let field {α : Type} (name : String) (convert : SettingValue → Option α) (default : α) :
      Option α :=
    (value? given env name).elim (some default) convert
  let appEnv := field "app_env" SettingValue.toText? "development"
  let debug := field "debug" SettingValue.toFlag? false
  let multiplier := field "global_multiplier" SettingValue.toMultiplier? .one
  let level := field "log_level" SettingValue.toLevel? .info
  let exchange := field "preferred_exchange" SettingValue.toText? "kraken"
  let timeout :=
    field "rate_fetch_timeout_seconds" SettingValue.toTimeout? (Binary.ofDecimal (.ofNat 10))
  let script := field "rate_rules_script" SettingValue.toText? ""
  match appEnv, debug, level, exchange, script, multiplier, timeout with
  | some appEnv, some debug, some level, some exchange, some script, some multiplier,
      some timeout =>
    .ok ⟨appEnv, debug, level, exchange, script, multiplier, timeout⟩
  | _, _, _, _, _, _, _ =>
    .error
      (([("app_env", appEnv.isNone), ("debug", debug.isNone),
          ("global_multiplier", multiplier.isNone),
      ("log_level", level.isNone), ("preferred_exchange", exchange.isNone),
      ("rate_fetch_timeout_seconds", timeout.isNone), ("rate_rules_script", script.isNone)].filter
        (·.2)).map (·.1))

def isDevelopment (s : Settings) : Bool := s.appEnv == "development"

def isProduction (s : Settings) : Bool := s.appEnv == "production"

/-- Every pair is priced on the preferred exchange. -/
def defaultScript (s : Settings) : String := "X_X = " ++ Text.small s.preferredExchange ++ "(X_X);"

/-- The script that is set, without the blanks around it, or the default script if it is blank. -/
def effectiveScript (s : Settings) : String :=
  let script := Text.trim s.rateRulesScript.toList
  if script.isEmpty then s.defaultScript else String.ofList script

end Settings
end RateRules
