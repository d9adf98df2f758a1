import RateRules.CommandLine.Report

/-! # The program

Reads the environment and the file of the rules, and prints what the run gives. -/
open RateRules CommandLine

def settingNames : List String :=
  ["app_env", "debug", "global_multiplier", "log_level", "preferred_exchange",
   "rate_fetch_timeout_seconds", "rate_rules_script"]

/-- The settings in the environment, in small and in capital letters. -/
def readEnvironment : IO (List (String × String)) := do
  let mut env := []
  for name in settingNames do
    for spelling in [name, name.toUpper] do
      if let some value ← IO.getEnv spelling then
        env := env ++ [(spelling, value)]
  return env

/-- The text of a file, if it can be read. -/
def readRules (path : String) : IO (Option String) := do
  try
    return some (← IO.FS.readFile path)
  catch _ => return none

def main (argv : List String) : IO UInt32 := do
  let env ← readEnvironment
  let text ← match parse argv with
    | .ok { rulesFile := some path, .. } => readRules path
    | _ => pure none
  match run argv env fun _ => text with
  | .finished exit printed =>
    IO.print printed
    return exit.toUInt32
  | .usage u =>
    IO.eprintln ("error: " ++ u.message)
    return 2
  | .settings refused =>
    IO.eprintln ("invalid settings: " ++ ", ".intercalate refused)
    return 1
  | .noFile =>
    IO.eprintln "the file of the rules cannot be read"
    return 1
  | .number _ =>
    IO.eprintln "a number cannot be read"
    return 1
