import ConfigSchema.CommandLine.Run

/-! The program. It reads the files and variables that a command line asks for, runs the command, and prints
or writes what comes out. There is no transport, so commands that talk to the service find it out of reach. -/

namespace ConfigSchema.Program

def variableNames : List String :=
  CommandLine.shared.filterMap CommandLine.Argument.fallback ++ [
    "AIRBORNE_SCHEMA_API__BASE_URL", "AIRBORNE_SCHEMA_API__TOKEN", "AIRBORNE_SCHEMA_API__ORGANISATION",
    "AIRBORNE_SCHEMA_API__APPLICATION", "AIRBORNE_SCHEMA_API__TIMEOUT_SECONDS",
    "AIRBORNE_SCHEMA_LOGGING__LEVEL"]

def usage : String :=
  "Usage: airborne-schema [OPTIONS] <COMMAND>\n\nCommands: " ++
    ", ".intercalate CommandLine.topGrammar.subcommands ++ "\nOptions: " ++
    ", ".intercalate (CommandLine.topGrammar.options.filterMap fun option => option.long.map ("--" ++ ·))

/-- What is said of a refused command line, and the code that the program ends with. -/
def refusalText : CommandLine.Refusal → String × UInt32
  | .unknownArgument => ("error: unexpected argument", 2)
  | .invalidSubcommand => ("error: unrecognized subcommand", 2)
  | .missingSubcommand => ("error: a subcommand is required", 2)
  | .missingArgument => ("error: a required argument is missing", 2)
  | .repeatedArgument => ("error: an argument is given more than once", 2)
  | .invalidValue => ("error: an argument has no value", 2)
  | .tooManyValues => ("error: a flag has a value", 2)
  | .helpForNothing => (usage, 2)
  | .help => (usage, 0)
  | .version => ("airborne-schema 0.1.0", 0)

def readVariable (name : String) : IO (Option (String × String)) := do
  return (← IO.getEnv name).map fun value => (name, value)

def readContent (name : String) : IO (Option String) := do
  try
    return some (← IO.FS.readFile name)
  catch _ => return none

def fail (reason : String) : IO UInt32 := do
  IO.eprintln ("Error: " ++ reason)
  return 1

def refuse (refusal : CommandLine.Refusal) : IO UInt32 := do
  let (text, code) := refusalText refusal
  if code = 0 then IO.println text else IO.eprintln text
  return code

def conclude (outcome : Outcome) : IO UInt32 := do
  IO.print outcome.printed
  match outcome.written, outcome.failure with
  | _, some reason => fail reason
  | some (name, text), none =>
    try
      IO.FS.writeFile name text
      return 0
    catch _ => fail ("Failed to write " ++ name)
  | none, none => return 0

def carryOut (command : Command) (api : ApiSettings) : IO UInt32 := do
  let files ← command.inputs.filterMapM fun name => do
    return (← readContent name).map fun content => (name, content)
  conclude (command.run ⟨fun name => Keyed.find? name files, .unreachable⟩ api)

/-- Runs the command of a command line under its settings. -/
def start (arguments : List String) : IO UInt32 := do
  let environment ← variableNames.filterMapM readVariable
  match CommandLine.ofArguments environment arguments with
  | .error refusal => refuse refusal
  | .ok line =>
    match line.settings (← readContent line.config) environment with
    | .error .unreadable => fail "the settings cannot be read"
    | .error (.invalid problems) => fail ((SettingsProblem.report? problems).getD "")
    | .ok settings =>
      match line.command.isRemote, SettingsProblem.report? settings.remoteProblems with
      | true, some text => fail text
      | _, _ => carryOut line.command settings.api

end ConfigSchema.Program

def main (arguments : List String) : IO UInt32 := ConfigSchema.Program.start arguments
