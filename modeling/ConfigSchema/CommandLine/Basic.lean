import ConfigSchema.CommandLine.Argument
import ConfigSchema.Settings.Layers

/-! The command line of the tool: its commands and the options that all of them share. -/

namespace ConfigSchema

inductive Command where
  | toSchema (file : String)
  | toFlat (file : String)
  | tree (file : String)
  | validate (schema values : String)
  | pull (output : Option String)
  | push (file : String) (dryRun : Bool)
  deriving DecidableEq

namespace Command

def isRemote : Command → Bool
  | pull _ => true
  | push _ dryRun => !dryRun
  | _ => false

end Command

structure CommandLine where
  config : String
  logLevel : Option String
  baseUrl : Option String
  token : Option String
  organisation : Option String
  application : Option String
  command : Command
  deriving DecidableEq

namespace CommandLine

def defaultConfig : String := "airborne-schema.toml"

def option (name : String) (isPath : Bool) (short : Option Char) (fallback : Option String)
    (isRequired : Bool) : Argument :=
  ⟨name, some name, short, .take, isPath, fallback, isRequired⟩

def file (name : String) : Argument := ⟨name, none, none, .take, true, none, true⟩

def flag (name : String) : Argument := ⟨name, some name, none, .mark, false, none, false⟩

def helpOption : Argument := ⟨"help", some "help", some 'h', .showHelp, false, none, false⟩

def versionOption : Argument := ⟨"version", some "version", some 'V', .showVersion, false, none, false⟩

def shared : List Argument := [
  option "config" true (some 'c') (some "AIRBORNE_SCHEMA_CONFIG") false,
  option "log-level" false none (some "AIRBORNE_SCHEMA_LOG_LEVEL") false,
  option "base-url" false none (some "AIRBORNE_SCHEMA_BASE_URL") false,
  option "token" false none (some "AIRBORNE_SCHEMA_TOKEN") false,
  option "organisation" false none (some "AIRBORNE_SCHEMA_ORGANISATION") false,
  option "application" false none (some "AIRBORNE_SCHEMA_APPLICATION") false]

def commands : List (String × List Argument × List Argument) := [
  ("to-schema", [], [file "flat_file"]),
  ("to-flat", [], [file "schema_file"]),
  ("tree", [], [file "file"]),
  ("validate", [option "schema" true none none true, option "values" true none none true], []),
  ("pull", [option "output" true (some 'o') none false], []),
  ("push", [flag "dry-run"], [file "schema_file"])]

def topGrammar : Grammar :=
  ⟨shared ++ [helpOption, versionOption], [], commands.map Prod.fst ++ ["help"]⟩

def grammar (options positionals : List Argument) : Grammar :=
  ⟨options ++ shared ++ [helpOption], positionals, []⟩

/-- The values of one level: those of the command line, and with them those of the environment. -/
structure Level where
  given : List (String × String)
  all : List (String × String)

def Level.ofScan (environment : List (String × String)) (grammar : Grammar) (scan : Scan) :
    Except Refusal Level := do
  let settled ← scan.settle
  let complete ← settled.fallBack environment grammar.options
  pure ⟨settled.values, complete.values⟩

/-- The value of a shared option: what is given behind the command counts before what is given in front of
it, and both before the environment. -/
def sharedValue (top inner : Level) (key : String) : Option String :=
  (Keyed.find? key inner.given).or ((Keyed.find? key top.given).or (Keyed.find? key inner.all))

def command? (name : String) (values : List (String × String)) : Option Command :=
  let value (key : String) : Option String := Keyed.find? key values
  match name with
  | "to-schema" => (value "flat_file").map .toSchema
  | "to-flat" => (value "schema_file").map .toFlat
  | "tree" => (value "file").map .tree
  | "validate" => do
    let schema ← value "schema"
    let values ← value "values"
    some (.validate schema values)
  | "pull" => some (.pull (value "output"))
  | "push" => (value "schema_file").map fun file => .push file (value "dry-run").isSome
  | _ => none

/-- Help on a command: every word behind `help` is the name of one, and commands have no commands. -/
def helpOn (rest : List String) : Refusal :=
  match rest with
  | [] => .help
  | [name] => if topGrammar.subcommands.contains name then .help else .invalidSubcommand
  | _ => .invalidSubcommand

def readCommand (environment : List (String × String)) (top : Scan) (name : String)
    (rest : List String) : Except Refusal CommandLine := do
  let (_, options, positionals) ← match commands.find? (fun entry => entry.1 == name) with
    | some entry => pure entry
    | none => throw (helpOn rest)
  let inner := grammar options positionals
  let (scan, _) ← Scan.start.run inner rest
  let level ← Level.ofScan environment inner scan
  if (inner.options ++ inner.positionals).any fun argument =>
      argument.isRequired && (Keyed.find? argument.key level.all).isNone then
    throw .missingArgument
  let outer ← Level.ofScan environment topGrammar top
  match command? name level.all with
  | none => throw .missingArgument
  | some command =>
    let shared := sharedValue outer level
    pure {
      config := (shared "config").getD defaultConfig
      logLevel := shared "log-level"
      baseUrl := shared "base-url"
      token := shared "token"
      organisation := shared "organisation"
      application := shared "application"
      command }

def ofArguments (environment : List (String × String)) (arguments : List String) :
    Except Refusal CommandLine := do
  match ← Scan.start.run topGrammar arguments with
  | (scan, some (name, rest)) => readCommand environment scan name rest
  | (scan, none) =>
    let level ← Level.ofScan environment topGrammar scan
    throw (if level.all.isEmpty then .helpForNothing else .missingSubcommand)

def override (line : CommandLine) (settings : Settings) : Settings where
  api := { settings.api with
    baseUrl := line.baseUrl.getD settings.api.baseUrl
    token := line.token.or settings.api.token
    organisation := line.organisation.or settings.api.organisation
    application := line.application.or settings.api.application }
  logLevel := line.logLevel.getD settings.logLevel

inductive SettingsError where
  | unreadable
  | invalid (problems : List SettingsProblem)
  deriving DecidableEq

/-- The settings for a command line, given the content of its settings file and the environment. -/
def settings (line : CommandLine) (content : Option String) (environment : List (String × String)) :
    Except SettingsError Settings :=
  match Settings.load? (content.map fun content => (line.config, content)) environment with
  | none => .error .unreadable
  | some loaded =>
    let settings := line.override loaded
    if settings.problems.isEmpty then .ok settings else .error (.invalid settings.problems)

end CommandLine

end ConfigSchema
