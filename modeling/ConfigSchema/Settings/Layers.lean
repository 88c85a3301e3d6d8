import ConfigSchema.Json.Reader
import ConfigSchema.Settings.Basic
import ConfigSchema.Settings.Toml
import ConfigSchema.Yaml.Reader

/-! The layers that settings come from, the weakest first: what is built in, a file in TOML, JSON or YAML, the
environment, and the options of the command line. -/

namespace ConfigSchema

def FileName.extension? (path : String) : Option String :=
  let name := (path.toList.reverse.takeWhile (· != '/')).reverse
  let tail := (name.reverse.takeWhile (· != '.')).reverse
  if name.contains '.' && tail.length + 1 < name.length && name != ['.', '.'] then some (String.ofList tail)
  else none

namespace Settings

def builtIn : List (String × Setting) := [
  ("api", .table [("base_url", .text "http://localhost:8081"), ("timeout_seconds", .integer 30)]),
  ("logging", .table [("level", .text "info")])]

/-- The entries of a file by the extension of its name. A file without a known extension has none, and neither has one
whose content is no table. Files in INI, RON and JSON5 are not read either: they count as files without entries. -/
def fileEntries? (name content : String) : Option (List (String × Setting)) :=
  match FileName.extension? name with
  | some "toml" => Toml.read content
  | some "json" => (Json.read content).map fun value => (Setting.ofJson value).entries
  | some "yaml" | some "yml" => ((Yaml.read content).bind Setting.ofYaml?).map Setting.entries
  | _ => some []

def variableStart : String := "airborne_schema_"

def dotted : List Char → List Char
  | '_' :: '_' :: rest => '.' :: dotted rest
  | c :: rest => c :: dotted rest
  | [] => []

def variableKey? (name : String) : Option String :=
  let lowered := name.toList.map Char.toLower
  if variableStart.toList.isPrefixOf lowered then
    some (String.ofList (dotted (lowered.drop variableStart.length)))
  else none

def variableValue (text : String) : Setting :=
  match String.ofList (text.toList.map Char.toLower) with
  | "true" => .bool true
  | "false" => .bool false
  | _ =>
    match Real.signedWord? text.toList with
    | some n => .integer n
    | none =>
      match Real.ofLiteral? text.toList with
      | some x => .real x
      | none => .text text

def environmentEntries (environment : List (String × String)) : List (String × Setting) :=
  environment.filterMap fun entry => (variableKey? entry.1).map fun key => (key, variableValue entry.2)

/-- The settings of a file and the environment; there are none if a layer cannot be read or has a value of
the wrong type. -/
def load? (file : Option (String × String)) (environment : List (String × String)) : Option Settings := do
  let fromFile ← match file with
    | some (name, content) => fileEntries? name content
    | none => some []
  ofEntries? (Setting.overlayEntries (Setting.overlayEntries builtIn fromFile)
    (environmentEntries environment))

end Settings

end ConfigSchema
