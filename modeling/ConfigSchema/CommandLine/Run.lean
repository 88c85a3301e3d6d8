import ConfigSchema.CommandLine.Basic
import ConfigSchema.Pattern.Reader
import ConfigSchema.SchemaFile
import ConfigSchema.Service.Client
import ConfigSchema.Session
import ConfigSchema.Yaml.Value

/-! What the commands do. A command sees the files by their names and the service by its replies; what it prints, writes
and sends is its outcome. Patterns are left to whatever engine the command is run with. -/

namespace ConfigSchema

structure Surroundings where
  file? : String → Option String
  service : Service

structure Outcome where
  printed : String
  written : Option (String × String)
  sent : List Request
  failure : Option String
  deriving DecidableEq

namespace Outcome

def printing (text : String) : Outcome := ⟨text, none, [], none⟩

def writing (name text : String) : Outcome := ⟨"", some (name, text), [], none⟩

def failing (reason : String) : Outcome := ⟨"", none, [], some reason⟩

/-- The outcome together with a request that was sent before. A request that is not legal never is sent. -/
def after (outcome : Outcome) (request : Request) : Outcome :=
  if request.isLegal then { outcome with sent := request :: outcome.sent } else outcome

def ofExcept {α : Type} (step : Except String α) (next : α → Outcome) : Outcome :=
  match step with
  | .error reason => failing reason
  | .ok value => next value

end Outcome

namespace Surroundings

/-- The value in a file. The extension of its name tells YAML from JSON. -/
def document (surroundings : Surroundings) (name : String) : Except String Json :=
  match surroundings.file? name with
  | none => .error ("Failed to read " ++ name)
  | some content =>
    match FileName.extension? name with
    | some "yaml" | some "yml" =>
      match Yaml.readJson content with
      | some value => .ok value
      | none => .error ("Failed to parse YAML in " ++ name)
    | _ =>
      match Json.read content with
      | some value => .ok value
      | none => .error SchemaError.invalidJson.message

def tree (surroundings : Surroundings) (name : String) : Except String SchemaTree := do
  let document ← surroundings.document name
  ((SchemaFile.detect document).bind SchemaFile.toTree).mapError SchemaError.message

/-- The values in a file, by dot path. -/
def values (surroundings : Surroundings) (name : String) : Except String (List (String × Json)) := do
  match ← surroundings.document name with
  | .object members => pure members
  | _ => throw "Values file must contain a JSON object"

end Surroundings

def SessionError.message : SessionError → String
  | .service error => error.message
  | .schema error => error.message

namespace Command

def inputs : Command → List String
  | toSchema file | toFlat file | tree file | push file _ => [file]
  | validate schema values => [schema, values]
  | pull _ => []

variable [Pattern.Engine]

def printPayload (tree : SchemaTree) : Outcome :=
  .printing (tree.toExport.properties.payload.pretty ++ "\n")

def printReport (report : Report) : Outcome :=
  if report.isValid then .printing "All values are valid\n"
  else {
    printed := String.join (report.errors.map (· ++ "\n"))
    written := none
    sent := []
    failure := some (toString report.errors.length ++ " validation error(s)") }

def runPull (client : Client) (service : Service) (output : Option String) : Outcome :=
  let outcome := Outcome.ofExcept ((Session.load (client.fetch service)).mapError SessionError.message)
    fun session => match output with
      | some name => .writing name (session.exportDocument ++ "\n")
      | none => .printing (session.exportDocument ++ "\n")
  outcome.after client.fetchRequest

def runPush (client : Client) (service : Service) (tree : SchemaTree) : Outcome :=
  let session := Session.ofTree tree
  let map := session.submission.properties
  let saved := session.save (client.replace service map)
  let outcome := Outcome.ofExcept (saved.mapError ServiceError.message) fun (result, _) =>
    .printing ("Saved " ++ toString result.properties.size ++ " schema entries\n")
  outcome.after (client.replaceRequest map)

def run (surroundings : Surroundings) (api : ApiSettings) : Command → Outcome
  | toSchema file =>
    .ofExcept (surroundings.tree file) fun tree => .printing (tree.document.pretty ++ "\n")
  | toFlat file => .ofExcept (surroundings.tree file) printPayload
  | tree file => .ofExcept (surroundings.tree file) fun tree => .printing tree.outline
  | validate schema values =>
    .ofExcept (surroundings.tree schema) fun tree =>
      .ofExcept (surroundings.values values) fun values => printReport (tree.report values)
  | pull output =>
    .ofExcept ((Client.ofSettings api).mapError ServiceError.message) fun client =>
      runPull client surroundings.service output
  | push file dryRun =>
    .ofExcept (surroundings.tree file) fun tree =>
      if dryRun then printPayload tree
      else .ofExcept ((Client.ofSettings api).mapError ServiceError.message) fun client =>
        runPush client surroundings.service tree

end Command

end ConfigSchema
