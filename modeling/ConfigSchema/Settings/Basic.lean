import ConfigSchema.Field.Codec
import ConfigSchema.Settings.Value
import ConfigSchema.Text.Property

/-! Settings: where the service is and how it is talked to, and how much is logged. -/

namespace ConfigSchema

open Json

/-- The connection to the service. Requests carry a token only if there is one. -/
structure ApiSettings where
  baseUrl : String
  token : Option String
  organisation : Option String
  application : Option String
  timeoutSeconds : UInt64
  deriving DecidableEq

structure Settings where
  api : ApiSettings
  logLevel : String
  deriving DecidableEq

namespace ApiSettings

def toJson (api : ApiSettings) : Json :=
  .object (("base_url", .string api.baseUrl) ::
    optionalMember "token" .string api.token ++
    optionalMember "organisation" .string api.organisation ++
    optionalMember "application" .string api.application ++
    [("timeout_seconds", ofLength api.timeoutSeconds)])

def ofMembers? (members : List (String × Json)) : Option ApiSettings := do
  let baseUrl ← member? asString? "base_url" members
  let token ← optionalMember? asString? "token" members
  let organisation ← optionalMember? asString? "organisation" members
  let application ← optionalMember? asString? "application" members
  let timeoutSeconds ← member? asUInt64? "timeout_seconds" members
  some { baseUrl, token, organisation, application, timeoutSeconds }

/-- The settings stand in an object, or in an array with all members by position. -/
def ofJson? : Json → Option ApiSettings
  | .object members => ofMembers? members
  | .array [baseUrl, token, organisation, application, timeoutSeconds] =>
    ofMembers? [("base_url", baseUrl), ("token", token), ("organisation", organisation),
      ("application", application), ("timeout_seconds", timeoutSeconds)]
  | _ => none

end ApiSettings

namespace Settings

def levelOfJson? : Json → Option String
  | .object members => member? asString? "level" members
  | .array [level] => level.asString?
  | _ => none

def toJson (settings : Settings) : Json :=
  .object [("api", settings.api.toJson), ("logging", .object [("level", .string settings.logLevel)])]

def ofJson? : Json → Option Settings
  | .object members => do
    let api ← member? ApiSettings.ofJson? "api" members
    let logLevel ← member? levelOfJson? "logging" members
    some ⟨api, logLevel⟩
  | .array [api, logging] => do
    let api ← ApiSettings.ofJson? api
    let logLevel ← levelOfJson? logging
    some ⟨api, logLevel⟩
  | _ => none

def text? (name : String) (entries : List (String × Setting)) : Option String :=
  (Keyed.find? name entries).bind Setting.asText?

def optionalText? (name : String) (entries : List (String × Setting)) : Option (Option String) :=
  match Keyed.find? name entries with
  | none | some .absent => some none
  | some value => value.asText?.map some

def ofEntries? (entries : List (String × Setting)) : Option Settings := do
  let api ← (Keyed.find? "api" entries).bind Setting.asTable?
  let baseUrl ← text? "base_url" api
  let token ← optionalText? "token" api
  let organisation ← optionalText? "organisation" api
  let application ← optionalText? "application" api
  let timeoutSeconds ← (Keyed.find? "timeout_seconds" api).bind Setting.asWord?
  let logging ← (Keyed.find? "logging" entries).bind Setting.asTable?
  let logLevel ← text? "level" logging
  some ⟨{ baseUrl, token, organisation, application, timeoutSeconds }, logLevel⟩

end Settings

inductive SettingsProblem where
  | missing (field : String)
  | invalid (field reason : String)
  deriving DecidableEq

def SettingsProblem.message : SettingsProblem → String
  | .missing field => "Missing required field: " ++ field
  | .invalid field reason => "Invalid value for " ++ field ++ ": " ++ reason

namespace Settings

def baseUrlProblems (settings : Settings) : List SettingsProblem :=
  let url := settings.api.baseUrl
  if Text.isBlankText url then [.missing "api.base_url"]
  else if "http://".toList.isPrefixOf url.toList || "https://".toList.isPrefixOf url.toList then []
  else [.invalid "api.base_url" "URL must start with http:// or https://"]

def timeoutProblems (settings : Settings) : List SettingsProblem :=
  if settings.api.timeoutSeconds = 0 then [.invalid "api.timeout_seconds" "Timeout must be greater than 0"]
  else []

def levelProblems (settings : Settings) : List SettingsProblem :=
  if Text.isBlankText settings.logLevel then [.missing "logging.level"] else []

def problems (settings : Settings) : List SettingsProblem :=
  settings.baseUrlProblems ++ settings.timeoutProblems ++ settings.levelProblems

def coordinateProblems (field : String) (value : Option String) : List SettingsProblem :=
  if value.all Text.isBlankText then [.missing field] else []

/-- What commands need that talk to the service. -/
def remoteProblems (settings : Settings) : List SettingsProblem :=
  settings.problems ++ coordinateProblems "api.organisation" settings.api.organisation ++
    coordinateProblems "api.application" settings.api.application

end Settings

/-- The text of a failed check, none if nothing is wrong. -/
def SettingsProblem.report? (problems : List SettingsProblem) : Option String :=
  if problems.isEmpty then none
  else some ("Configuration validation failed:\n" ++ "\n".intercalate (problems.map message))

end ConfigSchema
