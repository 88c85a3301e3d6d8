import ConfigSchema.Flat.Entry
import ConfigSchema.Json.Reader
import ConfigSchema.Settings.Basic

/-! The client of the service. An exchange is a request and what is made of the reply to it, or what can go wrong on the
way; how the two travel is left open. -/

namespace ConfigSchema

inductive ServiceError where
  /-- The exchange broke down, with a reason if one is known. -/
  | transport (reason : Option String)
  | timeout
  | status (code : Nat) (body : String)
  | undecodable
  | misconfigured (reason : String)
  deriving DecidableEq

def ServiceError.message : ServiceError → String
  | .transport none => "HTTP error"
  | .transport (some reason) => "HTTP error: " ++ reason
  | .timeout => "Request timed out"
  | .status code body => "Backend returned " ++ toString code ++ ": " ++ body
  | .undecodable => "Failed to decode response"
  | .misconfigured reason => "Client configuration error: " ++ reason

inductive Method where
  | fetch
  | replace
  deriving DecidableEq

structure Request where
  method : Method
  endpoint : String
  organisation : String
  application : String
  authorization : Option String
  payload : Option Json
  deriving DecidableEq

namespace Request

def isHeaderText (text : String) : Bool :=
  text.toList.all fun c => (32 ≤ c.toNat || c == '\t') && c.toNat != 127

def isLegal (request : Request) : Bool :=
  isHeaderText request.organisation && isHeaderText request.application &&
    request.authorization.all isHeaderText

end Request

structure Reply where
  status : Nat
  body : String
  isComplete : Bool
  deriving DecidableEq

namespace Reply

def isSuccess (reply : Reply) : Bool := 200 ≤ reply.status && reply.status < 300

/-- The text of a body; a byte order mark in front does not belong to it. -/
def text (body : String) : String :=
  match body.toList with
  | '\uFEFF' :: rest => String.ofList rest
  | _ => body

/-- The text of a reply, none if it broke off. Replies with some statuses have no body at all. -/
def text? (reply : Reply) : Option String :=
  if reply.status = 204 || reply.status = 304 then some ""
  else if reply.isComplete then some (text reply.body)
  else none

def readPayload (text : String) : Except ServiceError FlatMap :=
  if Text.isBlankText text then .ok .empty
  else match (Json.read text).bind FlatMap.ofPayload? with
    | some map => .ok map
    | none => .error .undecodable

/-- The map of a reply. A failed status counts before all that may be wrong with the body. -/
def read (reply : Reply) : Except ServiceError FlatMap :=
  if reply.isSuccess then
    match reply.text? with
    | some text => readPayload text
    | none => .error (.transport none)
  else .error (.status reply.status (reply.text?.getD ""))

end Reply

/-- The other side: its reply to a request, none if it cannot be reached. -/
abbrev Service := Request → Option Reply

def Service.unreachable : Service := fun _ => none

structure Client where
  baseUrl : String
  token : Option String
  organisation : String
  application : String
  deriving DecidableEq

namespace Client

def schemaPath : String := "/organisations/applications/properties/schema"

def withoutTrailingSlashes (url : String) : String :=
  String.ofList (url.toList.reverse.dropWhile (· == '/')).reverse

def ofSettings (api : ApiSettings) : Except ServiceError Client :=
  match api.organisation, api.application with
  | none, _ => .error (.misconfigured "api.organisation is not set")
  | some _, none => .error (.misconfigured "api.application is not set")
  | some organisation, some application => .ok {
      baseUrl := withoutTrailingSlashes api.baseUrl
      token := api.token.filter (· != "")
      organisation, application }

def endpoint (client : Client) : String := client.baseUrl ++ schemaPath

def request (client : Client) (method : Method) (payload : Option Json) : Request where
  method := method
  endpoint := client.endpoint
  organisation := client.organisation
  application := client.application
  authorization := client.token.map ("Bearer " ++ ·)
  payload := payload

def fetchRequest (client : Client) : Request := client.request .fetch none

def replaceRequest (client : Client) (map : FlatMap) : Request :=
  client.request .replace (some map.payload)

def send (service : Service) (request : Request) : Except ServiceError FlatMap :=
  if request.isLegal then
    match service request with
    | some reply => reply.read
    | none => .error (.transport none)
  else .error (.transport none)

def fetch (client : Client) (service : Service) : Except ServiceError FlatMap :=
  send service client.fetchRequest

/-- Replaces the map of the service. Where the reply has no entries the map is taken as it was sent. -/
def replace (client : Client) (service : Service) (map : FlatMap) : Except ServiceError FlatMap :=
  (send service (client.replaceRequest map)).map fun saved =>
    if saved.entries.isEmpty then map else saved

end Client

end ConfigSchema
