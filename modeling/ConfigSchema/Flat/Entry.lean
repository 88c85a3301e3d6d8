import ConfigSchema.Field.Codec
import ConfigSchema.SortedMap

/-! Flat maps: how the service stores a schema. Each dot path has one entry, with the node of its field, a
default value and a description. -/

namespace ConfigSchema

open Json

structure Entry where
  description : String
  defaultValue : Json
  schema : Json
  deriving DecidableEq

abbrev FlatMap := SortedMap Entry

namespace Entry

def toJson (entry : Entry) : Json :=
  .object [("description", .string entry.description), ("default_value", entry.defaultValue),
    ("schema", entry.schema)]

/-- An entry stands in an object, or in an array with its members by position. Only the schema must be
there. -/
def ofJson? : Json → Option Entry
  | .object members => do
    let description ← memberOr? asString? "" "description" members
    let schema ← Keyed.find? "schema" members
    some ⟨description, (Keyed.find? "default_value" members).getD .null, schema⟩
  | .array [description, defaultValue, schema] => do
    let description ← description.asString?
    some ⟨description, defaultValue, schema⟩
  | _ => none

end Entry

namespace FlatMap

def toMembers (map : FlatMap) : List (String × Json) :=
  map.entries.map fun entry => (entry.1, entry.2.toJson)

def toJson (map : FlatMap) : Json := .object map.toMembers

def ofMembers? (members : List (String × Json)) : Option FlatMap := do
  let entries ← members.mapM fun member => do
    let entry ← Entry.ofJson? member.2
    some (member.1, entry)
  some (.ofList entries)

def ofJson? (value : Json) : Option FlatMap := value.asMembers?.bind ofMembers?

/-- The map as a request or a reply carries it. -/
def payload (map : FlatMap) : Json := .object [("properties", map.toJson)]

def ofPayload? : Json → Option FlatMap
  | .object members => memberOr? ofJson? .empty "properties" members
  | .array [] => some .empty
  | .array [map] => ofJson? map
  | _ => none

end FlatMap

end ConfigSchema
