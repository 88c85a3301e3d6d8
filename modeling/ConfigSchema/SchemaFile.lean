import ConfigSchema.Flat.Planting

/-! Schema files: a file may hold a schema document or a flat map, bare or as a payload. -/

namespace ConfigSchema

inductive SchemaFile where
  | flat (map : FlatMap)
  | document (root : Json)
  deriving DecidableEq

namespace SchemaFile

def looksFlat (members : List (String × Json)) : Bool :=
  !members.isEmpty && members.all fun member => member.2.isObject && (member.2.get? "schema").isSome

def ofEntries (members : List (String × Json)) : Except SchemaError SchemaFile :=
  match FlatMap.ofMembers? members with
  | some map => .ok (flat map)
  | none => .error .invalidJson

/-- Tells flat maps from documents. A member `properties` with an object speaks for a document, unless it
stands alone and looks like a flat map. -/
def detect : Json → Except SchemaError SchemaFile
  | .object members =>
    match Keyed.find? "properties" members with
    | some (.object properties) =>
      if members.length = 1 && looksFlat properties then ofEntries properties
      else .ok (document (.object members))
    | _ => if looksFlat members then ofEntries members else .ok (document (.object members))
  | _ => .error (.notAnObject "$")

def toTree : SchemaFile → Except SchemaError SchemaTree
  | flat map => SchemaTree.ofFlat map
  | document root => SchemaTree.ofDocument root

end SchemaFile

end ConfigSchema
