import ConfigSchema.Field.Codec
import ConfigSchema.Forest
import ConfigSchema.Json.Printer

/-! Schema documents: kinds as JSON Schema writes them, by the `type` of a node and the keywords that go with it, a
forest written as a document, and what can be wrong with a document. -/

namespace ConfigSchema

open Json

inductive SchemaError where
  /-- The text is no JSON, or its entries do not have the form of a flat map. -/
  | invalidJson
  | unsupportedType (path found : String)
  | notAnObject (path : String)
  deriving DecidableEq

def SchemaError.message : SchemaError → String
  | .invalidJson => "Invalid JSON schema format"
  | .unsupportedType path found => "Unsupported type '" ++ found ++ "' at '" ++ path ++ "'"
  | .notAnObject path => "Expected a JSON object at '" ++ path ++ "'"

namespace Kind

def unsupported (path : String) (found : Json) : SchemaError :=
  .unsupportedType path (match found with
    | .string word => word
    | other => other.compact)

def typeOfNode (node : Json) (path : String) : Except SchemaError TypeName :=
  match node.get? "type" with
  | none | some .null => .ok .string
  | some found =>
    match found.asString?.bind TypeName.ofText? with
    | some type => .ok type
    | none => .error (unsupported path found)

def itemOfNode (node : Json) (path : String) : Except SchemaError (Option ItemType) :=
  match (node.get? "items").bind (Json.get? "type") with
  | none => .ok none
  | some found =>
    match found.asString?.bind ItemType.ofText? with
    | some item => .ok (some item)
    | none => .error (unsupported path found)

/-- The rules for a text. Keywords of the wrong type count as absent, and so does an empty pattern. -/
def textRulesOfNode (node : Json) : TextRules where
  minLength := (node.get? "minLength").bind asUInt64?
  maxLength := (node.get? "maxLength").bind asUInt64?
  pattern := ((node.get? "pattern").bind asString?).filter (fun pattern => pattern ≠ "")
  choices := (((node.get? "enum").bind asItems?).getD []).filterMap asString?

def numberRulesOfNode (node : Json) : NumberRules where
  minimum := (node.get? "minimum").bind asNumber?
  maximum := (node.get? "maximum").bind asNumber?

def ofNode (node : Json) (path : String) : Except SchemaError Kind :=
  match typeOfNode node path with
  | .error reason => .error reason
  | .ok .string => .ok (.text (textRulesOfNode node))
  | .ok .number => .ok (.number (numberRulesOfNode node))
  | .ok .boolean => .ok .boolean
  | .ok .array => (itemOfNode node path).map .array
  | .ok .object => .ok .object

/-- The members that hold the nodes of the fields below, and the names of those that are required. -/
def containerMembers (properties : List (String × Json)) (required : List String) :
    List (String × Json) :=
  if properties.isEmpty then []
  else ("properties", ofMembers properties) ::
    if required.isEmpty then [] else [("required", ofStrings required)]

def keywords (kind : Kind) (properties : List (String × Json)) (required : List String) :
    List (String × Json) :=
  match kind with
  | .text rules =>
    optionalMember "minLength" ofLength rules.minLength ++
      optionalMember "maxLength" ofLength rules.maxLength ++
      optionalMember "pattern" .string rules.pattern ++
      if rules.choices.isEmpty then [] else [("enum", ofStrings rules.choices)]
  | .number rules =>
    optionalMember "minimum" .number rules.minimum ++ optionalMember "maximum" .number rules.maximum
  | .boolean => []
  | .array none => []
  | .array (some .object) =>
    [("items", .object (("type", .string "object") :: containerMembers properties required))]
  | .array (some item) => [("items", .object [("type", .string item.text)])]
  | .object =>
    if properties.isEmpty then [("additionalProperties", .bool true)]
    else containerMembers properties required

end Kind

namespace Branch

def required : Forest → List String
  | [] => []
  | branch :: rest =>
    if branch.field.required then branch.field.name :: required rest else required rest

def remarks (field : Field) : List (String × Json) :=
  (if field.description = "" then [] else [("description", .string field.description)]) ++
    optionalMember "default" id field.defaultValue

mutual
def node : Branch → Json
  | mk field children =>
    .object (("type", .string field.kind.type.text) ::
      field.kind.keywords (nodes children) (required children) ++ remarks field)

def nodes : Forest → List (String × Json)
  | [] => []
  | branch :: rest => (branch.field.name, branch.node) :: nodes rest
end

/-- The document of a forest. Of several roots with one name the first place and the last node count. -/
def document (forest : Forest) : Json :=
  let names := required forest
  .object ([
    ("$schema", .string "https://json-schema.org/draft/2020-12/schema"),
    ("$id", .string "https://example.com/remote-config.schema.json"),
    ("title", .string "Remote Configuration Schema"),
    ("description", .string "Schema for remote configuration values"),
    ("type", .string "object"),
    ("properties", ofMembers (nodes forest))] ++
    (if names.isEmpty then [] else [("required", ofStrings names)]) ++
    [("additionalProperties", .bool false)])

end Branch

def SchemaTree.document (tree : SchemaTree) : Json := Branch.document tree.forest

end ConfigSchema
