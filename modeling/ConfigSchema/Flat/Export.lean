import ConfigSchema.Flat.Entry
import ConfigSchema.Json.Basic
import ConfigSchema.Path
import ConfigSchema.Schema.Document
import ConfigSchema.SortedMap
import ConfigSchema.Validation.Report

/-! Exports: the flat map of a tree, made from the leaves of its document, which are the nodes that are no objects with
properties, under their dot paths. A default value that its node does not accept is replaced and reported. -/

namespace ConfigSchema

namespace Json

def saysObject (members : List (String × Json)) : Bool :=
  Keyed.find? "type" members == some (.string "object")

def withoutDescription : Json → Json
  | .object members => .object (Keyed.swapErase "description" members)
  | node => node

mutual
def leaves (path : String) : Json → List (String × Json)
  | .object members =>
    let own := [(path, (Json.object members).withoutDescription)]
    if saysObject members then (leavesOfContainer? path members).getD own else own
  | node => [(path, node)]

def leavesOfContainer? (path : String) : List (String × Json) → Option (List (String × Json))
  | [] => none
  | (name, value) :: rest =>
    if name = "properties" then
      match value with
      | .object properties => some (leavesOfProperties path properties)
      | _ => none
    else leavesOfContainer? path rest

def leavesOfProperties (path : String) : List (String × Json) → List (String × Json)
  | [] => []
  | (name, node) :: rest => leaves (Path.join path name) node ++ leavesOfProperties path rest
end

/-- The leaves of a document in the order of their paths. Of leaves with one path the last counts. -/
def leafMap : Json → SortedMap Json
  | .object members => .ofList ((leavesOfContainer? "" members).getD [])
  | _ => .empty

end Json

structure Export where
  properties : FlatMap
  warnings : List String

namespace Export

def toJson (result : Export) : Json :=
  .object [("properties", result.properties.toJson), ("warnings", .ofStrings result.warnings)]

/-- What is known of a leaf: from its field, or from the node alone if no field has its path. -/
structure Origin where
  name : String
  kind : Option Kind
  description : String
  defaultValue : Option Json

def Origin.ofField (field : Field) : Origin where
  name := field.name
  kind := some field.kind
  description := field.description
  defaultValue := field.defaultValue.filter fun value => !value.isNull

def Origin.ofNode (path : String) (node : Json) : Origin where
  name := Path.lastSegment path
  kind := (Kind.ofNode node path).toOption
  description := ""
  defaultValue := none

def Origin.ofTree (tree : SchemaTree) (path : String) (node : Json) : Origin :=
  match (tree.findPath path).bind tree.get? with
  | some field => .ofField field
  | none => .ofNode path node

def Origin.substitute (origin : Origin) : Json := (origin.kind.map Kind.defaultValue).getD .null

def withDefault (node value : Json) : Json :=
  match node with
  | .object members => .object (Keyed.put "default" value members)
  | other => other

variable [Pattern.Engine]

/-- The entry of a leaf, with a warning if its default value had to be replaced. -/
def Origin.entry (origin : Origin) (node : Json) : Entry × Option String :=
  let wanted := origin.defaultValue.getD origin.substitute
  let report := Report.againstNode wanted node
  let value := if report.isValid then wanted else origin.substitute
  (⟨descriptionOr origin.description origin.name, value, withDefault node value⟩,
    if report.isValid then none
    else some ("Field \"" ++ origin.name ++ "\": " ++ ", ".intercalate report.errors))

def entries (tree : SchemaTree) : List (String × Entry × Option String) :=
  tree.document.leafMap.entries.map fun leaf =>
    (leaf.1, (Origin.ofTree tree leaf.1 leaf.2).entry leaf.2)

end Export

def SchemaTree.toExport [Pattern.Engine] (tree : SchemaTree) : Export :=
  let entries := Export.entries tree
  ⟨.ofList (entries.map fun (path, entry, _) => (path, entry)),
    entries.filterMap fun (_, _, warning) => warning⟩

end ConfigSchema
