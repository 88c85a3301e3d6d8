import ConfigSchema.Field.Basic
import ConfigSchema.Path
import ConfigSchema.Schema.Document
import ConfigSchema.Tree.Edit

/-! Sketches: the fields that a schema document describes, before they get ids. Reading a document gives
sketches, and planting them gives a tree. -/

namespace ConfigSchema

open Json

/-- The attributes of a field and the sketches of the fields below it. -/
inductive Sketch where
  | mk (attributes : Attributes) (children : List Sketch)

namespace Sketch

def attributes : Sketch → Attributes
  | mk attributes _ => attributes

def children : Sketch → List Sketch
  | mk _ children => children

structure Given where
  required : Bool
  description : Option String
  defaultValue : Option Json

def requiredNames (members : List (String × Json)) : List String :=
  (((Keyed.find? "required" members).bind asItems?).getD []).filterMap asString?

/-- The attributes of a field: what is given goes before what the node says. When `filled`, a blank
description or default value is made up. -/
def attributesOf (filled : Bool) (name : String) (given : Given) (kind : Kind) (node : Json) :
    Attributes :=
  let description := ((given.description.filter fun text => !Text.isBlankText text).or
    ((node.get? "description").bind asString?)).getD ""
  let value := (given.defaultValue.filter fun value => !value.isNull).or (node.get? "default")
  { name, kind
    description := if filled then descriptionOr description name else description
    required := given.required
    defaultValue := if filled then some (defaultOr value kind) else value }

mutual
def ofProperty (filled : Bool) (path name : String) (required : Bool) :
    Json → Except SchemaError Sketch
  | .object members => do
    let kind ← Kind.ofNode (.object members) path
    let below ← match kind with
      | .object => ofContainer filled path (requiredNames members) members
      | .array (some .object) => ofItems filled path members
      | _ => pure []
    pure (mk (attributesOf filled name ⟨required, none, none⟩ kind (.object members)) below)
  | node => do
    let kind ← Kind.ofNode node path
    pure (mk (attributesOf filled name ⟨required, none, none⟩ kind node) [])

def ofContainer (filled : Bool) (path : String) (required : List String) :
    List (String × Json) → Except SchemaError (List Sketch)
  | [] => pure []
  | (name, value) :: rest =>
    if name = "properties" then
      match value with
      | .object properties => ofProperties filled path required properties
      | _ => throw (.notAnObject (Path.join path "properties"))
    else ofContainer filled path required rest

def ofItems (filled : Bool) (path : String) : List (String × Json) → Except SchemaError (List Sketch)
  | [] => pure []
  | (name, value) :: rest =>
    if name = "items" then
      match value with
      | .object items => ofContainer filled path (requiredNames items) items
      | _ => pure []
    else ofItems filled path rest

def ofProperties (filled : Bool) (path : String) (required : List String) :
    List (String × Json) → Except SchemaError (List Sketch)
  | [] => pure []
  | (name, node) :: rest => do
    let first ← ofProperty filled (Path.join path name) name (required.contains name) node
    let later ← ofProperties filled path required rest
    pure (first :: later)
end

def ofNodeBelow (filled : Bool) (path : String) (kind : Kind) (node : Json) :
    Except SchemaError (List Sketch) :=
  match kind, node with
  | .object, .object members => ofContainer filled path (requiredNames members) members
  | .array (some .object), .object members => ofItems filled path members
  | _, _ => pure []

def ofNode (filled : Bool) (path name : String) (given : Given) (node : Json) :
    Except SchemaError Sketch := do
  let kind ← Kind.ofNode node path
  let below ← ofNodeBelow filled path kind node
  pure (mk (attributesOf filled name given kind node) below)

def ofDocument : Json → Except SchemaError (List Sketch)
  | .object members => ofContainer false "" (requiredNames members) members
  | _ => throw (.notAnObject "$")

mutual
def plant (tree : SchemaTree) (parent : Option FieldId) (path : String) :
    Sketch → Except SchemaError (FieldId × SchemaTree)
  | mk attributes below =>
    match tree.insert parent attributes with
    | .error _ => .error (.notAnObject path)
    | .ok (id, grown) => (plantAll grown (some id) path below).map fun grown => (id, grown)

def plantAll (tree : SchemaTree) (parent : Option FieldId) (path : String) :
    List Sketch → Except SchemaError SchemaTree
  | [] => .ok tree
  | sketch :: rest =>
    match sketch.plant tree parent (Path.join path sketch.attributes.name) with
    | .error reason => .error reason
    | .ok (_, grown) => plantAll grown parent path rest
end

end Sketch

namespace SchemaTree

/-- The tree of a document, with ids from a serial number on. Descriptions and default values are taken as
written. -/
def ofDocumentFrom (serial : Nat) (document : Json) : Except SchemaError SchemaTree := do
  let sketches ← Sketch.ofDocument document
  Sketch.plantAll (emptyFrom serial) none "" sketches

def ofDocument (document : Json) : Except SchemaError SchemaTree := ofDocumentFrom 0 document

end SchemaTree

end ConfigSchema
