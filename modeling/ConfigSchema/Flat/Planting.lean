import ConfigSchema.Flat.Entry
import ConfigSchema.Schema.Sketch

/-! The tree of a flat map. Paths come in their order, and segments for which no field is there yet become
object fields. -/

namespace ConfigSchema

/-- A tree that is being built, with the fields that entries and their segments stand for. -/
structure Planting where
  tree : SchemaTree
  places : List (String × FieldId)

namespace Planting

def container (name : String) : Attributes where
  name := name
  kind := .object
  description := describe name
  required := false
  defaultValue := some (.object [])

def ensure (planting : Planting) (parent : Option FieldId) (path name : String) :
    Except SchemaError (FieldId × Planting) :=
  match Keyed.find? path planting.places with
  | some id => .ok (id, planting)
  | none =>
    match planting.tree.insert parent (container name) with
    | .error _ => .error (.notAnObject path)
    | .ok (id, tree) => .ok (id, ⟨tree, (path, id) :: planting.places⟩)

/-- The field under which the rest of a path belongs; there is none if a segment is a field that holds no
fields. -/
def holder (planting : Planting) (parent : Option FieldId) (above : String) :
    List String → Except SchemaError (Option (Option FieldId) × Planting)
  | [] => .ok (some parent, planting)
  | name :: rest => do
    let path := Path.join above name
    let (id, grown) ← planting.ensure parent path name
    if (grown.tree.get? id).any (fun field => field.kind.holdsFields) then
      grown.holder (some id) path rest
    else pure (none, grown)

def enter (planting : Planting) (path : String) (entry : Entry) : Except SchemaError Planting :=
  let segments := Path.segments path
  if segments.contains "" then .ok planting
  else do
    match ← planting.holder none "" segments.dropLast with
    | (none, grown) => pure grown
    | (some parent, grown) =>
      let sketch ← Sketch.ofNode true path (Path.lastSegment path)
        ⟨false, some entry.description, some entry.defaultValue⟩ entry.schema
      let (id, tree) ← sketch.plant grown.tree parent path
      pure ⟨tree, (path, id) :: grown.places⟩

def enterAll (planting : Planting) : List (String × Entry) → Except SchemaError Planting
  | [] => .ok planting
  | (path, entry) :: rest => do
    let grown ← planting.enter path entry
    grown.enterAll rest

end Planting

/-- The tree of a flat map. Blank descriptions and default values are made up. -/
def SchemaTree.ofFlat (map : FlatMap) : Except SchemaError SchemaTree :=
  (Planting.enterAll ⟨.empty, []⟩ map.entries).map Planting.tree

end ConfigSchema
