import ConfigSchema.Field.Basic
import ConfigSchema.Path
import ConfigSchema.Tree.Basic

/-! Edits of a tree. An edit gives a new tree or the reason why it is refused; a refused edit leaves nothing
to undo. -/

namespace ConfigSchema

def shiftElement {α : Type} (source target : Nat) (list : List α) : List α :=
  match list[source]? with
  | none => list
  | some element => (list.eraseIdx source).insertIdx target element

namespace SchemaTree

def insert (tree : SchemaTree) (parent : Option FieldId) (attributes : Attributes) :
    Except TreeError (FieldId × SchemaTree) :=
  let id := FieldId.ofSerial tree.nextSerial
  let node : Node := ⟨attributes.withId id, parent, []⟩
  match parent with
  | none =>
    .ok (id, { nodes := Keyed.put id node tree.nodes
               roots := tree.roots ++ [id]
               nextSerial := tree.nextSerial + 1 })
  | some above =>
    match tree.node? above with
    | none => .error (.fieldNotFound above)
    | some holder =>
      if holder.field.kind.holdsFields then
        let lengthened := Keyed.modify above
          (fun node => { node with children := node.children ++ [id] }) tree.nodes
        .ok (id, { tree with nodes := Keyed.put id node lengthened, nextSerial := tree.nextSerial + 1 })
      else .error (.notAContainer above)

def nameFromTime (millis : Nat) : String := "field" ++ Nat.repr millis

/-- Adds a field. A blank name is made from the time, a blank description from the name, and a blank
default value from the kind. -/
def add (tree : SchemaTree) (millis : Nat) (parent : Option FieldId) (draft : Attributes) :
    Except TreeError (FieldId × SchemaTree) :=
  let enter (name : String) := tree.insert parent
    { draft with
      name := name
      description := descriptionOr draft.description name
      defaultValue := some (defaultOr draft.defaultValue draft.kind) }
  if Text.isBlankText draft.name then enter (nameFromTime millis)
  else if Path.hasDot draft.name then .error (.invalidName draft.name)
  else enter draft.name

/-- Gives a field new attributes; its id, its place and the fields below it stay. A blank name keeps the
old one. -/
def update (tree : SchemaTree) (id : FieldId) (draft : Attributes) : Except TreeError SchemaTree :=
  match tree.node? id with
  | none => .error (.fieldNotFound id)
  | some node =>
    let change (name : String) : SchemaTree := tree.modifyNode id fun node =>
      { node with
        field := Attributes.withId
          { draft with
            name := name
            description := descriptionOr draft.description name
            defaultValue := some (defaultOr draft.defaultValue draft.kind) } id }
    if !node.children.isEmpty && !draft.kind.holdsFields then .error (.hasChildren id)
    else if Text.isBlankText draft.name then .ok (change node.field.name)
    else if Path.hasDot draft.name then .error (.invalidName draft.name)
    else .ok (change draft.name)

def detach (tree : SchemaTree) (id : FieldId) : SchemaTree :=
  match tree.parent? id with
  | some above => tree.modifyNode above fun node =>
      { node with children := node.children.filter (fun child => child ≠ id) }
  | none => { tree with roots := tree.roots.filter (fun root => root ≠ id) }

/-- Removes a field with everything below it and tells how many fields that were. -/
def delete (tree : SchemaTree) (id : FieldId) : Except TreeError (Nat × SchemaTree) :=
  if tree.contains id then
    let doomed := tree.subtree id
    let detached := tree.detach id
    let kept := detached.nodes.filter (fun entry => entry.1 ∉ doomed)
    .ok (tree.nodes.length - kept.length, { detached with nodes := kept })
  else .error (.fieldNotFound id)

def checkMove (tree : SchemaTree) (id : FieldId) : Option FieldId → Except TreeError Unit
  | none => if tree.contains id then .ok () else .error (.fieldNotFound id)
  | some target =>
    if tree.contains id then
      if target = id then .error (.selfParent id)
      else match tree.get? target with
        | none => .error (.fieldNotFound target)
        | some holder =>
          if tree.isAncestor id target then .error (.cycle id target)
          else if holder.kind.holdsFields then .ok ()
          else .error (.notAContainer target)
    else .error (.fieldNotFound id)

/-- Moves a field, with everything below it, to the end of the target's list. -/
def move (tree : SchemaTree) (id : FieldId) (target : Option FieldId) : Except TreeError SchemaTree :=
  match tree.checkMove id target with
  | .error reason => .error reason
  | .ok () =>
    let detached := tree.detach id
    let listed := match target with
      | some above => detached.modifyNode above fun node => { node with children := node.children ++ [id] }
      | none => { detached with roots := detached.roots ++ [id] }
    .ok (listed.modifyNode id fun node => { node with parent := target })

def checkPlaces (source target count : Nat) : Except TreeError Unit :=
  if count ≤ source then .error (.indexOutOfRange source count)
  else if count ≤ target then .error (.indexOutOfRange target count)
  else .ok ()

def reorder (tree : SchemaTree) (parent : Option FieldId) (source target : Nat) :
    Except TreeError SchemaTree :=
  match parent with
  | none =>
    (checkPlaces source target tree.roots.length).map fun _ =>
      { tree with roots := shiftElement source target tree.roots }
  | some above =>
    match tree.node? above with
    | none => .error (.fieldNotFound above)
    | some node =>
      (checkPlaces source target node.children.length).map fun _ =>
        tree.modifyNode above fun node =>
          { node with children := shiftElement source target node.children }

end SchemaTree

end ConfigSchema
