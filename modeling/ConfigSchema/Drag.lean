import ConfigSchema.Tree.Edit

/-! Drag gestures. A gesture only remembers what the pointer is over; the tree changes at the drop, which
looks at the target afresh. -/

namespace ConfigSchema

/-- What the pointer can be over. -/
inductive DropTarget where
  /-- The zone that takes a field to the top level. -/
  | root
  /-- The zone inside a container. -/
  | nested (owner : FieldId)
  /-- The row of a field. -/
  | row (field : FieldId)
  deriving DecidableEq

namespace DropTarget

def isZone : DropTarget → Bool
  | root | nested _ => true
  | row _ => false

/-- The target that counts among everything under the pointer: the first zone, or the first row if there is
no zone. -/
def resolve (hits : List DropTarget) : Option DropTarget := (hits.find? isZone).or hits.head?

end DropTarget

inductive DropPlan where
  | move (parent : Option FieldId)
  | reorder (parent : Option FieldId) (source target : Nat)
  | refuse (reason : TreeError)
  | nothing
  deriving DecidableEq

namespace DropPlan

def ofMove (tree : SchemaTree) (source : FieldId) (parent : Option FieldId) : DropPlan :=
  match tree.checkMove source parent with
  | .ok () => move parent
  | .error reason => refuse reason

def ofSiblings (tree : SchemaTree) (source row : FieldId) : DropPlan :=
  let parent := tree.parent? source
  if parent = tree.parent? row then
    match tree.index? source, tree.index? row with
    | some place, some other => reorder parent place other
    | _, _ => nothing
  else nothing

def of (tree : SchemaTree) (source : FieldId) : DropTarget → DropPlan
  | .root => ofMove tree source none
  | .nested owner => ofMove tree source (some owner)
  | .row row =>
    if row = source then nothing
    else match tree.get? row with
      | none => refuse (.fieldNotFound row)
      | some field => if field.kind.holdsFields then ofMove tree source (some row) else ofSiblings tree source row

def isAccepted : DropPlan → Bool
  | move _ | reorder _ _ _ => true
  | refuse _ | nothing => false

end DropPlan

inductive DropOutcome where
  | moved (field : FieldId) (parent : Option FieldId)
  | reordered (parent : Option FieldId) (source target : Nat)
  | rejected (reason : TreeError)
  | ignored
  deriving DecidableEq

inductive Drag where
  | idle
  | dragging (source : FieldId)
  | hovering (source : FieldId) (target : DropTarget) (valid : Bool)
  deriving DecidableEq

namespace Drag

def isDragging : Drag → Bool
  | idle => false
  | _ => true

def source? : Drag → Option FieldId
  | idle => none
  | dragging source | hovering source _ _ => some source

def invalidTarget? : Drag → Option DropTarget
  | hovering _ target false => some target
  | _ => none

/-- The pointer moves. The answer tells whether a drop here would change the tree; a row that is no target
leaves the gesture over nothing. -/
def moveOver (drag : Drag) (tree : SchemaTree) (hits : List DropTarget) : Bool × Drag :=
  match drag.source? with
  | none => (false, drag)
  | some source =>
    match DropTarget.resolve hits with
    | none => (false, dragging source)
    | some target =>
      match DropPlan.of tree source target with
      | .nothing => (false, dragging source)
      | plan => (plan.isAccepted, hovering source target plan.isAccepted)

def carryOut (tree : SchemaTree) (source : FieldId) : DropPlan → DropOutcome × SchemaTree
  | .move parent =>
    match tree.move source parent with
    | .ok moved => (.moved source parent, moved)
    | .error reason => (.rejected reason, tree)
  | .reorder parent place other =>
    match tree.reorder parent place other with
    | .ok reordered => (.reordered parent place other, reordered)
    | .error reason => (.rejected reason, tree)
  | .refuse reason => (.rejected reason, tree)
  | .nothing => (.ignored, tree)

def drop (drag : Drag) (tree : SchemaTree) : DropOutcome × SchemaTree :=
  match drag with
  | hovering source target _ => carryOut tree source (DropPlan.of tree source target)
  | _ => (.ignored, tree)

end Drag

end ConfigSchema
