import ConfigSchema.Drag
import ConfigSchema.Proofs.Program
import ConfigSchema.Proofs.Tree.Edits

/-! Edits in place. Here an edit looks fields up, refuses and writes one after the other, in one table that it changes
as it goes. Main statement of each lemma: nothing is written before the last refusal, so the edit either gives the
tree of the edit that builds a new one, or leaves the table as it was. -/

namespace ConfigSchema

namespace InPlace

open Program

abbrev TreeProgram (α : Type) := Program SchemaTree TreeError α

def entry (id : FieldId) : TreeProgram Node := do
  match (← get).node? id with
  | some node => pure node
  | none => throw (.fieldNotFound id)

def checkedName (draft : Attributes) (fallback : String) : TreeProgram String :=
  if Text.isBlankText draft.name then pure fallback
  else if Path.hasDot draft.name then throw (.invalidName draft.name)
  else pure draft.name

def insert (parent : Option FieldId) (attributes : Attributes) : TreeProgram FieldId := do
  let id := FieldId.ofSerial (← get).nextSerial
  match parent with
  | none => pure ()
  | some above => do
    let holder ← entry above
    if holder.field.kind.holdsFields then pure () else throw (.notAContainer above)
  modify fun tree => tree.relist (· ++ [id]) parent
  modify fun tree => { tree with
    nodes := Keyed.put id ⟨attributes.withId id, parent, []⟩ tree.nodes
    nextSerial := tree.nextSerial + 1 }
  pure id

def add (millis : Nat) (parent : Option FieldId) (draft : Attributes) : TreeProgram FieldId := do
  let name ← checkedName draft (SchemaTree.nameFromTime millis)
  insert parent (draft.completed name)

def update (id : FieldId) (draft : Attributes) : TreeProgram Unit := do
  let node ← entry id
  if !node.children.isEmpty && !draft.kind.holdsFields then throw (.hasChildren id)
  else do
    let name ← checkedName draft node.field.name
    modify fun tree => tree.modifyNode id fun node => { node with field := (draft.completed name).withId id }

/-- The field leaves its list first, and then the table is cleared of all that lies below it. -/
def delete (id : FieldId) : TreeProgram Nat := do
  let _ ← entry id
  let before ← get
  let doomed := before.subtree id
  modify fun tree => tree.detach id
  modify fun tree => { tree with nodes := tree.nodes.filter fun entry => entry.1 ∉ doomed }
  pure (before.nodes.length - (← get).nodes.length)

/-- The field leaves its list, enters the new one and then names its new holder. -/
def move (id : FieldId) (target : Option FieldId) : TreeProgram Unit := do
  MonadExcept.ofExcept ((← get).checkMove id target)
  modify fun tree => tree.detach id
  modify fun tree => tree.relist (· ++ [id]) target
  modify fun tree => tree.modifyNode id fun node => { node with parent := target }

def siblings : Option FieldId → TreeProgram (List FieldId)
  | none => do pure (← get).roots
  | some above => do pure (← entry above).children

def reorder (parent : Option FieldId) (source target : Nat) : TreeProgram Unit := do
  let siblings ← siblings parent
  MonadExcept.ofExcept (SchemaTree.checkPlaces source target siblings.length)
  modify fun tree => tree.relist (shiftElement source target) parent

def carryOut (source : FieldId) : DropPlan → TreeProgram DropOutcome
  | .move parent => tryCatch
    (do
      move source parent
      pure (.moved source parent))
    fun reason => pure (.rejected reason)
  | .reorder parent place other => tryCatch
    (do
      reorder parent place other
      pure (.reordered parent place other))
    fun reason => pure (.rejected reason)
  | .refuse reason => pure (.rejected reason)
  | .nothing => pure .ignored

def drop : Drag → TreeProgram DropOutcome
  | .hovering source target _ => do carryOut source (DropPlan.of (← get) source target)
  | _ => pure .ignored

variable (tree : SchemaTree)

theorem perform_entry (id : FieldId) : perform (entry id) tree = match tree.node? id with
    | some node => (.ok node, tree)
    | none => (.error (.fieldNotFound id), tree) := by
  simp only [entry, perform_bind, perform_get]
  cases tree.node? id <;> rfl

theorem perform_insert (parent : Option FieldId) (attributes : Attributes) :
    perform (insert parent attributes) tree = atomic tree (tree.insert parent attributes) := by
  cases parent with
  | none => rfl
  | some above =>
    simp only [insert, SchemaTree.insert, perform_bind, perform_get, perform_entry]
    cases tree.node? above with
    | none => rfl
    | some holder =>
      simp only []
      cases holder.field.kind.holdsFields <;> rfl

theorem perform_checkedName (draft : Attributes) (fallback : String) :
    perform (checkedName draft fallback) tree =
      (if ¬Text.isBlankText draft.name = true ∧ Path.hasDot draft.name = true then .error (.invalidName draft.name)
        else .ok (draft.nameOr fallback), tree) := by
  unfold checkedName Attributes.nameOr
  cases Text.isBlankText draft.name <;> cases Path.hasDot draft.name <;> rfl

theorem perform_add (millis : Nat) (parent : Option FieldId) (draft : Attributes) :
    perform (add millis parent draft) tree = atomic tree (tree.add millis parent draft) := by
  simp only [add, perform_bind, perform_checkedName, SchemaTree.add, Attributes.nameOr]
  cases Text.isBlankText draft.name with
  | true => exact perform_insert tree parent _
  | false =>
    cases Path.hasDot draft.name with
    | true => rfl
    | false => exact perform_insert tree parent _

theorem perform_update (id : FieldId) (draft : Attributes) : perform (update id draft) tree =
    atomic tree ((tree.update id draft).map fun updated => ((), updated)) := by
  simp only [update, perform_bind, perform_entry, SchemaTree.update]
  cases tree.node? id with
  | none => rfl
  | some node =>
    simp only []
    cases !node.children.isEmpty && !draft.kind.holdsFields with
    | true => rfl
    | false =>
      simp only [Bool.false_eq_true, if_false, perform_bind, perform_checkedName, Attributes.nameOr]
      cases Text.isBlankText draft.name <;> cases Path.hasDot draft.name <;> rfl

theorem perform_delete (id : FieldId) :
    perform (delete id) tree = atomic tree (tree.delete id) := by
  cases found : tree.node? id with
  | none => simp [delete, perform_entry, SchemaTree.delete, SchemaTree.contains, found, atomic]
  | some node =>
    rw [SchemaTree.delete, if_pos (SchemaTree.contains_of_node found)]
    simp only [delete, perform_bind, perform_entry, found, perform_get, perform_modify, perform_pure, atomic]

theorem perform_move (id : FieldId) (target : Option FieldId) : perform (move id target) tree =
    atomic tree ((tree.move id target).map fun moved => ((), moved)) := by
  simp only [move, perform_bind, perform_get, perform_ofExcept, SchemaTree.move]
  cases tree.checkMove id target with
  | error reason => rfl
  | ok => cases target <;> rfl

theorem perform_reorder (parent : Option FieldId) (source target : Nat) : perform (reorder parent source target) tree =
    atomic tree ((tree.reorder parent source target).map fun reordered => ((), reordered)) := by
  cases parent with
  | none =>
    simp only [reorder, siblings, SchemaTree.reorder, perform_bind, perform_get, perform_pure, perform_ofExcept]
    cases SchemaTree.checkPlaces source target tree.roots.length <;> rfl
  | some above =>
    simp only [reorder, siblings, SchemaTree.reorder, perform_bind, perform_entry]
    cases tree.node? above with
    | none => rfl
    | some node =>
      simp only [perform_pure, perform_ofExcept]
      cases SchemaTree.checkPlaces source target node.children.length <;> rfl

theorem perform_carryOut (source : FieldId) (plan : DropPlan) :
    perform (carryOut source plan) tree =
      (.ok (Drag.carryOut tree source plan).1, (Drag.carryOut tree source plan).2) := by
  cases plan with
  | move parent =>
    simp only [carryOut, Drag.carryOut, perform_tryCatch, perform_bind, perform_move]
    cases tree.move source parent <;> rfl
  | reorder parent place other =>
    simp only [carryOut, Drag.carryOut, perform_tryCatch, perform_bind, perform_reorder]
    cases tree.reorder parent place other <;> rfl
  | refuse reason => rfl
  | nothing => rfl

theorem perform_drop (drag : Drag) :
    perform (drop drag) tree = (.ok (drag.drop tree).1, (drag.drop tree).2) := by
  cases drag with
  | hovering source target valid => exact perform_carryOut tree source _
  | idle => rfl
  | dragging source => rfl

end InPlace

end ConfigSchema
