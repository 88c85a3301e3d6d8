import ConfigSchema.Proofs.Tree.Building
import ConfigSchema.Proofs.Tree.Reachable

/-! Sessions step by step. A step works on the session in place, and a run is one step after another. Whatever the
step, the tree afterwards is the tree before or that of one edit, so all that edits keep is kept by every run. -/

namespace ConfigSchema.Session

open Program

/-- What can be done in a session. A save comes with what the service answers to it. -/
inductive Step where
  | add (millis : Nat) (parent : Option FieldId) (draft : Attributes)
  | update (id : FieldId) (draft : Attributes)
  | delete (id : FieldId)
  | move (id : FieldId) (target : Option FieldId)
  | reorder (parent : Option FieldId) (source target : Nat)
  | importDocument (text : String)
  | dragStart (source : FieldId)
  | dragOver (hits : List DropTarget)
  | dragDrop
  | dragCancel
  | markSaved
  | save (reply : Except ServiceError FlatMap)

deriving instance DecidableEq for Export

inductive Answer where
  | done
  | added (id : FieldId)
  | removed (count : Nat)
  | accepted (valid : Bool)
  | dropped (outcome : DropOutcome)
  | saved (sent : Export)
  deriving DecidableEq

inductive Refusal where
  | edit (reason : TreeError)
  | document (reason : SchemaError)
  | service (reason : ServiceError)
  deriving DecidableEq

abbrev SessionProgram (α : Type) := Program Session Refusal α

def onTree {α : Type} (program : InPlace.TreeProgram α) : SessionProgram α :=
  ExceptT.mk fun session =>
    let (outcome, tree) := perform program session.tree
    (outcome.mapError .edit, session.withTree tree)

def readInPlace (serial : Nat) (text : String) : Except SchemaError SchemaTree :=
  match Json.read text with
  | none => .error .invalidJson
  | some document =>
    match perform (InPlace.buildDocument document) (.emptyFrom serial) with
    | (.ok (), tree) => .ok tree
    | (.error reason, _) => .error reason

variable (session : Session)

theorem perform_onTree {α : Type} (program : InPlace.TreeProgram α) : perform (onTree program) session =
    ((perform program session.tree).1.mapError .edit, session.withTree (perform program session.tree).2) := rfl

/-- A program on the tree that gives a new tree or leaves no trace does so in the session. -/
theorem perform_onTree_atomic {α : Type} {program : InPlace.TreeProgram α}
    {edited : Except TreeError (α × SchemaTree)}
    (atomically : perform program session.tree = atomic session.tree edited) :
    perform (onTree program) session =
      atomic session ((edited.map fun result => (result.1, session.withTree result.2)).mapError .edit) := by
  rw [perform_onTree, atomically]
  cases edited <;> rfl

theorem readInPlace_eq (serial : Nat) (text : String) : readInPlace serial text = readDocument serial text := by
  unfold readInPlace readDocument
  cases Json.read text with
  | none => rfl
  | some document => exact (InPlace.ofDocumentFrom_eq_built serial document).symm

/-- How a session begins: empty, on a tree, on a flat map, or on what the service answered. -/
inductive Opened : Session → Prop
  | empty : Opened empty
  | ofTree {tree : SchemaTree} (reachable : tree.Reachable) : Opened (ofTree tree)
  | ofFlat {map : FlatMap} {session : Session} (read : ofFlat map = .ok session) : Opened session
  | load {reply : Except ServiceError FlatMap} {session : Session} (read : load reply = .ok session) : Opened session

theorem Opened.exists_tree {session : Session} (opened : Opened session) :
    ∃ tree, tree.Reachable ∧ session = Session.ofTree tree := by
  have flat : ∀ {map : FlatMap} {session : Session}, Session.ofFlat map = .ok session →
      ∃ tree, tree.Reachable ∧ session = Session.ofTree tree := by
    intro map session read
    obtain ⟨tree, done, rfl⟩ := Except.map_eq_ok_iff.mp read
    exact ⟨tree, .flat done, rfl⟩
  cases opened with
  | empty => exact ⟨.empty, .empty, rfl⟩
  | ofTree reachable => exact ⟨_, reachable, rfl⟩
  | ofFlat read => exact flat read
  | @load reply _ read =>
    cases reply with
    | error reason => cases read
    | ok map =>
      cases done : Session.ofFlat map with
      | error reason => simp [Session.load, done, Except.mapError] at read
      | ok other =>
        simp only [Session.load, done, Except.mapError, Except.ok.injEq] at read
        exact read ▸ flat done

variable [Pattern.Engine]

/-- Carries out a step. The gesture ends before its drop touches the tree. -/
def execute : Step → SessionProgram Answer
  | .add millis parent draft => Answer.added <$> onTree (InPlace.add millis parent draft)
  | .update id draft => (fun _ => .done) <$> onTree (InPlace.update id draft)
  | .delete id => Answer.removed <$> onTree (InPlace.delete id)
  | .move id target => (fun _ => .done) <$> onTree (InPlace.move id target)
  | .reorder parent source target => (fun _ => .done) <$> onTree (InPlace.reorder parent source target)
  | .importDocument text => do
    match readInPlace (← get).tree.nextSerial text with
    | .ok tree => do
      modify fun session => session.withTree tree
      modify fun session => { session with importError := none }
      pure .done
    | .error reason => do
      modify fun session => { session with importError := some reason }
      throw (.document reason)
  | .dragStart source => do
    modify fun session => session.dragStart source
    pure .done
  | .dragOver hits => do
    let accepted := ((← get).dragOver hits).1
    modify fun session => (session.dragOver hits).2
    pure (.accepted accepted)
  | .dragDrop => do
    let drag := (← get).drag
    modify fun session => session.dragCancel
    Answer.dropped <$> onTree (InPlace.drop drag)
  | .dragCancel => do
    modify dragCancel
    pure .done
  | .markSaved => do
    modify markSaved
    pure .done
  | .save reply => do
    let sent := (← get).submission
    match reply with
    | .ok _ => do
      modify markSaved
      pure (.saved sent)
    | .error reason => throw (.service reason)

def after (session : Session) (step : Step) : Session := (perform (execute step) session).2

def run (session : Session) (steps : List Step) : Session := steps.foldl after session

theorem perform_add (millis : Nat) (parent : Option FieldId) (draft : Attributes) :
    perform (execute (.add millis parent draft)) session =
      match session.tree.add millis parent draft with
      | .ok (id, grown) => (.ok (.added id), session.withTree grown)
      | .error reason => (.error (.edit reason), session) := by
  rw [execute, perform_map, perform_onTree_atomic session (InPlace.perform_add ..)]
  cases session.tree.add millis parent draft <;> rfl

theorem perform_update (id : FieldId) (draft : Attributes) : perform (execute (.update id draft)) session =
    match session.tree.update id draft with
    | .ok updated => (.ok .done, session.withTree updated)
    | .error reason => (.error (.edit reason), session) := by
  rw [execute, perform_map, perform_onTree_atomic session (InPlace.perform_update ..)]
  cases session.tree.update id draft <;> rfl

theorem perform_delete (id : FieldId) : perform (execute (.delete id)) session =
    match session.tree.delete id with
    | .ok (count, pruned) => (.ok (.removed count), session.withTree pruned)
    | .error reason => (.error (.edit reason), session) := by
  rw [execute, perform_map, perform_onTree_atomic session (InPlace.perform_delete ..)]
  cases session.tree.delete id <;> rfl

theorem perform_move (id : FieldId) (target : Option FieldId) : perform (execute (.move id target)) session =
    match session.tree.move id target with
    | .ok moved => (.ok .done, session.withTree moved)
    | .error reason => (.error (.edit reason), session) := by
  rw [execute, perform_map, perform_onTree_atomic session (InPlace.perform_move ..)]
  cases session.tree.move id target <;> rfl

theorem perform_reorder (parent : Option FieldId) (source target : Nat) :
    perform (execute (.reorder parent source target)) session =
      match session.tree.reorder parent source target with
      | .ok reordered => (.ok .done, session.withTree reordered)
      | .error reason => (.error (.edit reason), session) := by
  rw [execute, perform_map, perform_onTree_atomic session (InPlace.perform_reorder ..)]
  cases session.tree.reorder parent source target <;> rfl

theorem perform_importDocument (text : String) : perform (execute (.importDocument text)) session =
    (match (session.importDocument text).1 with
      | .ok () => .ok .done
      | .error reason => .error (.document reason), (session.importDocument text).2) := by
  simp only [execute, importDocument, perform_bind, perform_get, readInPlace_eq]
  cases readDocument session.tree.nextSerial text <;> rfl

theorem perform_dragDrop :
    perform (execute .dragDrop) session = (.ok (.dropped session.dragDrop.1), session.dragDrop.2) := by
  simp only [execute, perform_bind, perform_get, perform_modify, perform_map, perform_onTree, InPlace.perform_drop]
  rfl

theorem perform_save (reply : Except ServiceError FlatMap) : perform (execute (.save reply)) session =
    match session.save reply with
    | .ok (sent, later) => (.ok (.saved sent), later)
    | .error reason => (.error (.service reason), session) := by
  cases reply <;> rfl

def Step.edit? : Step → Option Edit
  | .add millis parent draft => some (.add millis parent draft)
  | .update id draft => some (.update id draft)
  | .delete id => some (.delete id)
  | .move id target => some (.move id target)
  | .reorder parent source target => some (.reorder parent source target)
  | .importDocument text => some (.importDocument text)
  | .dragDrop => some (.drop session.drag)
  | _ => none

def Step.settles : Step → Bool
  | .markSaved | .save (.ok _) => true
  | _ => false

def Step.dragAfter : Step → Drag
  | .dragStart source => .dragging source
  | .dragOver hits => (session.drag.moveOver session.tree hits).2
  | .dragDrop | .dragCancel => .idle
  | _ => session.drag

def Step.importErrorAfter : Step → Option SchemaError
  | .importDocument text =>
    match readDocument session.tree.nextSerial text with
    | .ok _ => none
    | .error reason => some reason
  | _ => session.importError

/-- All that a step can change: the tree by an edit, the saved state by settling, the gesture, and the error of the
last import. -/
theorem after_eq (step : Step) : session.after step =
    { tree := match step.edit? session with
        | some edit => edit.apply session.tree
        | none => session.tree
      saved := if step.settles then session.tree.toJson else session.saved
      drag := step.dragAfter session
      importError := step.importErrorAfter session } := by
  cases step with
  | add millis parent draft =>
    rw [after, perform_add]
    simp only [Step.edit?, Edit.apply]
    cases session.tree.add millis parent draft <;> rfl
  | update id draft =>
    rw [after, perform_update]
    simp only [Step.edit?, Edit.apply]
    cases session.tree.update id draft <;> rfl
  | delete id =>
    rw [after, perform_delete]
    simp only [Step.edit?, Edit.apply]
    cases session.tree.delete id <;> rfl
  | move id target =>
    rw [after, perform_move]
    simp only [Step.edit?, Edit.apply]
    cases session.tree.move id target <;> rfl
  | reorder parent source target =>
    rw [after, perform_reorder]
    simp only [Step.edit?, Edit.apply]
    cases session.tree.reorder parent source target <;> rfl
  | importDocument text =>
    rw [after, perform_importDocument]
    simp only [Step.edit?, Edit.apply, Step.importErrorAfter, Session.importDocument, ofTree]
    cases readDocument session.tree.nextSerial text <;> rfl
  | dragDrop =>
    rw [after, perform_dragDrop]
    rfl
  | save reply =>
    rw [after, perform_save]
    cases reply <;> rfl
  | _ => rfl

theorem tree_after (step : Step) : (session.after step).tree =
    match step.edit? session with
    | some edit => edit.apply session.tree
    | none => session.tree := congrArg Session.tree (session.after_eq step)

theorem saved_after (step : Step) :
    (session.after step).saved = if step.settles then session.tree.toJson else session.saved :=
  congrArg Session.saved (session.after_eq step)

theorem reachable_after {session : Session} (reachable : session.tree.Reachable) (step : Step) :
    (session.after step).tree.Reachable := by
  rw [tree_after]
  split
  · exact .edit _ reachable
  · exact reachable

theorem reachable_run {session : Session} (reachable : session.tree.Reachable) (steps : List Step) :
    (session.run steps).tree.Reachable := by
  induction steps generalizing session with
  | nil => exact reachable
  | cons step rest ih => exact ih (reachable_after reachable step)

end ConfigSchema.Session
