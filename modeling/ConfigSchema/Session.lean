import ConfigSchema.Drag
import ConfigSchema.Flat.Export
import ConfigSchema.Flat.Planting
import ConfigSchema.Json.Reader
import ConfigSchema.Service.Client

/-! Editing sessions: a tree with the state that was last saved, the gesture in progress, and the error of
the last import that failed. -/

namespace ConfigSchema

/-- The saved state is kept in its written form. -/
structure Session where
  tree : SchemaTree
  saved : Json
  drag : Drag
  importError : Option SchemaError
  deriving DecidableEq

inductive SessionError where
  | service (error : ServiceError)
  | schema (error : SchemaError)
  deriving DecidableEq

namespace Session

def ofTree (tree : SchemaTree) : Session := ⟨tree, tree.toJson, .idle, none⟩

def empty : Session := ofTree .empty

instance : Inhabited Session := ⟨empty⟩

def ofFlat (map : FlatMap) : Except SchemaError Session := (SchemaTree.ofFlat map).map ofTree

def load : Except ServiceError FlatMap → Except SessionError Session
  | .error reason => .error (.service reason)
  | .ok map => (ofFlat map).mapError .schema

def loadOrEmpty (reply : Except ServiceError FlatMap) : Session :=
  match load reply with
  | .ok session => session
  | .error _ => empty

def hasChanges (session : Session) : Bool := session.tree.toJson != session.saved

def markSaved (session : Session) : Session := { session with saved := session.tree.toJson }

def exportDocument (session : Session) : String := session.tree.document.pretty

/-- The tree of a document in JSON. Its ids go on where those of another tree end. -/
def readDocument (serial : Nat) (text : String) : Except SchemaError SchemaTree :=
  match Json.read text with
  | none => .error .invalidJson
  | some document => SchemaTree.ofDocumentFrom serial document

/-- Replaces the tree by that of a document. When that fails the tree stays and the error is kept. -/
def importDocument (session : Session) (text : String) : Except SchemaError Unit × Session :=
  match readDocument session.tree.nextSerial text with
  | .ok tree => (.ok (), { session with tree, importError := none })
  | .error reason => (.error reason, { session with importError := some reason })

variable [Pattern.Engine]

def submission (session : Session) : Export := session.tree.toExport

def report (session : Session) (values : List (String × Json)) : Report := session.tree.report values

/-- Takes in the service's answer to a save. The session counts as saved only if the service took the
map. -/
def save (session : Session) (reply : Except ServiceError FlatMap) :
    Except ServiceError (Export × Session) :=
  reply.map fun _ => (session.submission, session.markSaved)

def withTree (session : Session) (tree : SchemaTree) : Session := { session with tree }

def dragStart (session : Session) (source : FieldId) : Session :=
  { session with drag := .dragging source }

def dragOver (session : Session) (hits : List DropTarget) : Bool × Session :=
  let (accepted, drag) := session.drag.moveOver session.tree hits
  (accepted, { session with drag })

def dragDrop (session : Session) : DropOutcome × Session :=
  let (outcome, tree) := session.drag.drop session.tree
  (outcome, { session with tree, drag := .idle })

def dragCancel (session : Session) : Session := { session with drag := .idle }

end Session

end ConfigSchema
