import ConfigSchema.Field.Basic
import ConfigSchema.Path

/-! The tree of fields. Fields lie in one table under their ids; every entry names the entry above it and
lists the entries below it in order, so that an edit touches the lists concerned and nothing else. A tree is walked
upward along the fields above a field, downward in depth-first order, and along the segments of a dot path; the first
two walks take at most as many steps as the tree has fields, which is enough for every tree in which no field lies above
itself. In a well-formed tree the lists and the entries agree on which field lies where, and going upward ends. -/

namespace ConfigSchema

structure Node where
  field : Field
  parent : Option FieldId
  children : List FieldId
  deriving DecidableEq

/-- Fields in their order, with the serial number of the next id. -/
structure SchemaTree where
  nodes : List (FieldId × Node)
  roots : List FieldId
  nextSerial : Nat
  deriving DecidableEq

inductive TreeError where
  | fieldNotFound (id : FieldId)
  | selfParent (id : FieldId)
  | cycle (field target : FieldId)
  | notAContainer (id : FieldId)
  | hasChildren (id : FieldId)
  | indexOutOfRange (index count : Nat)
  | invalidName (name : String)
  deriving DecidableEq

def TreeError.message : TreeError → String
  | .fieldNotFound id => "Field not found: " ++ id.text
  | .selfParent id => "Cannot move field " ++ id.text ++ " into itself"
  | .cycle field target =>
    "Cannot move field " ++ field.text ++ " into its own descendant " ++ target.text
  | .notAContainer id => "Field " ++ id.text ++ " cannot contain child fields"
  | .hasChildren id => "Field " ++ id.text ++ " has child fields and cannot become a leaf type"
  | .indexOutOfRange index count =>
    "Index " ++ toString index ++ " out of range for " ++ toString count ++ " siblings"
  | .invalidName name => "Field name '" ++ name ++ "' must not contain '.'"

namespace SchemaTree

def emptyFrom (serial : Nat) : SchemaTree := ⟨[], [], serial⟩

def empty : SchemaTree := emptyFrom 0

instance : Inhabited SchemaTree := ⟨empty⟩

def size (tree : SchemaTree) : Nat := tree.nodes.length

def isEmpty (tree : SchemaTree) : Bool := tree.nodes.isEmpty

def node? (tree : SchemaTree) (id : FieldId) : Option Node := Keyed.find? id tree.nodes

def contains (tree : SchemaTree) (id : FieldId) : Bool := (tree.node? id).isSome

def get? (tree : SchemaTree) (id : FieldId) : Option Field := (tree.node? id).map Node.field

/-- The fields just below a field; leaves and unknown ids have none. -/
def children (tree : SchemaTree) (id : FieldId) : List FieldId :=
  ((tree.node? id).map Node.children).getD []

/-- The field above a field; there is none above a root or an unknown id. -/
def parent? (tree : SchemaTree) (id : FieldId) : Option FieldId := (tree.node? id).bind Node.parent

def siblings? (tree : SchemaTree) : Option FieldId → Option (List FieldId)
  | none => some tree.roots
  | some parent => (tree.node? parent).map Node.children

def index? (tree : SchemaTree) (id : FieldId) : Option Nat := do
  let node ← tree.node? id
  let siblings ← tree.siblings? node.parent
  siblings.idxOf? id

def modifyNode (tree : SchemaTree) (id : FieldId) (change : Node → Node) : SchemaTree :=
  { tree with nodes := Keyed.modify id change tree.nodes }

def ancestorsWithin (tree : SchemaTree) : Nat → FieldId → List FieldId
  | 0, _ => []
  | steps + 1, id =>
    match tree.parent? id with
    | none => []
    | some above => above :: tree.ancestorsWithin steps above

/-- The fields above a field, the nearest first. -/
def ancestors (tree : SchemaTree) (id : FieldId) : List FieldId := tree.ancestorsWithin tree.size id

def isAncestor (tree : SchemaTree) (above below : FieldId) : Bool := (tree.ancestors below).contains above

def walkWithin (tree : SchemaTree) : Nat → List FieldId → List FieldId
  | 0, _ => []
  | _ + 1, [] => []
  | steps + 1, id :: rest => id :: tree.walkWithin steps (tree.children id ++ rest)

/-- All fields, each before the fields below it and siblings in order. -/
def preorder (tree : SchemaTree) : List FieldId := tree.walkWithin tree.size tree.roots

def subtree (tree : SchemaTree) (id : FieldId) : List FieldId := tree.walkWithin tree.size [id]

def name? (tree : SchemaTree) (id : FieldId) : Option String :=
  (tree.get? id).map fun field => field.name

/-- The names from the top down to a field, joined by dots. -/
def path? (tree : SchemaTree) (id : FieldId) : Option String := do
  let names ← (id :: tree.ancestors id).mapM tree.name?
  some (Path.dotted names.reverse)

def findChild (tree : SchemaTree) (parent : Option FieldId) (name : String) : Option FieldId := do
  let siblings ← tree.siblings? parent
  siblings.find? fun id => tree.name? id == some name

def findBelow (tree : SchemaTree) (current : Option FieldId) : List String → Option FieldId
  | [] => current
  | segment :: rest =>
    match tree.findChild current segment with
    | none => none
    | some id => tree.findBelow (some id) rest

/-- The field at a dot path, each segment taking the first field of its name. -/
def findPath (tree : SchemaTree) (path : String) : Option FieldId :=
  tree.findBelow none (Path.segments path)

structure WellFormed (tree : SchemaTree) : Prop where
  /-- No id has two entries. -/
  distinct : (Keyed.keys tree.nodes).Nodup
  /-- An entry stands under the id of its field. -/
  keyed : ∀ id node, tree.node? id = some node → node.field.id = id
  /-- No list names a field twice. -/
  once : ∀ parent siblings, tree.siblings? parent = some siblings → siblings.Nodup
  /-- The fields of a list have entries that name the holder of the list. -/
  listed : ∀ parent siblings, tree.siblings? parent = some siblings →
    ∀ id ∈ siblings, ∃ node, tree.node? id = some node ∧ node.parent = parent
  /-- A field stands in the list of the holder that its entry names. -/
  placed : ∀ id node, tree.node? id = some node →
    ∃ siblings, tree.siblings? node.parent = some siblings ∧ id ∈ siblings
  /-- Only containers have fields below them. -/
  contained : ∀ id node, tree.node? id = some node → node.children ≠ [] → node.field.kind.holdsFields = true
  /-- Fields have heights that fall on the way up. -/
  grounded : ∃ height : FieldId → Nat, ∀ id above, tree.parent? id = some above → height above < height id

theorem wellFormed_emptyFrom (serial : Nat) : (emptyFrom serial).WellFormed where
  distinct := by simp [emptyFrom, Keyed.keys]
  keyed := by simp [emptyFrom, node?, Keyed.find?]
  once := by
    intro parent siblings found
    cases parent <;> simp_all [emptyFrom, siblings?, node?, Keyed.find?]
  listed := by
    intro parent siblings found
    cases parent <;> simp_all [emptyFrom, siblings?, node?, Keyed.find?]
  placed := by simp [emptyFrom, node?, Keyed.find?]
  contained := by simp [emptyFrom, node?, Keyed.find?]
  grounded := ⟨fun _ => 0, by simp [emptyFrom, parent?, node?, Keyed.find?]⟩

namespace WellFormed

variable {tree : SchemaTree}

theorem parent_eq_of_mem (wellFormed : tree.WellFormed) {parent : Option FieldId} {siblings : List FieldId}
    {id : FieldId} (found : tree.siblings? parent = some siblings) (member : id ∈ siblings) :
    tree.parent? id = parent := by
  obtain ⟨node, entry, above⟩ := wellFormed.listed parent siblings found id member
  simp [parent?, entry, above]

end WellFormed

end SchemaTree

end ConfigSchema
