import ConfigSchema.Forest
import ConfigSchema.Schema.Sketch

/-! Sketches as trees without ids: what holds of every sketch inside a sketch, and the sketches of a tree. -/

namespace ConfigSchema

namespace Sketch

def name (sketch : Sketch) : String := sketch.attributes.name

def kind (sketch : Sketch) : Kind := sketch.attributes.kind

@[simp] theorem name_mk (attributes : Attributes) (children : List Sketch) :
    (mk attributes children).name = attributes.name := rfl

@[simp] theorem kind_mk (attributes : Attributes) (children : List Sketch) :
    (mk attributes children).kind = attributes.kind := rfl

@[simp] theorem attributes_mk (attributes : Attributes) (children : List Sketch) :
    (mk attributes children).attributes = attributes := rfl

@[simp] theorem children_mk (attributes : Attributes) (children : List Sketch) :
    (mk attributes children).children = children := rfl

mutual
def Every (property : Sketch → Prop) : Sketch → Prop
  | mk attributes children => property (mk attributes children) ∧ EveryOf property children

def EveryOf (property : Sketch → Prop) : List Sketch → Prop
  | [] => True
  | sketch :: rest => sketch.Every property ∧ EveryOf property rest
end

section

variable {property : Sketch → Prop}

mutual
theorem every_of_forall (always : ∀ sketch, property sketch) : (sketch : Sketch) → sketch.Every property
  | mk _ children => ⟨always _, everyOf_of_forall always children⟩

theorem everyOf_of_forall (always : ∀ sketch, property sketch) :
    (sketches : List Sketch) → EveryOf property sketches
  | [] => trivial
  | sketch :: rest => ⟨every_of_forall always sketch, everyOf_of_forall always rest⟩
end

theorem everyOf_iff {sketches : List Sketch} :
    EveryOf property sketches ↔ ∀ sketch ∈ sketches, sketch.Every property := by
  induction sketches with
  | nil => simp [EveryOf]
  | cons sketch rest ih => rw [EveryOf, ih, List.forall_mem_cons]

theorem Every.here {sketch : Sketch} (every : sketch.Every property) : property sketch := by
  cases sketch
  exact every.1

theorem Every.below {sketch : Sketch} (every : sketch.Every property) :
    ∀ child ∈ sketch.children, child.Every property := by
  cases sketch
  exact everyOf_iff.mp every.2

end

def Sound : Sketch → Prop := Every fun sketch => sketch.children ≠ [] → sketch.kind.holdsFields = true

/-- Sketches that lie side by side have different names. -/
def Distinct : Sketch → Prop := Every fun sketch => (sketch.children.map name).Nodup

end Sketch

mutual
def Branch.sketch : Branch → Sketch
  | .mk field children => .mk field.attributes (Branch.sketches children)

def Branch.sketches : Forest → List Sketch
  | [] => []
  | branch :: rest => branch.sketch :: Branch.sketches rest
end

namespace Branch

@[simp] theorem attributes_sketch (branch : Branch) : branch.sketch.attributes = branch.field.attributes := by
  cases branch
  rfl

@[simp] theorem name_sketch (branch : Branch) : branch.sketch.name = branch.field.name := by
  cases branch
  rfl

@[simp] theorem kind_sketch (branch : Branch) : branch.sketch.kind = branch.field.kind := by
  cases branch
  rfl

@[simp] theorem children_sketch (branch : Branch) : branch.sketch.children = sketches branch.children := by
  cases branch
  rfl

end Branch

theorem Branch.sketches_append (first second : Forest) :
    sketches (first ++ second) = sketches first ++ sketches second := by
  induction first with
  | nil => rfl
  | cons branch rest ih => simp only [List.cons_append, sketches, ih]

/-- The sketches of all fields of a tree. -/
def SchemaTree.sketches (tree : SchemaTree) : List Sketch := Branch.sketches tree.forest

end ConfigSchema
