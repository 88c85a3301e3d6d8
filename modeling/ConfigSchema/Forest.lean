import ConfigSchema.Field.Codec
import ConfigSchema.Tree.Basic

/-! Forests: fields with the fields below them inside. A forest is what a reader of a tree sees, and all
that is written of a tree is written from its forest. -/

namespace ConfigSchema

/-- A field with everything below it, in order. -/
inductive Branch where
  | mk (field : Field) (children : List Branch)

abbrev Forest := List Branch

namespace Branch

def field : Branch → Field
  | mk field _ => field

def children : Branch → Forest
  | mk _ children => children

mutual
def decEq : (first second : Branch) → Decidable (first = second)
  | mk field children, mk other others =>
    have := decEqForest children others
    decidable_of_iff (field = other ∧ children = others) (by simp)

def decEqForest : (first second : Forest) → Decidable (first = second)
  | [], [] => .isTrue rfl
  | [], _ :: _ | _ :: _, [] => .isFalse (by simp)
  | branch :: rest, other :: others =>
    have := decEq branch other
    have := decEqForest rest others
    decidable_of_iff (branch = other ∧ rest = others) (by simp)
end

instance : DecidableEq Branch := decEq

mutual
/-- The field's members, and its fields below as the last member if it has any. -/
def toJson : Branch → Json
  | mk field children => .object (field.toMembers ++ childMember children)

def childMember : Forest → List (String × Json)
  | [] => []
  | branch :: rest => [("children", .array (branch.toJson :: forestItems rest))]

def forestItems : Forest → List Json
  | [] => []
  | branch :: rest => branch.toJson :: forestItems rest
end

def forestJson (forest : Forest) : Json := .array (forestItems forest)

mutual
def outlineAt (depth : Nat) : Branch → String
  | mk field children =>
    String.ofList (List.replicate (2 * depth) ' ') ++ field.name ++ ": " ++ field.kind.label ++
      (if field.required then "*" else "") ++ "\n" ++ outlineForest (depth + 1) children

def outlineForest (depth : Nat) : Forest → String
  | [] => ""
  | branch :: rest => branch.outlineAt depth ++ outlineForest depth rest
end

end Branch

namespace SchemaTree

def forestWithin (tree : SchemaTree) : Nat → List FieldId → Forest
  | 0, _ => []
  | depth + 1, ids => ids.filterMap fun id =>
    (tree.node? id).map fun node => .mk node.field (tree.forestWithin depth node.children)

def forest (tree : SchemaTree) : Forest := tree.forestWithin tree.size tree.roots

def toJson (tree : SchemaTree) : Json := Branch.forestJson tree.forest

/-- A line for each field, indented by its depth; required fields end in a star. -/
def outline (tree : SchemaTree) : String := Branch.outlineForest 0 tree.forest

end SchemaTree

end ConfigSchema
