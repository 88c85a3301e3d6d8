import ConfigSchema.Tree.Basic
import Mathlib.Data.List.Perm.Subperm
import Mathlib.Logic.Relation

/-! The way up from a field. In a well-formed tree the fields above a stored field are stored, no two of them
are the same, and so there are fewer of them than the tree has fields: the bound of the walk is never met. -/

namespace ConfigSchema.SchemaTree

variable {tree : SchemaTree}

def Rises (tree : SchemaTree) (id above : FieldId) : Prop := tree.parent? id = some above

def climb (tree : SchemaTree) : Nat → FieldId → Option FieldId
  | 0, id => some id
  | steps + 1, id => (tree.parent? id).bind (tree.climb steps)

theorem contains_iff_mem_keys (id : FieldId) : tree.contains id = true ↔ id ∈ Keyed.keys tree.nodes := by
  rw [contains, node?, Option.isSome_iff_ne_none, ne_eq, Keyed.find?_eq_none_iff, not_not]

theorem exists_node_of_contains {id : FieldId} (stored : tree.contains id = true) :
    ∃ node, tree.node? id = some node := Option.isSome_iff_exists.mp stored

theorem node?_of_missing {id : FieldId} (missing : tree.contains id = false) : tree.node? id = none := by
  simpa [contains] using missing

theorem parent?_of_missing {id : FieldId} (missing : tree.contains id = false) : tree.parent? id = none := by
  rw [parent?, node?_of_missing missing, Option.bind_none]

theorem children_of_missing {id : FieldId} (missing : tree.contains id = false) : tree.children id = [] := by
  rw [children, node?_of_missing missing]
  rfl

theorem contains_of_node {id : FieldId} {node : Node} (found : tree.node? id = some node) :
    tree.contains id = true := by rw [contains, found, Option.isSome_some]

section

variable {id : FieldId} {node : Node} (found : tree.node? id = some node)

include found

theorem get?_of_node : tree.get? id = some node.field := by rw [get?, found, Option.map_some]

theorem name?_of_node : tree.name? id = some node.field.name := by
  rw [name?, get?_of_node found, Option.map_some]

theorem siblings?_of_node : tree.siblings? (some id) = some node.children := by
  rw [siblings?, found, Option.map_some]

theorem children_of_node : tree.children id = node.children := by
  rw [children, found]
  rfl

theorem parent?_of_node : tree.parent? id = node.parent := by rw [parent?, found, Option.bind_some]

theorem rises_iff_of_node {above : FieldId} : tree.Rises id above ↔ node.parent = some above := by
  rw [Rises, parent?_of_node found]

end

theorem Rises.exists_node {id above : FieldId} (rises : tree.Rises id above) :
    ∃ node, tree.node? id = some node ∧ node.parent = some above := by
  cases found : tree.node? id with
  | none => simp [Rises, parent?, found] at rises
  | some node => exact ⟨node, rfl, (rises_iff_of_node found).mp rises⟩

theorem rises_functional : Relator.RightUnique tree.Rises := fun _ _ _ first second =>
  Option.some.inj (first.symm.trans second)

namespace WellFormed

theorem contains_above (wellFormed : tree.WellFormed) {id above : FieldId} (rises : tree.Rises id above) :
    tree.contains above = true := by
  obtain ⟨node, found, parent⟩ := rises.exists_node
  obtain ⟨siblings, list, _⟩ := wellFormed.placed id node found
  rw [parent, siblings?, Option.map_eq_some_iff] at list
  obtain ⟨holder, stored, _⟩ := list
  exact contains_of_node stored

/-- Nothing lies above itself. -/
theorem not_above_self (wellFormed : tree.WellFormed) (id : FieldId) :
    ¬Relation.TransGen tree.Rises id id := by
  obtain ⟨height, falls⟩ := wellFormed.grounded
  have lower : ∀ {low high : FieldId}, Relation.TransGen tree.Rises low high → height high < height low := by
    intro low high way
    induction way with
    | single rises => exact falls _ _ rises
    | tail _ rises ih => exact Nat.lt_trans (falls _ _ rises) ih
  exact fun way => Nat.lt_irrefl _ (lower way)

end WellFormed

theorem transGen_of_mem_ancestorsWithin {steps : Nat} {id above : FieldId}
    (member : above ∈ tree.ancestorsWithin steps id) : Relation.TransGen tree.Rises id above := by
  induction steps generalizing id with
  | zero => simp [ancestorsWithin] at member
  | succ steps ih =>
    cases rises : tree.parent? id with
    | none => simp [ancestorsWithin, rises] at member
    | some next =>
      simp only [ancestorsWithin, rises, List.mem_cons] at member
      rcases member with rfl | later
      · exact .single rises
      · exact .head rises (ih later)

theorem nodup_ancestorsWithin (wellFormed : tree.WellFormed) (steps : Nat) (id : FieldId) :
    (id :: tree.ancestorsWithin steps id).Nodup := by
  induction steps generalizing id with
  | zero => simp [ancestorsWithin]
  | succ steps ih =>
    refine List.nodup_cons.mpr ⟨fun member => wellFormed.not_above_self id
      (transGen_of_mem_ancestorsWithin member), ?_⟩
    cases rises : tree.parent? id with
    | none => simp [ancestorsWithin, rises]
    | some next => simpa only [ancestorsWithin, rises] using ih next

theorem contains_of_mem_ancestorsWithin (wellFormed : tree.WellFormed) {steps : Nat} {id above : FieldId}
    (member : above ∈ tree.ancestorsWithin steps id) : tree.contains above = true := by
  obtain ⟨_, _, last⟩ := Relation.TransGen.tail'_iff.mp (transGen_of_mem_ancestorsWithin member)
  exact wellFormed.contains_above last

/-- Different stored fields are at most as many as the tree has. -/
theorem length_le_size {ids : List FieldId} (distinct : ids.Nodup)
    (stored : ∀ id ∈ ids, tree.contains id = true) : ids.length ≤ tree.size := by
  have included : ids ⊆ Keyed.keys tree.nodes := fun id member =>
    (contains_iff_mem_keys id).mp (stored id member)
  have bound := (List.Nodup.subperm distinct included).length_le
  rwa [Keyed.keys, List.length_map] at bound

theorem length_ancestorsWithin_lt (wellFormed : tree.WellFormed) (steps : Nat) {id : FieldId}
    (stored : tree.contains id = true) : (tree.ancestorsWithin steps id).length < tree.size := by
  have bound := length_le_size (nodup_ancestorsWithin wellFormed steps id) (fun other member => by
    rcases List.mem_cons.mp member with rfl | above
    · exact stored
    · exact contains_of_mem_ancestorsWithin wellFormed above)
  exact bound

theorem ancestorsWithin_succ_of_length_lt {steps : Nat} {id : FieldId}
    (short : (tree.ancestorsWithin steps id).length < steps) :
    tree.ancestorsWithin (steps + 1) id = tree.ancestorsWithin steps id := by
  induction steps generalizing id with
  | zero => simp at short
  | succ steps ih =>
    cases rises : tree.parent? id with
    | none => simp only [ancestorsWithin, rises]
    | some next =>
      simp only [ancestorsWithin, rises, List.length_cons, Nat.add_lt_add_iff_right] at short
      have same := ih short
      simp only [ancestorsWithin] at same
      simp only [ancestorsWithin, rises, same]

/-- The fields above a field, one step at a time. -/
theorem ancestors_of_rises (wellFormed : tree.WellFormed) {id above : FieldId} (rises : tree.Rises id above) :
    tree.ancestors id = above :: tree.ancestors above := by
  have stored := wellFormed.contains_above rises
  have short := length_ancestorsWithin_lt wellFormed tree.size stored
  have same := ancestorsWithin_succ_of_length_lt short
  obtain ⟨node, found, _⟩ := rises.exists_node
  have enough := ancestorsWithin_succ_of_length_lt
    (length_ancestorsWithin_lt wellFormed tree.size (contains_of_node found))
  rw [ancestors, ← enough, ancestorsWithin, show tree.parent? id = some above from rises]
  rfl

theorem ancestors_of_root {id : FieldId} (root : tree.parent? id = none) : tree.ancestors id = [] := by
  cases size : tree.size with
  | zero => simp [ancestors, size, ancestorsWithin]
  | succ steps => simp only [ancestors, size, ancestorsWithin, root]

theorem length_ancestors_lt (wellFormed : tree.WellFormed) {id : FieldId}
    (stored : tree.contains id = true) : (tree.ancestors id).length < tree.size :=
  length_ancestorsWithin_lt wellFormed tree.size stored

theorem mem_ancestors_iff (wellFormed : tree.WellFormed) {id above : FieldId} :
    above ∈ tree.ancestors id ↔ Relation.TransGen tree.Rises id above := by
  refine ⟨transGen_of_mem_ancestorsWithin, fun way => ?_⟩
  induction way using Relation.TransGen.head_induction_on with
  | single rises =>
    rw [ancestors_of_rises wellFormed rises]
    exact List.mem_cons_self ..
  | head rises _ ih =>
    rw [ancestors_of_rises wellFormed rises]
    exact List.mem_cons_of_mem _ ih

theorem isAncestor_iff (wellFormed : tree.WellFormed) {above below : FieldId} :
    tree.isAncestor above below = true ↔ Relation.TransGen tree.Rises below above := by
  rw [isAncestor, List.contains_iff_mem, mem_ancestors_iff wellFormed]

/-- Every way up ends at a root, after fewer steps than the tree has fields. -/
theorem exists_climb_root (wellFormed : tree.WellFormed) {id : FieldId} (stored : tree.contains id = true) :
    ∃ steps < tree.size, ∃ root ∈ tree.roots, tree.climb steps id = some root := by
  have reaches : ∀ (count : Nat) (id : FieldId), (tree.ancestors id).length = count →
      tree.contains id = true → ∃ root ∈ tree.roots, tree.climb count id = some root := by
    intro count
    induction count with
    | zero =>
      intro id none_above stored
      obtain ⟨node, found⟩ := exists_node_of_contains stored
      obtain ⟨siblings, list, member⟩ := wellFormed.placed id node found
      cases parent : node.parent with
      | none =>
        rw [parent] at list
        cases list
        exact ⟨id, member, rfl⟩
      | some above =>
        have rises : tree.Rises id above := (rises_iff_of_node found).mpr parent
        simp [ancestors_of_rises wellFormed rises] at none_above
    | succ count ih =>
      intro id many stored
      cases rises : tree.parent? id with
      | none => simp [ancestors_of_root rises] at many
      | some above =>
        rw [ancestors_of_rises wellFormed rises, List.length_cons, Nat.add_right_cancel_iff] at many
        obtain ⟨root, member, way⟩ := ih above many (wellFormed.contains_above rises)
        exact ⟨root, member, by rw [climb, rises, Option.bind_some, way]⟩
  exact ⟨_, length_ancestors_lt wellFormed stored, reaches _ id rfl stored⟩

theorem transGen_of_climb {steps : Nat} {id above : FieldId} (way : tree.climb (steps + 1) id = some above) :
    Relation.TransGen tree.Rises id above := by
  induction steps generalizing id with
  | zero =>
    obtain ⟨next, rises, same⟩ := Option.bind_eq_some_iff.mp way
    cases same
    exact .single rises
  | succ steps ih =>
    obtain ⟨next, rises, later⟩ := Option.bind_eq_some_iff.mp way
    exact .head rises (ih later)

end ConfigSchema.SchemaTree
