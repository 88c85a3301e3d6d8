import ConfigSchema.Forest
import ConfigSchema.Proofs.Tree.Ancestors

/-! What a list of ids stands for. In a well-formed tree every list of stored ids stands for one forest, the
walk downward meets exactly the ids of that forest, and these are the ids at or below those of the list. -/

namespace ConfigSchema

mutual
def Branch.ids : Branch → List FieldId
  | .mk field children => field.id :: Branch.forestIds children

def Branch.forestIds : Forest → List FieldId
  | [] => []
  | branch :: rest => branch.ids ++ Branch.forestIds rest
end

@[simp] theorem Branch.forestIds_append (first second : Forest) :
    forestIds (first ++ second) = forestIds first ++ forestIds second := by
  induction first with
  | nil => rfl
  | cons branch rest ih => simp only [List.cons_append, forestIds, ih, List.append_assoc]

namespace SchemaTree

open Relation

variable {tree : SchemaTree}

inductive Shows (tree : SchemaTree) : List FieldId → Forest → Prop
  | nil : Shows tree [] []
  | cons {id : FieldId} {node : Node} {rest : List FieldId} {below others : Forest}
      (found : tree.node? id = some node) (inside : Shows tree node.children below)
      (beside : Shows tree rest others) : Shows tree (id :: rest) (.mk node.field below :: others)

namespace Shows

theorem append {first second : List FieldId} {left right : Forest} (shown : tree.Shows first left)
    (after : tree.Shows second right) : tree.Shows (first ++ second) (left ++ right) := by
  induction shown with
  | nil => exact after
  | cons found inside _ _ ih => exact .cons found inside ih

theorem split {first second : List FieldId} {forest : Forest} (shown : tree.Shows (first ++ second) forest) :
    ∃ left right, forest = left ++ right ∧ tree.Shows first left ∧ tree.Shows second right := by
  induction first generalizing forest with
  | nil => exact ⟨[], forest, rfl, .nil, shown⟩
  | cons id rest ih =>
    cases shown with
    | cons found inside beside =>
      obtain ⟨left, right, rfl, here, there⟩ := ih beside
      exact ⟨_ :: left, right, rfl, .cons found inside here, there⟩

theorem unique {ids : List FieldId} {first second : Forest} (shown : tree.Shows ids first)
    (other : tree.Shows ids second) : first = second := by
  induction shown generalizing second with
  | nil => cases other; rfl
  | cons found _ _ insideIh besideIh =>
    cases other with
    | cons sought inside beside =>
      cases found.symm.trans sought
      rw [insideIh inside, besideIh beside]

theorem contains_of_mem {ids : List FieldId} {forest : Forest} (shown : tree.Shows ids forest) {id : FieldId}
    (member : id ∈ ids) : tree.contains id = true := by
  induction shown with
  | nil => cases member
  | cons found _ _ _ ih =>
    rcases List.mem_cons.mp member with rfl | later
    · exact contains_of_node found
    · exact ih later

/-- The walk meets the ids of the forest in their order, as many as it has steps for. -/
theorem walkWithin_eq (wellFormed : tree.WellFormed) (steps : Nat) {stack : List FieldId} {forest : Forest}
    (shown : tree.Shows stack forest) : tree.walkWithin steps stack = (Branch.forestIds forest).take steps := by
  induction steps generalizing stack forest with
  | zero => simp [walkWithin]
  | succ steps ih =>
    cases shown with
    | nil => simp [walkWithin, Branch.forestIds]
    | @cons id node rest below others found inside beside =>
      rw [walkWithin, children_of_node found, ih (inside.append beside), Branch.forestIds, Branch.ids,
        wellFormed.keyed id node found, Branch.forestIds_append, List.cons_append, List.take_succ_cons]

end Shows

/-- If the first tree has a field under this id, the second one has the same field over the same fields. -/
def Keeps (tree other : SchemaTree) (id : FieldId) : Prop :=
  ∀ node, tree.node? id = some node → ∃ after, other.node? id = some after ∧ after.field = node.field ∧
    after.children = node.children

theorem keeps_of_node {other : SchemaTree} {id : FieldId}
    (same : ∀ node, tree.node? id = some node → other.node? id = some node) : tree.Keeps other id :=
  fun node found => ⟨node, same node found, rfl, rfl⟩

/-- What a tree shows of a forest that another tree leaves alone, the other tree shows as well. -/
theorem Shows.transfer {other : SchemaTree} {ids : List FieldId} {forest : Forest}
    (keyed : ∀ id node, tree.node? id = some node → node.field.id = id) (shown : tree.Shows ids forest)
    (same : ∀ id ∈ Branch.forestIds forest, tree.Keeps other id) : other.Shows ids forest := by
  induction shown with
  | nil => exact .nil
  | @cons id node rest below others found _ _ insideIh besideIh =>
    rw [Branch.forestIds, Branch.ids, keyed id node found] at same
    obtain ⟨after, stored, field, children⟩ := same id (by simp) node found
    rw [← field]
    refine .cons stored (children ▸ insideIh fun other member => same other ?_)
      (besideIh fun other member => same other ?_)
    · exact List.mem_append_left _ (List.mem_cons_of_mem _ member)
    · exact List.mem_append_right _ member

theorem WellFormed.mem_children_iff (wellFormed : tree.WellFormed) {id child : FieldId} {node : Node}
    (found : tree.node? id = some node) : child ∈ node.children ↔ tree.Rises child id := by
  have list := siblings?_of_node found
  constructor
  · intro member
    exact wellFormed.parent_eq_of_mem list member
  · intro rises
    obtain ⟨below, stored, parent⟩ := rises.exists_node
    obtain ⟨siblings, held, member⟩ := wellFormed.placed child below stored
    rw [parent, list] at held
    cases held
    exact member

/-- A field stands in the list of the field that its entry names, and in no other. -/
theorem WellFormed.mem_children (wellFormed : tree.WellFormed) {id child : FieldId} :
    child ∈ tree.children id ↔ tree.Rises child id := by
  cases stored : tree.contains id with
  | true =>
    obtain ⟨node, found⟩ := exists_node_of_contains stored
    rw [children_of_node found]
    exact wellFormed.mem_children_iff found
  | false =>
    rw [children_of_missing stored]
    constructor
    · intro member
      cases member
    · intro rises
      rw [wellFormed.contains_above rises] at stored
      cases stored

theorem WellFormed.length_ancestors_of_mem_children (wellFormed : tree.WellFormed) {id child : FieldId}
    {node : Node} (found : tree.node? id = some node) (member : child ∈ node.children) :
    (tree.ancestors child).length = (tree.ancestors id).length + 1 := by
  rw [ancestors_of_rises wellFormed ((wellFormed.mem_children_iff found).mp member), List.length_cons]

theorem WellFormed.contains_of_mem_children (wellFormed : tree.WellFormed) {id child : FieldId} {node : Node}
    (found : tree.node? id = some node) (member : child ∈ node.children) : tree.contains child = true := by
  obtain ⟨below, stored, _⟩ := ((wellFormed.mem_children_iff found).mp member).exists_node
  exact contains_of_node stored

theorem shows_forestWithin (wellFormed : tree.WellFormed) (depth : Nat) {ids : List FieldId}
    (stored : ∀ id ∈ ids, tree.contains id = true)
    (deep : ∀ id ∈ ids, tree.size ≤ depth + (tree.ancestors id).length) :
    tree.Shows ids (tree.forestWithin depth ids) := by
  induction depth generalizing ids with
  | zero =>
    cases ids with
    | nil => exact .nil
    | cons id rest =>
      have short := length_ancestors_lt wellFormed (stored id (List.mem_cons_self ..))
      have long := deep id (List.mem_cons_self ..)
      omega
  | succ depth ihDepth =>
    induction ids with
    | nil => exact .nil
    | cons id rest ih =>
      obtain ⟨node, found⟩ := exists_node_of_contains (stored id (List.mem_cons_self ..))
      have beside := ih (fun other member => stored other (List.mem_cons_of_mem _ member))
        (fun other member => deep other (List.mem_cons_of_mem _ member))
      have inside : tree.Shows node.children (tree.forestWithin depth node.children) := by
        refine ihDepth (fun child member => wellFormed.contains_of_mem_children found member) ?_
        intro child member
        have long := deep id (List.mem_cons_self ..)
        rw [wellFormed.length_ancestors_of_mem_children found member]
        omega
      simp only [forestWithin, List.filterMap_cons, found, Option.map_some] at beside ⊢
      exact .cons found inside beside

theorem shows_forest (wellFormed : tree.WellFormed) : tree.Shows tree.roots tree.forest :=
  shows_forestWithin wellFormed tree.size
    (fun root member => by
      obtain ⟨node, found, _⟩ := wellFormed.listed none tree.roots rfl root member
      exact contains_of_node found)
    (fun _ _ => Nat.le_add_right ..)

theorem exists_shows (wellFormed : tree.WellFormed) {ids : List FieldId}
    (stored : ∀ id ∈ ids, tree.contains id = true) : ∃ forest, tree.Shows ids forest :=
  ⟨_, shows_forestWithin wellFormed tree.size stored (fun _ _ => Nat.le_add_right ..)⟩

theorem Shows.mem_forestIds_iff (wellFormed : tree.WellFormed) {ids : List FieldId} {forest : Forest}
    (shown : tree.Shows ids forest) {id : FieldId} :
    id ∈ Branch.forestIds forest ↔ ∃ top ∈ ids, ReflTransGen tree.Rises id top := by
  induction shown generalizing id with
  | nil => simp [Branch.forestIds]
  | @cons head node rest below others found inside beside insideIh besideIh =>
    simp only [Branch.forestIds, Branch.ids, wellFormed.keyed head node found, List.cons_append,
      List.mem_cons, List.mem_append, insideIh, besideIh, exists_eq_or_imp]
    rw [← or_assoc]
    apply or_congr_left
    constructor
    · rintro (rfl | ⟨child, member, way⟩)
      · exact .refl
      · exact way.tail ((wellFormed.mem_children_iff found).mp member)
    · intro way
      rcases Relation.ReflTransGen.cases_tail way with same | ⟨child, below, rises⟩
      · exact .inl same.symm
      · exact .inr ⟨child, (wellFormed.mem_children_iff found).mpr rises, below⟩

structure Apart (tree : SchemaTree) (ids : List FieldId) : Prop where
  distinct : ids.Nodup
  unrelated : ∀ first ∈ ids, ∀ second ∈ ids, ¬TransGen tree.Rises first second

theorem Apart.tail {id : FieldId} {rest : List FieldId} (apart : tree.Apart (id :: rest)) :
    tree.Apart rest where
  distinct := (List.nodup_cons.mp apart.distinct).2
  unrelated := fun first here second there =>
    apart.unrelated first (List.mem_cons_of_mem _ here) second (List.mem_cons_of_mem _ there)

/-- Two ids of the list with a common id at or below them would lie on one way up. -/
theorem Apart.separate {ids : List FieldId} (apart : tree.Apart ids) {first second id : FieldId}
    (here : first ∈ ids) (there : second ∈ ids) (different : first ≠ second)
    (way : ReflTransGen tree.Rises id first) : ¬ReflTransGen tree.Rises id second := by
  intro other
  rcases ReflTransGen.total_of_right_unique rises_functional way other with up | down
  · rcases reflTransGen_iff_eq_or_transGen.mp up with same | strict
    · exact different same.symm
    · exact apart.unrelated first here second there strict
  · rcases reflTransGen_iff_eq_or_transGen.mp down with same | strict
    · exact different same
    · exact apart.unrelated second there first here strict

theorem WellFormed.apart_children (wellFormed : tree.WellFormed) {id : FieldId} {node : Node}
    (found : tree.node? id = some node) : tree.Apart node.children where
  distinct := wellFormed.once (some id) node.children (siblings?_of_node found)
  unrelated := by
    intro first here second there way
    have rises := (wellFormed.mem_children_iff found).mp here
    obtain ⟨next, step, later⟩ := Relation.TransGen.head'_iff.mp way
    cases rises_functional rises step
    exact wellFormed.not_above_self id (.tail' later ((wellFormed.mem_children_iff found).mp there))

theorem WellFormed.apart_roots (wellFormed : tree.WellFormed) : tree.Apart tree.roots where
  distinct := wellFormed.once none tree.roots rfl
  unrelated := by
    intro first here second there way
    obtain ⟨next, step, _⟩ := Relation.TransGen.head'_iff.mp way
    have root : tree.parent? first = none := wellFormed.parent_eq_of_mem rfl here
    simp [Rises, root] at step

theorem WellFormed.apart_single (wellFormed : tree.WellFormed) (id : FieldId) : tree.Apart [id] where
  distinct := by simp
  unrelated := by simpa using wellFormed.not_above_self id

theorem Shows.nodup_forestIds (wellFormed : tree.WellFormed) {ids : List FieldId} {forest : Forest}
    (shown : tree.Shows ids forest) (apart : tree.Apart ids) : (Branch.forestIds forest).Nodup := by
  induction shown with
  | nil => simp [Branch.forestIds]
  | @cons head node rest below others found inside beside insideIh besideIh =>
    have fresh := (List.nodup_cons.mp apart.distinct).1
    have separate : ∀ id, id ∈ Branch.forestIds others → ¬ReflTransGen tree.Rises id head := by
      intro id member way
      obtain ⟨top, listed, other⟩ := (beside.mem_forestIds_iff wellFormed).mp member
      exact apart.separate (List.mem_cons_self ..) (List.mem_cons_of_mem _ listed)
        (fun same => fresh (same ▸ listed)) way other
    simp only [Branch.forestIds, Branch.ids, wellFormed.keyed head node found, List.cons_append,
      List.nodup_cons, List.mem_append, List.nodup_append]
    refine ⟨?_, insideIh (wellFormed.apart_children found), besideIh apart.tail, ?_⟩
    · rintro (member | member)
      · obtain ⟨child, listed, way⟩ := (inside.mem_forestIds_iff wellFormed).mp member
        exact wellFormed.not_above_self head (.tail' way ((wellFormed.mem_children_iff found).mp listed))
      · exact separate head member .refl
    · rintro id member other there rfl
      obtain ⟨child, listed, way⟩ := (inside.mem_forestIds_iff wellFormed).mp member
      exact separate id there (way.tail ((wellFormed.mem_children_iff found).mp listed))

theorem Shows.length_forestIds_le (wellFormed : tree.WellFormed) {ids : List FieldId} {forest : Forest}
    (shown : tree.Shows ids forest) (apart : tree.Apart ids) :
    (Branch.forestIds forest).length ≤ tree.size := by
  apply length_le_size (shown.nodup_forestIds wellFormed apart)
  intro id member
  obtain ⟨top, listed, way⟩ := (shown.mem_forestIds_iff wellFormed).mp member
  rcases Relation.ReflTransGen.cases_head way with rfl | ⟨next, rises, _⟩
  · exact shown.contains_of_mem listed
  · obtain ⟨node, found, _⟩ := rises.exists_node
    exact contains_of_node found

theorem Shows.subtree_eq (wellFormed : tree.WellFormed) {top : FieldId} {forest : Forest}
    (shown : tree.Shows [top] forest) : tree.subtree top = Branch.forestIds forest := by
  have few := shown.length_forestIds_le wellFormed (wellFormed.apart_single top)
  rw [subtree, shown.walkWithin_eq wellFormed, List.take_of_length_le few]

theorem mem_subtree_iff (wellFormed : tree.WellFormed) {top id : FieldId} (stored : tree.contains top = true) :
    id ∈ tree.subtree top ↔ ReflTransGen tree.Rises id top := by
  obtain ⟨forest, shown⟩ : ∃ forest, tree.Shows [top] forest := exists_shows wellFormed (by simpa using stored)
  rw [shown.subtree_eq wellFormed, shown.mem_forestIds_iff wellFormed]
  simp

namespace WellFormed

variable (wellFormed : tree.WellFormed)

include wellFormed

theorem mem_forestIds_forest {id : FieldId} :
    id ∈ Branch.forestIds tree.forest ↔ tree.contains id = true := by
  have shown := shows_forest wellFormed
  rw [shown.mem_forestIds_iff wellFormed]
  constructor
  · rintro ⟨root, member, way⟩
    rcases way.cases_head with rfl | ⟨next, rises, _⟩
    · exact shown.contains_of_mem member
    · obtain ⟨node, found, _⟩ := rises.exists_node
      exact contains_of_node found
  · intro stored
    obtain ⟨steps, _, root, member, way⟩ := exists_climb_root wellFormed stored
    refine ⟨root, member, ?_⟩
    cases steps with
    | zero =>
      cases way
      exact .refl
    | succ steps => exact (transGen_of_climb way).to_reflTransGen

theorem nodup_forestIds_forest : (Branch.forestIds tree.forest).Nodup :=
  (shows_forest wellFormed).nodup_forestIds wellFormed wellFormed.apart_roots

end WellFormed

end SchemaTree

end ConfigSchema
