import ConfigSchema.Proofs.Sketch.Grafting
import ConfigSchema.Proofs.Sketch.OfTree
import ConfigSchema.Proofs.Tree.Plants

/-! Growing trees and grafted sketches. A change of what lies under a field is, seen from the top, the same change
along the names of that field, as long as these names lead to no other field. -/

namespace ConfigSchema.SchemaTree

open Relation

variable {tree grown : SchemaTree} {id : FieldId} {change : List Sketch → List Sketch}

structure Reshaped (tree grown : SchemaTree) (id : FieldId) (change : List Sketch → List Sketch) : Prop where
  roots : grown.roots = tree.roots
  aside : ∀ other node, tree.node? other = some node → ¬ReflTransGen tree.Rises other id →
    grown.node? other = some node
  inside : ∃ before after below above, tree.node? id = some before ∧ grown.node? id = some after ∧
    after.field = before.field ∧ tree.Shows before.children below ∧ grown.Shows after.children above ∧
      Branch.sketches above = change (Branch.sketches below)

theorem Reshaped.shows_siblings (reshaped : tree.Reshaped grown id change) (wellFormed : tree.WellFormed)
    {left right : List FieldId} {forest : Forest} (shown : tree.Shows (left ++ id :: right) forest)
    (apart : tree.Apart (left ++ id :: right)) {name : String} (named : tree.name? id = some name)
    (first : ∀ other ∈ left, tree.name? other ≠ some name) :
    ∃ others, grown.Shows (left ++ id :: right) others ∧
      Branch.sketches others = Sketch.within name change (Branch.sketches forest) := by
  obtain ⟨before, after, below, above, found, now, same, inner, outer, changed⟩ := reshaped.inside
  obtain ⟨early, rest, rfl, shownLeft, shownRest⟩ := shown.split
  cases shownRest with
  | @cons _ node _ inner' late found' inside' beside =>
    cases found.symm.trans found'
    cases inner.unique inside'
    have distinct := List.nodup_append.mp apart.distinct
    have stays : ∀ {ids : List FieldId} {forest : Forest}, tree.Shows ids forest →
        (∀ other ∈ ids, other ∈ left ++ id :: right ∧ other ≠ id) → grown.Shows ids forest := by
      intro ids forest shown beside
      refine shown.transfer wellFormed.keyed fun other member => keeps_of_node fun node stored =>
        reshaped.aside other node stored ?_
      obtain ⟨top, listed, way⟩ := (shown.mem_forestIds_iff wellFormed).mp member
      exact apart.separate (beside top listed).1 (by simp) (beside top listed).2 way
    have keepsLeft : grown.Shows left early := stays shownLeft fun other member =>
      ⟨by simp [member], fun same => distinct.2.2 other member id (by simp) same⟩
    have keepsRight : grown.Shows right late := stays beside fun other member =>
      ⟨by simp [member], fun same => (List.nodup_cons.mp distinct.2.1).1 (same ▸ member)⟩
    refine ⟨early ++ .mk after.field above :: late, keepsLeft.append (.cons now outer keepsRight), ?_⟩
    have own : (Branch.mk before.field below).sketch.name = name :=
      Option.some.inj ((name?_of_node found).symm.trans named)
    have fresh : name ∉ (Branch.sketches early).map Sketch.name := by
      intro member
      obtain ⟨other, held, twin⟩ := shownLeft.exists_named member
      exact first other held twin
    rw [Branch.sketches_append, Branch.sketches_append, Branch.sketches, Branch.sketches,
      Sketch.within_append fresh own, Branch.sketch, changed, same]
    rfl

theorem Reshaped.above (reshaped : tree.Reshaped grown id change) (wellFormed : tree.WellFormed) {parent : FieldId}
    (rises : tree.Rises id parent) {name : String} (named : tree.name? id = some name)
    (alone : ∀ other, tree.Rises other parent → tree.name? other = some name → other = id) :
    tree.Reshaped grown parent (Sketch.within name change) := by
  obtain ⟨node, found⟩ := exists_node_of_contains (wellFormed.contains_above rises)
  obtain ⟨left, right, split⟩ := List.append_of_mem ((wellFormed.mem_children_iff found).mpr rises)
  have apart := wellFormed.apart_children found
  obtain ⟨forest, shown⟩ := exists_shows wellFormed fun child => wellFormed.contains_of_mem_children found
  have unmoved : grown.node? parent = some node := reshaped.aside parent node found fun way =>
    wellFormed.not_above_self id (.head' rises way)
  have first : ∀ other ∈ left, tree.name? other ≠ some name := by
    intro other member twin
    have listed : other ∈ node.children := by simp [split, member]
    have same := alone other ((wellFormed.mem_children_iff found).mp listed) twin
    rw [split] at apart
    exact (List.nodup_append.mp apart.distinct).2.2 other member id (by simp) same
  obtain ⟨others, now, changed⟩ :=
    reshaped.shows_siblings wellFormed (split ▸ shown) (split ▸ apart) named first
  refine ⟨reshaped.roots, fun other node stored unrelated => reshaped.aside other node stored fun way =>
    unrelated (way.tail rises), node, node, forest, others, found, unmoved, rfl, shown, ?_, changed⟩
  rw [split]
  exact now

theorem Spells.sketches_along {names : List String} (spelt : tree.Spells id names) (wellFormed : tree.WellFormed)
    (grownWell : grown.WellFormed)
    (alone : ∀ part, part <+: names → ∀ first second, tree.Spells first part → tree.Spells second part → first = second)
    (reshaped : tree.Reshaped grown id change) : grown.sketches = Sketch.along names change tree.sketches := by
  induction spelt generalizing change with
  | @root id node found top =>
    have named := name?_of_node found
    obtain ⟨siblings, list, member⟩ := wellFormed.placed id node found
    rw [top, siblings?, Option.some.injEq] at list
    obtain ⟨left, right, split⟩ := List.append_of_mem (list ▸ member)
    have apart := wellFormed.apart_roots
    have shown := shows_forest wellFormed
    have first : ∀ other ∈ left, tree.name? other ≠ some node.field.name := by
      intro other member twin
      have listed : other ∈ tree.roots := by simp [split, member]
      have led : tree.Leads [] none := rfl
      have same := alone _ List.prefix_rfl other id (led.spells wellFormed rfl listed twin) (.root found top)
      rw [split] at apart
      exact (List.nodup_append.mp apart.distinct).2.2 other member id (by simp) same
    obtain ⟨others, now, changed⟩ :=
      reshaped.shows_siblings wellFormed (split ▸ shown) (split ▸ apart) named first
    rw [← split, ← reshaped.roots] at now
    rw [sketches, (shows_forest grownWell).unique now, changed]
    rfl
  | @child id parent node names found under higher ih =>
    have named := name?_of_node found
    have rises : tree.Rises id parent := (rises_iff_of_node found).mpr under
    have only : ∀ other, tree.Rises other parent → tree.name? other = some node.field.name → other = id := by
      intro other beside twin
      obtain ⟨below, stored, above⟩ := Rises.exists_node beside
      rw [name?_of_node stored, Option.some.injEq] at twin
      exact alone _ List.prefix_rfl other id (twin ▸ .child stored above higher) (.child found under higher)
    rw [ih (fun part start => alone part (start.trans (List.prefix_append ..)))
      (reshaped.above wellFormed rises named only), Sketch.along_append_singleton]

theorem Spells.prefix_of_way {top : FieldId} {names part : List String} (way : ReflTransGen tree.Rises id top)
    (spelt : tree.Spells top names) (longer : tree.Spells id part) : names <+: part := by
  rcases reflTransGen_iff_eq_or_transGen.mp way with rfl | strict
  · obtain rfl := spelt.unique longer
    exact List.prefix_rfl
  · obtain ⟨more, _, rfl⟩ := spelt.exists_further strict longer
    exact List.prefix_append ..

namespace Planted

variable {parent : Option FieldId} {ids : List FieldId} {forest : Forest} {names part : List String}

theorem spells (planted : tree.Planted grown parent ids forest) (spelt : tree.Spells id names) :
    grown.Spells id names := by
  induction spelt with
  | @root id node found top =>
    have kept := Spells.root (planted.node id node found) top
    exact kept
  | @child id above node names found under _ ih =>
    have kept := Spells.child (planted.node id node found) under ih
    exact kept

theorem spells_of_stored (planted : tree.Planted grown parent ids forest) (wellFormed : tree.WellFormed)
    (stored : tree.contains id = true) (spelt : grown.Spells id names) : tree.Spells id names := by
  obtain ⟨others, before⟩ := exists_spells wellFormed stored
  rw [spelt.unique (planted.spells before)]
  exact before

theorem exists_new {branch : Branch} (planted : tree.Planted grown parent [id] [branch]) :
    ∃ node, grown.node? id = some node ∧ node.field = branch.field := by
  cases planted.shown with
  | cons found _ _ => exact ⟨_, found, rfl⟩

theorem spells_new {branch : Branch} (planted : tree.Planted grown parent [id] [branch])
    (grownWell : grown.WellFormed) (admits : tree.Admits parent) (led : tree.Leads names parent) :
    grown.Spells id (names ++ [branch.field.name]) := by
  obtain ⟨node, found, same⟩ := planted.exists_new
  rw [← same]
  cases parent with
  | none =>
    have above : grown.parent? id = none := by
      apply grownWell.parent_eq_of_mem (show grown.siblings? none = some grown.roots from rfl)
      rw [planted.roots]
      simp
    obtain rfl : names = [] := led
    exact .root found ((parent?_of_node found).symm.trans above)
  | some holder =>
    obtain ⟨before, stored, _⟩ := admits holder rfl
    have after := planted.node holder before stored
    have above : grown.parent? id = some holder := by
      refine grownWell.parent_eq_of_mem (siblings?_of_node after) ?_
      simp
    exact .child found ((parent?_of_node found).symm.trans above) (planted.spells led)

theorem prefix_of_new {branch : Branch} (planted : tree.Planted grown parent [id] [branch])
    (grownWell : grown.WellFormed) (spelt : grown.Spells id names) {other : FieldId}
    (new : other ∈ Branch.forestIds [branch]) (longer : grown.Spells other part) : names <+: part := by
  obtain ⟨top, listed, way⟩ := (planted.shown.mem_forestIds_iff grownWell).mp new
  obtain rfl := List.mem_singleton.mp listed
  exact spelt.prefix_of_way way longer

/-- If putting the new sketches at the end of their list is this change, it takes place along their names. -/
theorem sketches_along (planted : tree.Planted grown parent ids forest) (wellFormed : tree.WellFormed)
    (grownWell : grown.WellFormed) (led : tree.Leads names parent)
    (alone : ∀ part, part <+: names → ∀ first second, tree.Spells first part → tree.Spells second part → first = second)
    (changed : ∀ siblings below, tree.siblings? parent = some siblings → tree.Shows siblings below →
      Branch.sketches below ++ Branch.sketches forest = change (Branch.sketches below)) :
    grown.sketches = Sketch.along names change tree.sketches := by
  cases parent with
  | none =>
    obtain rfl : names = [] := led
    have kept : grown.Shows tree.roots tree.forest := (shows_forest wellFormed).transfer wellFormed.keyed
      fun id _ => keeps_of_node fun node found => planted.node_of_ne found (by simp)
    have now := kept.append planted.shown
    have roots := planted.roots
    rw [if_pos rfl] at roots
    rw [← roots] at now
    rw [sketches, (shows_forest grownWell).unique now, Branch.sketches_append]
    exact changed tree.roots tree.forest rfl (shows_forest wellFormed)
  | some holder =>
    have spelt : tree.Spells holder names := led
    obtain ⟨node, found⟩ := spelt.exists_node
    obtain ⟨below, shown⟩ := exists_shows wellFormed fun child => wellFormed.contains_of_mem_children found
    have kept : grown.Shows node.children below := by
      refine shown.transfer wellFormed.keyed fun other member => keeps_of_node fun node stored =>
        planted.node_of_ne stored ?_
      rintro same
      obtain ⟨child, listed, way⟩ := (shown.mem_forestIds_iff wellFormed).mp member
      rw [← Option.some.inj same] at way
      exact wellFormed.not_above_self holder
        (.tail' way ((wellFormed.mem_children_iff found).mp listed))
    have after := planted.node holder node found
    rw [if_pos rfl] at after
    refine spelt.sketches_along wellFormed grownWell alone ⟨?_, ?_, ?_⟩
    · rw [planted.roots]
      simp
    · intro other stored here unrelated
      refine planted.node_of_ne here fun same => unrelated ?_
      rw [Option.some.inj same]
    · refine ⟨node, _, below, below ++ forest, found, after, rfl, shown, kept.append planted.shown, ?_⟩
      rw [Branch.sketches_append]
      exact changed node.children below (siblings?_of_node found) shown

end Planted

end ConfigSchema.SchemaTree
