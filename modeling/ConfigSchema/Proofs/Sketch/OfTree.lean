import ConfigSchema.Proofs.Sketch.Spots
import ConfigSchema.Proofs.Tree.Paths
import ConfigSchema.Proofs.Tree.Shown
import Mathlib.Data.Option.Basic

/-! The sketches of a well-formed tree. They hold the fields of the tree under the names that lead to them, and a
dot path of the tree finds the field whose sketch is the tip of that path. -/

namespace ConfigSchema

mutual
theorem Sketch.navigable_of_every : (sketch : Sketch) → sketch.Every (fun sketch => Path.IsName sketch.name) →
    sketch.Distinct → sketch.Navigable
  | .mk _ children, named, distinct =>
    ⟨named.here, fun _ => navigableAll_of_every children named.below distinct.below distinct.here⟩

theorem Sketch.navigableAll_of_every : (sketches : List Sketch) →
    (∀ sketch ∈ sketches, sketch.Every fun sketch => Path.IsName sketch.name) →
    (∀ sketch ∈ sketches, sketch.Distinct) → (sketches.map name).Nodup → NavigableAll sketches
  | [], _, _, _ => trivial
  | sketch :: rest, named, distinct, apart => by
    rw [List.forall_mem_cons] at named distinct
    rw [List.map_cons, List.nodup_cons] at apart
    exact ⟨apart.1, navigable_of_every sketch named.1 distinct.1,
      navigableAll_of_every rest named.2 distinct.2 apart.2⟩
end

namespace SchemaTree

variable {tree : SchemaTree} {ids : List FieldId} {forest : Forest}

/-- Siblings have different names, whatever these are. -/
def NamesDiffer (tree : SchemaTree) : Prop :=
  ∀ parent siblings, tree.siblings? parent = some siblings → (siblings.map tree.name?).Nodup

/-- Names are fit for paths and differ among siblings. -/
structure Tidy (tree : SchemaTree) : Prop where
  named : ∀ id field, tree.get? id = some field → Path.IsName field.name
  distinct : ∀ parent siblings, tree.siblings? parent = some siblings → (siblings.map tree.name?).Nodup

theorem namesDiffer_of_nodes (roots : (tree.roots.map tree.name?).Nodup)
    (below : ∀ entry ∈ tree.nodes, (entry.2.children.map tree.name?).Nodup) : tree.NamesDiffer := by
  intro parent siblings list
  cases parent with
  | none =>
    cases list
    exact roots
  | some id =>
    obtain ⟨node, found, rfl⟩ := Option.map_eq_some_iff.mp list
    exact below _ (Keyed.mem_of_find? found)

/-- Whether a tree is tidy can be told from its entries. -/
theorem tidy_of_nodes (named : ∀ entry ∈ tree.nodes, Path.IsName entry.2.field.name)
    (roots : (tree.roots.map tree.name?).Nodup)
    (below : ∀ entry ∈ tree.nodes, (entry.2.children.map tree.name?).Nodup) : tree.Tidy where
  named := forall_fields_of_nodes named
  distinct := namesDiffer_of_nodes roots below

theorem Spells.isName (tidy : tree.Tidy) {id : FieldId} {names : List String} (spelt : tree.Spells id names) :
    ∀ name ∈ names, Path.IsName name :=
  spelt.forall_names fun id node found => tidy.named id node.field (get?_of_node found)

namespace Shows

theorem sketches_every (shown : tree.Shows ids forest) {property : Sketch → Prop}
    (holds : ∀ id node below, tree.node? id = some node → tree.Shows node.children below →
      property (.mk node.field.attributes (Branch.sketches below))) :
    ∀ sketch ∈ Branch.sketches forest, sketch.Every property := by
  induction shown with
  | nil => simp [Branch.sketches]
  | cons found inside _ insideIh besideIh =>
    rw [Branch.sketches, List.forall_mem_cons]
    exact ⟨⟨holds _ _ _ found inside, Sketch.everyOf_iff.mpr insideIh⟩, besideIh⟩

theorem everyOf_attributes_iff (keyed : ∀ id node, tree.node? id = some node → node.field.id = id)
    (shown : tree.Shows ids forest) {property : Attributes → Prop} :
    Sketch.EveryOf (fun sketch => property sketch.attributes) (Branch.sketches forest) ↔
      ∀ id ∈ Branch.forestIds forest, ∀ node, tree.node? id = some node → property node.field.attributes := by
  induction shown with
  | nil => simp [Branch.sketches, Branch.forestIds, Sketch.EveryOf]
  | @cons id node rest below others found _ _ insideIh besideIh =>
    have own : (∀ other, tree.node? id = some other → property other.field.attributes) ↔
        property node.field.attributes := by simp [found]
    rw [Branch.sketches, Branch.sketch, Sketch.EveryOf, Sketch.Every, insideIh, besideIh, Branch.forestIds,
      Branch.ids, keyed id node found, List.forall_mem_append, List.forall_mem_cons, own]
    rfl

theorem map_name? (shown : tree.Shows ids forest) :
    ids.map tree.name? = (Branch.sketches forest).map fun sketch => some sketch.name := by
  induction shown with
  | nil => rfl
  | @cons id node rest below others found _ _ _ ih =>
    rw [List.map_cons, ih, Branch.sketches, List.map_cons, name?_of_node found]
    rfl

theorem exists_named (shown : tree.Shows ids forest) {name : String}
    (member : name ∈ (Branch.sketches forest).map Sketch.name) : ∃ id ∈ ids, tree.name? id = some name := by
  obtain ⟨sketch, listed, called⟩ := List.mem_map.mp member
  have among : some name ∈ ids.map tree.name? := by
    rw [shown.map_name?]
    exact List.mem_map.mpr ⟨sketch, listed, congrArg some called⟩
  exact List.mem_map.mp among

theorem sketches_eq_nil (shown : tree.Shows [] forest) : Branch.sketches forest = [] := by
  cases shown
  rfl

end Shows

theorem Tidy.namesDiffer (tidy : tree.Tidy) : tree.NamesDiffer := tidy.distinct

theorem NamesDiffer.nodup_names (differ : tree.NamesDiffer) {parent : Option FieldId}
    (list : tree.siblings? parent = some ids) (shown : tree.Shows ids forest) :
    ((Branch.sketches forest).map Sketch.name).Nodup := by
  have apart := differ parent ids list
  rw [shown.map_name?] at apart
  apply List.Nodup.of_map some
  rwa [List.map_map]

namespace WellFormed

variable (wellFormed : tree.WellFormed)

include wellFormed

theorem everyOf_sketches_iff (property : Attributes → Prop) :
    Sketch.EveryOf (fun sketch => property sketch.attributes) tree.sketches ↔
      ∀ id node, tree.node? id = some node → property node.field.attributes := by
  rw [sketches, (shows_forest wellFormed).everyOf_attributes_iff wellFormed.keyed]
  constructor
  · exact fun every id node found => every id (wellFormed.mem_forestIds_forest.mpr (contains_of_node found)) node found
  · exact fun every id _ node found => every id node found

theorem sound_sketches : ∀ sketch ∈ tree.sketches, sketch.Sound := by
  apply (shows_forest wellFormed).sketches_every
  intro id node below found inside filled
  refine wellFormed.contained id node found fun empty => filled ?_
  rw [empty] at inside
  exact inside.sketches_eq_nil

theorem distinct_sketches (differ : tree.NamesDiffer) : ∀ sketch ∈ tree.sketches, sketch.Distinct := by
  apply (shows_forest wellFormed).sketches_every
  intro id node below found inside
  exact differ.nodup_names (siblings?_of_node found) inside

theorem nodup_names_sketches (differ : tree.NamesDiffer) : (tree.sketches.map Sketch.name).Nodup :=
  differ.nodup_names (show tree.siblings? none = some tree.roots from rfl) (shows_forest wellFormed)

theorem navigable_sketches (tidy : tree.Tidy) : Sketch.NavigableAll tree.sketches := by
  refine Sketch.navigableAll_of_every _ ?_ (wellFormed.distinct_sketches tidy.namesDiffer)
    (wellFormed.nodup_names_sketches tidy.namesDiffer)
  apply (shows_forest wellFormed).sketches_every
  intro id node below found _
  exact tidy.named id node.field (get?_of_node found)

/-- The spots of the sketches that ids stand for are the fields at and below those ids, each under its names. -/
theorem mem_spotsOf_iff (shown : tree.Shows ids forest) {above : List String}
    (led : ∀ id ∈ ids, ∀ node, tree.node? id = some node → tree.Spells id (above ++ [node.field.name]))
    {names : List String} {attributes : Attributes} :
    (names, attributes) ∈ Sketch.spotsOf above (Branch.sketches forest) ↔
      ∃ id ∈ Branch.forestIds forest, ∃ node, tree.node? id = some node ∧ tree.Spells id names ∧
        node.field.attributes = attributes := by
  induction shown generalizing above with
  | nil => simp [Branch.sketches, Branch.forestIds, Sketch.spotsOf]
  | @cons head node rest below others found inside beside insideIh besideIh =>
    have here := led head (List.mem_cons_self ..) node found
    have under : ∀ child ∈ node.children, ∀ other, tree.node? child = some other →
        tree.Spells child (above ++ [node.field.name] ++ [other.field.name]) := by
      intro child member other stored
      have rises := (wellFormed.mem_children_iff found).mp member
      exact .child stored ((rises_iff_of_node stored).mp rises) here
    have further := besideIh fun other member => led other (List.mem_cons_of_mem _ member)
    have deeper := insideIh under
    have own : (names, attributes) = (above ++ [node.field.name], node.field.attributes) ↔
        ∃ other, tree.node? head = some other ∧ tree.Spells head names ∧
          other.field.attributes = attributes := by
      constructor
      · rintro ⟨rfl, rfl⟩
        exact ⟨node, found, here, rfl⟩
      · rintro ⟨other, stored, spelt, rfl⟩
        cases found.symm.trans stored
        rw [here.unique spelt]
    rw [Branch.sketches, Branch.sketch, Sketch.spotsOf, Sketch.spots, Branch.forestIds, Branch.ids,
      wellFormed.keyed head node found]
    simp only [List.cons_append, List.mem_cons, List.mem_append, or_and_right, exists_or, exists_eq_left]
    exact or_congr own (or_congr deeper further)

theorem mem_spots_sketches_iff {names : List String} {attributes : Attributes} :
    (names, attributes) ∈ Sketch.spotsOf [] tree.sketches ↔
      ∃ id node, tree.node? id = some node ∧ tree.Spells id names ∧ node.field.attributes = attributes := by
  have shown := shows_forest wellFormed
  have led : ∀ id ∈ tree.roots, ∀ node, tree.node? id = some node →
      tree.Spells id ([] ++ [node.field.name]) := by
    intro id member node found
    have root : tree.parent? id = none := wellFormed.parent_eq_of_mem rfl member
    exact .root found ((parent?_of_node found).symm.trans root)
  rw [sketches, wellFormed.mem_spotsOf_iff shown led]
  constructor
  · rintro ⟨id, _, node, field⟩
    exact ⟨id, node, field⟩
  · rintro ⟨id, node, found, field⟩
    exact ⟨id, wellFormed.mem_forestIds_forest.mpr (contains_of_node found), node, found, field⟩

theorem named_spots_sketches (tidy : tree.Tidy) :
    ∀ spot ∈ Sketch.spotsOf [] tree.sketches, ∀ name ∈ spot.1, Path.IsName name := by
  rintro ⟨names, attributes⟩ member
  obtain ⟨id, node, _, spelt, _⟩ := wellFormed.mem_spots_sketches_iff.mp member
  exact spelt.isName tidy

/-- The kinds of a tree by path are those of its spots. -/
theorem hasKind_iff {path : String} {kind : Kind} : tree.HasKind path kind ↔
    ∃ names, path = Path.dotted names ∧ Sketch.HasKind (Sketch.spotsOf [] tree.sketches) names kind := by
  constructor
  · rintro ⟨id, field, stored, named, rfl⟩
    obtain ⟨node, found, rfl⟩ := Option.map_eq_some_iff.mp stored
    obtain ⟨names, spelt, rfl⟩ := (path?_eq_some_iff wellFormed).mp named
    exact ⟨names, rfl, _, wellFormed.mem_spots_sketches_iff.mpr ⟨id, node, found, spelt, rfl⟩, rfl, rfl⟩
  · rintro ⟨names, rfl, ⟨other, attributes⟩, member, rfl, rfl⟩
    obtain ⟨id, node, found, spelt, rfl⟩ := wellFormed.mem_spots_sketches_iff.mp member
    exact ⟨id, node.field, get?_of_node found,
      (path?_eq_some_iff wellFormed).mpr ⟨_, spelt, rfl⟩, rfl⟩

end WellFormed

theorem Shows.exists_of_mem_sketches (shown : tree.Shows ids forest) {sketch : Sketch}
    (member : sketch ∈ Branch.sketches forest) : ∃ id ∈ ids, ∃ node below, tree.node? id = some node ∧
      tree.Shows node.children below ∧ sketch = .mk node.field.attributes (Branch.sketches below) := by
  induction shown with
  | nil => simp [Branch.sketches] at member
  | @cons id node rest below others found inside _ _ ih =>
    rw [Branch.sketches, List.mem_cons] at member
    rcases member with same | later
    · exact ⟨id, List.mem_cons_self .., node, below, found, inside, same⟩
    · obtain ⟨other, listed, field⟩ := ih later
      exact ⟨other, List.mem_cons_of_mem _ listed, field⟩

theorem findChild_eq {parent : Option FieldId} (list : tree.siblings? parent = some ids)
    (distinct : (ids.map tree.name?).Nodup) {id : FieldId} (member : id ∈ ids) {name : String}
    (named : tree.name? id = some name) : tree.findChild parent name = some id := by
  have known : (ids.find? fun other => tree.name? other == some name).isSome := by
    rw [List.find?_isSome]
    exact ⟨id, member, by rw [named, beq_self_eq_true]⟩
  obtain ⟨other, found⟩ := Option.isSome_iff_exists.mp known
  have same : tree.name? other = some name := by simpa using List.find?_some found
  have own : other = id :=
    List.inj_on_of_nodup_map distinct (List.mem_of_find?_eq_some found) member (same.trans named.symm)
  rw [findChild, list, Option.bind_eq_bind, Option.bind_some, found, own]

theorem Shows.findBelow_tip {names : List String} (shown : tree.Shows ids forest) {parent : Option FieldId}
    (list : tree.siblings? parent = some ids) (navigable : Sketch.NavigableAll (Branch.sketches forest))
    {above : List String} {tip : Sketch}
    (member : (above ++ names, tip) ∈ Sketch.tipsOf above (Branch.sketches forest)) :
    ∃ id node, tree.findBelow parent names = some id ∧ tree.node? id = some node ∧
      node.field.attributes = tip.attributes := by
  induction names generalizing ids forest parent above with
  | nil =>
    obtain ⟨sketch, _, start⟩ := Sketch.prefix_of_mem_tipsOf _ _ member
    have bound := start.length_le
    simp only [List.append_nil, List.length_append, List.length_singleton] at bound
    omega
  | cons name rest ih =>
    rw [Sketch.tipsOf_eq_flatMap] at member
    obtain ⟨sketch, listed, inside⟩ := List.mem_flatMap.mp member
    obtain ⟨id, held, node, below, found, deeper, same⟩ := shown.exists_of_mem_sketches listed
    have start := Sketch.prefix_of_mem_tips sketch above inside
    have next : sketch.name = name := by simpa using start
    have named : tree.name? id = some name := by
      rw [name?_of_node found, ← next, same]
      rfl
    have distinct : (ids.map tree.name?).Nodup := by
      have apart := navigable.nodup.map (Option.some_injective String)
      rwa [shown.map_name?, ← Function.comp_def, ← List.map_map]
    rw [findBelow, findChild_eq list distinct held named]
    cases opened : sketch.isOpen with
    | false =>
      rw [Sketch.tips_of_closed opened, List.mem_singleton, Prod.mk.injEq, List.append_cancel_left_eq] at inside
      obtain ⟨⟨-, rfl⟩, rfl⟩ := List.cons.inj inside.1, inside.2
      exact ⟨id, node, rfl, found, by rw [same]; rfl⟩
    | true =>
      rw [Sketch.tips_of_open opened, next, List.append_cons above name rest] at inside
      have under : sketch.children = Branch.sketches below := by rw [same]; rfl
      have tidy := (navigable.navigable sketch listed)
      rw [under] at inside
      exact ih deeper (siblings?_of_node found) (under ▸ tidy.below opened) inside

end SchemaTree

end ConfigSchema
