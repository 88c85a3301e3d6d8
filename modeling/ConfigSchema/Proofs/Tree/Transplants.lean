import ConfigSchema.Proofs.Tree.Edits

/-! Edits that take a field out of its list. In a well-formed tree only one list names the field, so taking it
out there is the same as taking it out everywhere; what follows the field is its subtree, as the way up from
every other field does not pass through it. -/

namespace ConfigSchema.SchemaTree

open Relation

variable {tree : SchemaTree}

theorem WellFormed.filter_children (wellFormed : tree.WellFormed) {id sought : FieldId} {node : Node}
    (found : tree.node? sought = some node) (elsewhere : ¬tree.Rises id sought) :
    node.children.filter (fun child => child ≠ id) = node.children := by
  refine List.filter_eq_self.mpr fun child member => decide_eq_true ?_
  rintro rfl
  exact elsewhere ((wellFormed.mem_children_iff found).mp member)

theorem node?_detach (wellFormed : tree.WellFormed) (id sought : FieldId) :
    (tree.detach id).node? sought = (tree.node? sought).map fun node =>
      { node with children := node.children.filter (fun child => child ≠ id) } := by
  cases found : tree.node? sought with
  | none =>
    unfold detach
    split
    · rw [node?_modifyNode, found]
      split <;> rfl
    · exact found
  | some node =>
    by_cases rises : tree.parent? id = some sought
    · simp only [detach, rises, node?_modifyNode, if_true, found]
    · have same := wellFormed.filter_children found rises
      rw [Option.map_some, same, detach]
      split
      · rename_i above parent
        have elsewhere : above ≠ sought := fun here => rises (here ▸ parent)
        rw [node?_modifyNode, if_neg elsewhere, found]
      · exact found

theorem roots_detach (wellFormed : tree.WellFormed) {id : FieldId} (stored : tree.contains id = true) :
    (tree.detach id).roots = tree.roots.filter fun root => root ≠ id := by
  unfold detach
  split
  · rename_i above parent
    refine (List.filter_eq_self.mpr fun root member => decide_eq_true ?_).symm
    rintro rfl
    have top : tree.parent? root = none := wellFormed.parent_eq_of_mem rfl member
    rw [parent] at top
    cases top
  · rfl

theorem keys_detach (id : FieldId) : Keyed.keys (tree.detach id).nodes = Keyed.keys tree.nodes := by
  unfold detach
  split
  · exact Keyed.keys_modify ..
  · rfl

theorem nextSerial_detach (id : FieldId) : (tree.detach id).nextSerial = tree.nextSerial := by
  unfold detach
  split <;> rfl

structure Pruned (tree pruned : SchemaTree) (id : FieldId) : Prop where
  keys : (Keyed.keys pruned.nodes).Sublist (Keyed.keys tree.nodes)
  serial : pruned.nextSerial = tree.nextSerial
  gone : ∀ sought, ReflTransGen tree.Rises sought id → pruned.node? sought = none
  node : ∀ sought, ¬ReflTransGen tree.Rises sought id → pruned.node? sought =
    (tree.node? sought).map fun node => { node with children := node.children.filter fun child => child ≠ id }
  roots : pruned.roots = tree.roots.filter fun root => root ≠ id

theorem pruned_of_delete (wellFormed : tree.WellFormed) {id : FieldId} {count : Nat} {pruned : SchemaTree}
    (done : tree.delete id = .ok (count, pruned)) : tree.Pruned pruned id := by
  unfold delete at done
  split at done
  · rename_i stored
    rw [Except.ok.injEq, Prod.mk.injEq] at done
    obtain ⟨_, rfl⟩ := done
    have kept : ∀ sought, (Keyed.find? sought ((tree.detach id).nodes.filter
        (fun entry => entry.1 ∉ tree.subtree id))) =
        if sought ∉ tree.subtree id then (tree.detach id).node? sought else none := by
      intro sought
      rw [Keyed.find?_filter (fun key => decide (key ∉ tree.subtree id))]
      simp only [decide_eq_true_eq, node?]
    refine ⟨?_, nextSerial_detach id, ?_, ?_, roots_detach wellFormed stored⟩
    · have same : Keyed.keys (tree.detach id).nodes = Keyed.keys tree.nodes := keys_detach id
      rw [← same]
      exact List.filter_sublist.map Prod.fst
    · intro sought below
      rw [node?, kept, if_neg (not_not.mpr ((mem_subtree_iff wellFormed stored).mpr below))]
    · intro sought aside
      rw [node?, kept, if_pos (fun member => aside ((mem_subtree_iff wellFormed stored).mp member)),
        node?_detach wellFormed]
  · cases done

namespace Pruned

variable {pruned : SchemaTree} {id : FieldId}

theorem node_before (cut : tree.Pruned pruned id) {sought : FieldId} {after : Node}
    (found : pruned.node? sought = some after) :
    ¬ReflTransGen tree.Rises sought id ∧ ∃ before, tree.node? sought = some before ∧
      { before with children := before.children.filter fun child => child ≠ id } = after := by
  by_cases below : ReflTransGen tree.Rises sought id
  · rw [cut.gone sought below] at found
    cases found
  · rw [cut.node sought below, Option.map_eq_some_iff] at found
    exact ⟨below, found⟩

theorem siblings_before (cut : tree.Pruned pruned id) {place : Option FieldId} {ids : List FieldId}
    (list : pruned.siblings? place = some ids) :
    (∀ holder, place = some holder → ¬ReflTransGen tree.Rises holder id) ∧
      ∃ before, tree.siblings? place = some before ∧ ids = before.filter fun child => child ≠ id := by
  cases place with
  | none =>
    cases list
    exact ⟨by simp, tree.roots, rfl, cut.roots⟩
  | some holder =>
    obtain ⟨after, found, rfl⟩ := Option.map_eq_some_iff.mp list
    obtain ⟨aside, before, stored, rfl⟩ := cut.node_before found
    refine ⟨fun other same => ?_, before.children, siblings?_of_node stored, rfl⟩
    cases same
    exact aside

theorem wellFormed (cut : tree.Pruned pruned id) (old : tree.WellFormed) : pruned.WellFormed where
  distinct := old.distinct.sublist cut.keys
  keyed := by
    intro sought after found
    obtain ⟨_, before, stored, rfl⟩ := cut.node_before found
    exact old.keyed sought before stored
  once := by
    intro place ids list
    obtain ⟨_, before, stored, rfl⟩ := cut.siblings_before list
    exact (old.once place before stored).filter _
  listed := by
    intro place ids list child member
    obtain ⟨aside, before, stored, rfl⟩ := cut.siblings_before list
    obtain ⟨listed, different⟩ := List.mem_filter.mp member
    obtain ⟨node, found, above⟩ := old.listed place before stored child listed
    have beside : ¬ReflTransGen tree.Rises child id := by
      intro way
      rcases way.cases_head with same | ⟨next, rises, later⟩
      · exact of_decide_eq_true different same
      · have holder : place = some next := by
          rw [← above]
          exact (rises_iff_of_node found).mp rises
        exact aside next holder later
    rw [cut.node child beside, found]
    exact ⟨_, rfl, above⟩
  placed := by
    intro sought after found
    obtain ⟨aside, before, stored, rfl⟩ := cut.node_before found
    obtain ⟨ids, list, member⟩ := old.placed sought before stored
    have kept : sought ∈ ids.filter fun child => child ≠ id :=
      List.mem_filter.mpr ⟨member, decide_eq_true fun same => aside (same ▸ .refl)⟩
    refine ⟨_, ?_, kept⟩
    cases place : before.parent with
    | none =>
      rw [place] at list
      cases list
      exact congrArg some cut.roots
    | some holder =>
      rw [place] at list
      obtain ⟨node, sits, rfl⟩ := Option.map_eq_some_iff.mp list
      have above : ¬ReflTransGen tree.Rises holder id := fun way =>
        aside (.head ((rises_iff_of_node stored).mpr place) way)
      rw [siblings?, cut.node holder above, sits]
      rfl
  contained := by
    intro sought after found filled
    obtain ⟨_, before, stored, rfl⟩ := cut.node_before found
    refine old.contained sought before stored fun none => filled ?_
    simp [none]
  grounded := by
    obtain ⟨height, falls⟩ := old.grounded
    refine ⟨height, fun sought above rises => falls sought above ?_⟩
    obtain ⟨after, found, parent⟩ := Rises.exists_node rises
    obtain ⟨_, before, stored, rfl⟩ := cut.node_before found
    exact (rises_iff_of_node stored).mpr parent

theorem numbered (cut : tree.Pruned pruned id) (old : tree.Numbered) : pruned.Numbered := by
  refine old.of_contains (fun sought stored => ?_) cut.serial
  obtain ⟨after, found⟩ := exists_node_of_contains stored
  obtain ⟨_, before, sits, _⟩ := cut.node_before found
  exact contains_of_node sits

end Pruned

structure Transplanted (tree moved : SchemaTree) (id : FieldId) (target : Option FieldId) : Prop where
  stored : tree.contains id = true
  keys : Keyed.keys moved.nodes = Keyed.keys tree.nodes
  serial : moved.nextSerial = tree.nextSerial
  node : ∀ sought, moved.node? sought = (tree.node? sought).map fun node =>
    { field := node.field
      parent := if sought = id then target else node.parent
      children := node.children.filter (fun child => child ≠ id) ++ if target = some sought then [id] else [] }
  roots : moved.roots = tree.roots.filter (fun root => root ≠ id) ++ if target = none then [id] else []
  holder : ∀ above, target = some above → ∃ node, tree.node? above = some node ∧
    node.field.kind.holdsFields = true ∧ ¬ReflTransGen tree.Rises above id

/-- A move is allowed for stored fields: to the top level, and under another container that the field is not above. -/
theorem checkMove_eq_ok_iff {id : FieldId} {target : Option FieldId} {done : Unit} :
    tree.checkMove id target = .ok done ↔ tree.contains id = true ∧ ∀ above, target = some above → above ≠ id ∧
      ∃ node, tree.node? above = some node ∧ tree.isAncestor id above = false ∧
        node.field.kind.holdsFields = true := by
  cases target with
  | none =>
    rw [checkMove]
    cases stored : tree.contains id <;> simp
  | some above =>
    rw [checkMove]
    cases stored : tree.contains id with
    | false => simp
    | true =>
      by_cases same : above = id
      · simp [same]
      · cases found : tree.node? above with
        | none => simp [same, get?, found]
        | some node =>
          cases below : tree.isAncestor id above with
          | true => simp [same, get?, found, below]
          | false => simp [same, get?, found, below]

theorem checkMove_eq_ok (wellFormed : tree.WellFormed) {id : FieldId} {target : Option FieldId} {done : Unit}
    (checked : tree.checkMove id target = .ok done) : tree.contains id = true ∧
      ∀ above, target = some above → ∃ node, tree.node? above = some node ∧
        node.field.kind.holdsFields = true ∧ ¬ReflTransGen tree.Rises above id := by
  obtain ⟨stored, allowed⟩ := checkMove_eq_ok_iff.mp checked
  refine ⟨stored, fun above goal => ?_⟩
  obtain ⟨different, node, found, aside, holds⟩ := allowed above goal
  refine ⟨node, found, holds, fun way => ?_⟩
  rcases reflTransGen_iff_eq_or_transGen.mp way with equal | strict
  · exact different equal.symm
  · rw [(isAncestor_iff wellFormed).mpr strict] at aside
    cases aside

theorem move_of_checkMove {id : FieldId} {target : Option FieldId} {done : Unit}
    (checked : tree.checkMove id target = .ok done) : tree.move id target =
      .ok (((tree.detach id).relist (· ++ [id]) target).modifyNode id fun node => { node with parent := target }) := by
  cases target <;> simp only [move, checked, relist]

theorem transplanted_of_move (wellFormed : tree.WellFormed) {id : FieldId} {target : Option FieldId}
    {moved : SchemaTree} (done : tree.move id target = .ok moved) : tree.Transplanted moved id target := by
  cases checked : tree.checkMove id target with
  | error reason => simp [move, checked] at done
  | ok allowed =>
    obtain ⟨stored, holder⟩ := checkMove_eq_ok wellFormed checked
    rw [move_of_checkMove checked, Except.ok.injEq] at done
    subst done
    refine ⟨stored, ?_, ?_, ?_, ?_, holder⟩
    · cases target with
      | none => exact (Keyed.keys_modify ..).trans (keys_detach id)
      | some above => exact (Keyed.keys_modify ..).trans ((Keyed.keys_modify ..).trans (keys_detach id))
    · cases target <;> exact nextSerial_detach id
    · intro sought
      rw [node?_modifyNode, node?_relist, node?_detach wellFormed]
      have lists : ∀ list : List FieldId, (if target = some sought then list ++ [id] else list) =
          list ++ if target = some sought then [id] else [] := by
        intro list
        split <;> simp
      by_cases own : id = sought
      · subst own
        cases found : tree.node? id <;> simp [lists]
      · cases found : tree.node? sought <;> simp [own, Ne.symm own, lists]
    · rw [modifyNode, roots_relist, roots_detach wellFormed stored]
      split <;> simp

namespace Transplanted

variable {moved : SchemaTree} {id : FieldId} {target : Option FieldId}

theorem siblings? (shifted : tree.Transplanted moved id target) (place : Option FieldId) :
    moved.siblings? place = (tree.siblings? place).map fun ids =>
      ids.filter (fun child => child ≠ id) ++ if target = place then [id] else [] := by
  cases place with
  | none => simp only [SchemaTree.siblings?, shifted.roots, Option.map_some]
  | some holder => simp only [SchemaTree.siblings?, shifted.node, Option.map_map, Function.comp_def]

theorem contains (shifted : tree.Transplanted moved id target) (sought : FieldId) :
    moved.contains sought = tree.contains sought := by
  rw [SchemaTree.contains, shifted.node, Option.isSome_map, SchemaTree.contains]

theorem node_before (shifted : tree.Transplanted moved id target) {sought : FieldId} {after : Node}
    (found : moved.node? sought = some after) : ∃ before, tree.node? sought = some before ∧
      { before with
        parent := if sought = id then target else before.parent
        children := before.children.filter (fun child => child ≠ id) ++
          if target = some sought then [id] else [] } = after := by
  rwa [shifted.node, Option.map_eq_some_iff] at found

theorem siblings_before (shifted : tree.Transplanted moved id target) {place : Option FieldId} {ids : List FieldId}
    (list : moved.siblings? place = some ids) : ∃ before, tree.siblings? place = some before ∧
      before.filter (fun child => child ≠ id) ++ (if target = place then [id] else []) = ids := by
  rwa [shifted.siblings?, Option.map_eq_some_iff] at list

theorem listed (shifted : tree.Transplanted moved id target) (old : tree.WellFormed) {place : Option FieldId}
    {ids : List FieldId} (list : moved.siblings? place = some ids) {child : FieldId} (member : child ∈ ids) :
    ∃ node, moved.node? child = some node ∧ node.parent = place := by
  obtain ⟨before, stored, rfl⟩ := shifted.siblings_before list
  rcases List.mem_append.mp member with early | late
  · obtain ⟨listed, different⟩ := List.mem_filter.mp early
    obtain ⟨node, found, above⟩ := old.listed place before stored child listed
    rw [shifted.node, found]
    exact ⟨_, rfl, by simp only [if_neg (of_decide_eq_true different), above]⟩
  · split at late
    · rename_i here
      obtain rfl := List.mem_singleton.mp late
      obtain ⟨node, found⟩ := exists_node_of_contains shifted.stored
      rw [shifted.node, found]
      exact ⟨_, rfl, by simp only [if_true, here]⟩
    · cases late

theorem placed (shifted : tree.Transplanted moved id target) (old : tree.WellFormed) {sought : FieldId} {after : Node}
    (found : moved.node? sought = some after) : ∃ ids, moved.siblings? after.parent = some ids ∧ sought ∈ ids := by
  obtain ⟨before, stored, rfl⟩ := shifted.node_before found
  by_cases own : sought = id
  · simp only [if_pos own, shifted.siblings?]
    cases goal : target with
    | none => exact ⟨_, rfl, by simp [own]⟩
    | some above =>
      obtain ⟨node, sits, _⟩ := shifted.holder above goal
      exact ⟨_, by rw [siblings?_of_node sits]; rfl, by simp [own]⟩
  · obtain ⟨ids, list, member⟩ := old.placed sought before stored
    simp only [if_neg own, shifted.siblings?, list, Option.map_some]
    exact ⟨_, rfl, List.mem_append_left _ (List.mem_filter.mpr ⟨member, decide_eq_true own⟩)⟩

/-- The field is lifted above its new holder together with all that lies below it. -/
theorem grounded (shifted : tree.Transplanted moved id target) (old : tree.WellFormed) :
    ∃ height : FieldId → Nat, ∀ sought above, moved.parent? sought = some above → height above < height sought := by
  classical
  obtain ⟨height, falls⟩ := old.grounded
  refine ⟨fun sought => if ReflTransGen tree.Rises sought id then
    height sought + (target.map height).getD 0 + 1 else height sought, ?_⟩
  intro sought above rises
  obtain ⟨after, found, parent⟩ := Rises.exists_node rises
  obtain ⟨before, stored, rfl⟩ := shifted.node_before found
  by_cases own : sought = id
  · simp only [if_pos own] at parent
    obtain ⟨_, _, _, aside⟩ := shifted.holder above parent
    simp only [if_neg aside, own, ReflTransGen.refl, if_true, parent, Option.map_some, Option.getD_some]
    omega
  · simp only [if_neg own] at parent
    have before_rises : tree.Rises sought above := (rises_iff_of_node stored).mpr parent
    have lower := falls sought above before_rises
    by_cases below : ReflTransGen tree.Rises above id
    · simp only [below, ReflTransGen.head before_rises below, if_true]
      omega
    · have aside : ¬ReflTransGen tree.Rises sought id := by
        intro way
        rcases way.cases_head with same | ⟨next, step, later⟩
        · exact own same
        · exact below (rises_functional before_rises step ▸ later)
      simp only [below, aside, if_false]
      exact lower

theorem wellFormed (shifted : tree.Transplanted moved id target) (old : tree.WellFormed) :
    moved.WellFormed where
  distinct := by
    rw [shifted.keys]
    exact old.distinct
  keyed := by
    intro sought after found
    obtain ⟨before, stored, rfl⟩ := shifted.node_before found
    exact old.keyed sought before stored
  once := by
    intro place ids list
    obtain ⟨before, stored, rfl⟩ := shifted.siblings_before list
    refine List.nodup_append.mpr ⟨(old.once place before stored).filter _, by split <;> simp, ?_⟩
    rintro child member _ here rfl
    have different := of_decide_eq_true (List.mem_filter.mp member).2
    split at here <;> simp_all
  listed := fun _ _ list _ member => shifted.listed old list member
  placed := fun _ _ found => shifted.placed old found
  contained := by
    intro sought after found filled
    obtain ⟨before, stored, rfl⟩ := shifted.node_before found
    by_cases here : target = some sought
    · obtain ⟨node, sits, holds, _⟩ := shifted.holder sought here
      cases stored.symm.trans sits
      exact holds
    · refine old.contained sought before stored fun none => filled ?_
      simp [none, here]
  grounded := shifted.grounded old

theorem numbered (shifted : tree.Transplanted moved id target) (old : tree.Numbered) : moved.Numbered :=
  old.of_contains (fun sought stored => (shifted.contains sought).symm.trans stored) shifted.serial

end Transplanted

end ConfigSchema.SchemaTree
