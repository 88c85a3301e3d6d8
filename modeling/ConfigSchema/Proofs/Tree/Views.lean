import ConfigSchema.Proofs.Forest.Edits
import ConfigSchema.Proofs.Tree.Reachable

/-! Trees seen as forests. What an edit does to entries and lists of ids is, in the forest that the tree shows, the
edit of one branch: the table of a tree stands for a forest, and the edits of the two agree. -/

namespace ConfigSchema

theorem Keyed.length_filter_not_mem {κ α : Type} [DecidableEq κ] {entries : List (κ × α)}
    (distinct : (keys entries).Nodup) {doomed : List κ} (nodup : doomed.Nodup)
    (known : ∀ key ∈ doomed, key ∈ keys entries) :
    (entries.filter fun entry => entry.1 ∉ doomed).length + doomed.length = entries.length := by
  have gone : ((keys entries).filter fun key => key ∈ doomed).Perm doomed := by
    refine (List.perm_ext_iff_of_nodup (distinct.filter _) nodup).mpr fun key => ?_
    simpa using known key
  have parts := List.length_eq_length_filter_add (l := entries) fun entry => decide (entry.1 ∈ doomed)
  rw [← gone.length_eq, keys, List.filter_map, List.length_map, parts]
  simp [Function.comp_def, Nat.add_comm]

namespace SchemaTree

open Relation

variable {tree other : SchemaTree} {ids : List FieldId} {forest : Forest} {id : FieldId}

namespace Shows

theorem length_eq (shown : tree.Shows ids forest) : ids.length = forest.length := by
  induction shown with
  | nil => rfl
  | cons _ _ _ _ ih => rw [List.length_cons, List.length_cons, ih]

theorem eraseIdx (shown : tree.Shows ids forest) (place : Nat) :
    tree.Shows (ids.eraseIdx place) (forest.eraseIdx place) := by
  induction shown generalizing place with
  | nil => exact .nil
  | cons found inside beside _ ih =>
    cases place with
    | zero => exact beside
    | succ place => exact .cons found inside (ih place)

theorem insertIdx {branch : Branch} (single : tree.Shows [id] [branch]) (shown : tree.Shows ids forest) (place : Nat) :
    tree.Shows (ids.insertIdx place id) (forest.insertIdx place branch) := by
  induction shown generalizing place with
  | nil =>
    cases place with
    | zero => exact single
    | succ place => exact .nil
  | cons found inside beside _ ih =>
    cases place with
    | zero => exact single.append (.cons found inside beside)
    | succ place => exact .cons found inside (ih place)

theorem getElem? (shown : tree.Shows ids forest) {place : Nat} {branch : Branch}
    (here : forest[place]? = some branch) : ∃ id, ids[place]? = some id ∧ tree.Shows [id] [branch] := by
  induction shown generalizing place with
  | nil => cases here
  | cons found inside _ _ ih =>
    cases place with
    | zero =>
      cases here
      exact ⟨_, rfl, .cons found inside .nil⟩
    | succ place => exact ih here

theorem shiftElement (shown : tree.Shows ids forest) {source : Nat} {branch : Branch}
    (here : forest[source]? = some branch) (target : Nat) :
    tree.Shows (ConfigSchema.shiftElement source target ids) ((forest.eraseIdx source).insertIdx target branch) := by
  obtain ⟨id, listed, single⟩ := shown.getElem? here
  rw [ConfigSchema.shiftElement, listed]
  exact insertIdx single (shown.eraseIdx source) target

theorem of_findIn? (keyed : ∀ id node, tree.node? id = some node → node.field.id = id) (shown : tree.Shows ids forest)
    {branch : Branch} (sought : Branch.findIn? id forest = some branch) : tree.Shows [id] [branch] := by
  induction shown with
  | nil => cases sought
  | @cons head node rest below others found inside _ insideIh besideIh =>
    rw [Branch.findIn?, Branch.find?, keyed head node found, Option.or_eq_some_iff] at sought
    rcases sought with here | ⟨_, later⟩
    · split at here
      · rename_i same
        cases here
        exact same ▸ .cons found inside .nil
      · exact insideIh here
    · exact besideIh later

end Shows

namespace WellFormed

variable (wellFormed : tree.WellFormed)

include wellFormed

theorem exists_branch (stored : tree.contains id = true) :
    ∃ branch, Branch.findIn? id tree.forest = some branch ∧ tree.Shows [id] [branch] := by
  have member := wellFormed.mem_forestIds_forest.mpr stored
  obtain ⟨branch, found⟩ := Option.isSome_iff_exists.mp ((Branch.findIn?_isSome_iff id tree.forest).mpr member)
  exact ⟨branch, found, (shows_forest wellFormed).of_findIn? wellFormed.keyed found⟩

theorem exists_listAt {place : Option FieldId} {siblings : List FieldId} (list : tree.siblings? place = some siblings) :
    ∃ below, Branch.listAt? place tree.forest = some below ∧ tree.Shows siblings below := by
  cases place with
  | none =>
    cases list
    exact ⟨tree.forest, rfl, shows_forest wellFormed⟩
  | some above =>
    obtain ⟨node, found, rfl⟩ := Option.map_eq_some_iff.mp list
    obtain ⟨branch, sought, shown⟩ := wellFormed.exists_branch (contains_of_node found)
    cases shown with
    | cons stored inside _ =>
      cases found.symm.trans stored
      exact ⟨_, by rw [Branch.listAt?, sought, Option.map_some]; rfl, inside⟩

end WellFormed

/-- Where two trees differ in one branch only, so do their forests. -/
theorem Shows.modifyAll (keyed : ∀ id node, tree.node? id = some node → node.field.id = id) {change : Branch → Branch}
    (shown : tree.Shows ids forest) (distinct : (Branch.forestIds forest).Nodup)
    (aside : ∀ sought, sought ≠ id → tree.Keeps other sought)
    (own : ∀ node below, tree.node? id = some node → tree.Shows node.children below →
      other.Shows node.children below → ∃ after inside, other.node? id = some after ∧
        change (.mk node.field below) = .mk after.field inside ∧ other.Shows after.children inside) :
    other.Shows ids (Branch.modifyAll id change forest) := by
  induction shown with
  | nil => exact .nil
  | @cons head node rest below others found inside _ insideIh besideIh =>
    rw [Branch.forestIds, Branch.ids, keyed head node found] at distinct
    obtain ⟨first, later, _⟩ := List.nodup_append.mp distinct
    obtain ⟨absent, under⟩ := List.nodup_cons.mp first
    rw [Branch.modifyAll, Branch.modify, keyed head node found]
    split
    · rename_i here
      subst here
      -- ids are distinct, so the branch that is changed does not hold itself and its children stay
      have unchanged := insideIh under
      rw [Branch.modifyAll_of_not_mem below absent] at unchanged
      obtain ⟨after, within, stored, changed, shows⟩ := own node below found inside unchanged
      rw [changed]
      exact .cons stored shows (besideIh later)
    · rename_i elsewhere
      obtain ⟨after, stored, field, children⟩ := aside head elsewhere node found
      rw [← field]
      exact .cons stored (children ▸ insideIh under) (besideIh later)

/-- The second tree is the first one with the list at one place changed. -/
structure Relisted (tree other : SchemaTree) (place : Option FieldId) (change : List FieldId → List FieldId) : Prop where
  node : ∀ id node, tree.node? id = some node → ∃ after, other.node? id = some after ∧ after.field = node.field ∧
    after.children = if place = some id then change node.children else node.children
  roots : other.roots = if place = none then change tree.roots else tree.roots

namespace Relisted

variable {place : Option FieldId} {change : List FieldId → List FieldId}

theorem keeps (relisted : tree.Relisted other place change) {sought : FieldId} (elsewhere : place ≠ some sought) :
    tree.Keeps other sought := by
  intro node found
  have same := relisted.node sought node found
  rwa [if_neg elsewhere] at same

/-- A change of one list is the same change of the branches in it. -/
theorem shows_roots (relisted : tree.Relisted other place change)
    (keyed : ∀ id node, tree.node? id = some node → node.field.id = id) (shown : tree.Shows tree.roots forest)
    (distinct : (Branch.forestIds forest).Nodup) {edit : Forest → Forest}
    (carried : ∀ siblings below, tree.siblings? place = some siblings → tree.Shows siblings below →
      other.Shows siblings below → other.Shows (change siblings) (edit below)) :
    other.Shows other.roots (Branch.modifyList place edit forest) := by
  have roots := relisted.roots
  cases place with
  | none =>
    rw [if_pos rfl] at roots
    rw [roots]
    exact carried tree.roots forest rfl shown (shown.transfer keyed fun id _ => relisted.keeps nofun)
  | some above =>
    rw [if_neg nofun] at roots
    rw [roots]
    refine shown.modifyAll keyed distinct (fun sought elsewhere => relisted.keeps fun same => ?_) ?_
    · exact elsewhere (Option.some.inj same).symm
    · intro node below found inside kept
      obtain ⟨after, stored, field, children⟩ := relisted.node above node found
      rw [if_pos rfl] at children
      refine ⟨after, edit below, stored, by rw [field]; rfl, ?_⟩
      rw [children]
      exact carried node.children below (siblings?_of_node found) inside kept

end Relisted

theorem Entered.relisted {grown : SchemaTree} {parent : Option FieldId} {attributes : Attributes}
    (entered : tree.Entered grown id parent attributes) : tree.Relisted grown parent (· ++ [id]) where
  node := by
    intro sought node found
    have old : sought ≠ id := fun same => entered.fresh (same ▸ contains_of_node found)
    have now := entered.node sought
    rw [if_neg old, found, Option.map_some] at now
    refine ⟨_, now, rfl, ?_⟩
    by_cases here : parent = some sought <;> simp [here]
  roots := by
    rw [entered.roots]
    split <;> simp

theorem relisted_relist (change : List FieldId → List FieldId) (place : Option FieldId) :
    tree.Relisted (tree.relist change place) place change where
  node := by
    intro id node found
    have now : (tree.relist change place).node? id = _ := node?_relist change place id
    rw [found, Option.map_some] at now
    exact ⟨_, now, rfl, rfl⟩
  roots := roots_relist change place

theorem Transplanted.relisted {moved : SchemaTree} {target : Option FieldId} (wellFormed : tree.WellFormed)
    (shifted : tree.Transplanted moved id target) : (tree.detach id).Relisted moved target (· ++ [id]) where
  node := by
    intro sought node found
    rw [node?_detach wellFormed, Option.map_eq_some_iff] at found
    obtain ⟨before, stored, rfl⟩ := found
    have now := shifted.node sought
    rw [stored, Option.map_some] at now
    refine ⟨_, now, rfl, ?_⟩
    by_cases here : target = some sought <;> simp [here]
  roots := by
    rw [shifted.roots, roots_detach wellFormed shifted.stored]
    split <;> simp

theorem Shows.pruneAll (wellFormed : tree.WellFormed) (shown : tree.Shows ids forest)
    (aside : ∀ top ∈ ids, ¬TransGen tree.Rises top id)
    (kept : ∀ sought node, tree.node? sought = some node → ¬ReflTransGen tree.Rises sought id →
      ∃ after, other.node? sought = some after ∧ after.field = node.field ∧
        after.children = node.children.filter fun child => child ≠ id) :
    other.Shows (ids.filter fun child => child ≠ id) (Branch.pruneAll id forest) := by
  induction shown with
  | nil => exact .nil
  | @cons head node rest below others found _ _ insideIh besideIh =>
    rw [List.forall_mem_cons] at aside
    have beside := besideIh aside.2
    rw [Branch.pruneAll, Branch.field, wellFormed.keyed head node found]
    split
    · rename_i here
      rwa [List.filter_cons_of_neg (by simpa using here)]
    · rename_i elsewhere
      have apart : ¬ReflTransGen tree.Rises head id := fun way =>
        (reflTransGen_iff_eq_or_transGen.mp way).elim (fun same => elsewhere same.symm) aside.1
      obtain ⟨after, stored, field, children⟩ := kept head node found apart
      have inside := insideIh fun child member way => by
        obtain ⟨next, rises, later⟩ := TransGen.head'_iff.mp way
        cases rises_functional rises ((wellFormed.mem_children_iff found).mp member)
        exact apart later
      rw [List.filter_cons_of_pos (by simpa using elsewhere), Branch.prune, ← field]
      exact .cons stored (children ▸ inside) beside

theorem WellFormed.root_not_below (wellFormed : tree.WellFormed) :
    ∀ root ∈ tree.roots, ¬TransGen tree.Rises root id := by
  intro root member way
  obtain ⟨next, rises, _⟩ := TransGen.head'_iff.mp way
  have top : tree.parent? root = none := wellFormed.parent_eq_of_mem rfl member
  exact nomatch top.symm.trans rises

theorem count_of_delete (wellFormed : tree.WellFormed) {branch : Branch} (shown : tree.Shows [id] [branch])
    {count : Nat} {pruned : SchemaTree} (done : tree.delete id = .ok (count, pruned)) : count = branch.size := by
  have ids : tree.subtree id = branch.ids := by
    rw [shown.subtree_eq wellFormed, Branch.forestIds, Branch.forestIds, List.append_nil]
  have distinct : (Keyed.keys (tree.detach id).nodes).Nodup := by
    rw [keys_detach]
    exact wellFormed.distinct
  have nodup : (tree.subtree id).Nodup := by
    rw [shown.subtree_eq wellFormed]
    exact shown.nodup_forestIds wellFormed (wellFormed.apart_single id)
  unfold delete at done
  split at done
  · rename_i stored
    have known : ∀ key ∈ tree.subtree id, key ∈ Keyed.keys (tree.detach id).nodes := by
      intro key member
      rw [keys_detach, ← contains_iff_mem_keys]
      rcases ((mem_subtree_iff wellFormed stored).mp member).cases_head with rfl | ⟨next, rises, _⟩
      · exact stored
      · obtain ⟨node, found, _⟩ := rises.exists_node
        exact contains_of_node found
    have parts := Keyed.length_filter_not_mem distinct nodup known
    have same : Keyed.keys (tree.detach id).nodes = Keyed.keys tree.nodes := keys_detach id
    have whole : tree.nodes.length = (tree.detach id).nodes.length := by
      simpa [Keyed.keys] using (congrArg List.length same).symm
    rw [Except.ok.injEq, Prod.mk.injEq] at done
    rw [Branch.size_eq_length_ids, ← ids, ← done.1]
    omega
  · cases done

section

variable (wellFormed : tree.WellFormed)

include wellFormed

theorem WellFormed.forest_eq {forest : Forest} (shown : tree.Shows tree.roots forest) : tree.forest = forest :=
  (shows_forest wellFormed).unique shown

theorem forest_of_add (fresh : ¬tree.contains (.ofSerial tree.nextSerial) = true) {millis : Nat}
    {parent : Option FieldId} {draft : Attributes} {grown : SchemaTree}
    (done : tree.add millis parent draft = .ok (id, grown)) :
    id ∉ Branch.forestIds tree.forest ∧ (Branch.listAt? parent tree.forest).isSome = true ∧
      grown.forest = Branch.modifyList parent
        (· ++ [.mk ((draft.completed (draft.nameOr (nameFromTime millis))).withId id) []]) tree.forest := by
  obtain ⟨entered, _⟩ := entered_of_insert fresh (insert_of_add done)
  obtain ⟨siblings, list⟩ := entered.exists_siblings
  obtain ⟨below, listed, _⟩ := wellFormed.exists_listAt list
  refine ⟨fun member => entered.fresh (wellFormed.mem_forestIds_forest.mp member), by rw [listed]; rfl, ?_⟩
  refine (entered.wellFormed wellFormed).forest_eq (entered.relisted.shows_roots wellFormed.keyed
    (shows_forest wellFormed) wellFormed.nodup_forestIds_forest ?_)
  intro siblings below _ _ kept
  have new := entered.node id
  rw [if_pos rfl] at new
  exact kept.append (.cons new .nil .nil)

theorem forest_of_update {draft : Attributes} {updated : SchemaTree} (done : tree.update id draft = .ok updated) :
    ∃ branch, Branch.findIn? id tree.forest = some branch ∧ updated.forest = Branch.modifyAll id
      (fun branch => .mk ((draft.completed (draft.nameOr branch.field.name)).withId id) branch.children)
      tree.forest := by
  have later := (rearranged_of_update wellFormed done).wellFormed wellFormed
  obtain ⟨node, found, _, rfl⟩ := update_eq_ok done
  obtain ⟨branch, sought, _⟩ := wellFormed.exists_branch (contains_of_node found)
  refine ⟨branch, sought, later.forest_eq ?_⟩
  refine (shows_forest wellFormed).modifyAll wellFormed.keyed wellFormed.nodup_forestIds_forest ?_ ?_
  · exact fun sought elsewhere => keeps_of_node fun node stored => by
      rw [node?_modifyNode, if_neg (Ne.symm elsewhere), stored]
  · intro other below stored _ kept
    cases found.symm.trans stored
    have now : (tree.modifyNode id fun before =>
        { before with field := (draft.completed (draft.nameOr node.field.name)).withId id }).node? id =
          some { node with field := (draft.completed (draft.nameOr node.field.name)).withId id } := by
      rw [node?_modifyNode, if_pos rfl, found, Option.map_some]
    exact ⟨_, below, now, rfl, kept⟩

theorem forest_of_delete {count : Nat} {pruned : SchemaTree} (done : tree.delete id = .ok (count, pruned)) :
    ∃ branch, Branch.findIn? id tree.forest = some branch ∧ count = branch.size ∧
      pruned.forest = Branch.pruneAll id tree.forest := by
  have cut := pruned_of_delete wellFormed done
  have stored : tree.contains id = true := by
    unfold delete at done
    split at done
    · assumption
    · cases done
  obtain ⟨branch, sought, shown⟩ := wellFormed.exists_branch stored
  refine ⟨branch, sought, count_of_delete wellFormed shown done, (cut.wellFormed wellFormed).forest_eq ?_⟩
  rw [cut.roots]
  refine (shows_forest wellFormed).pruneAll wellFormed wellFormed.root_not_below ?_
  intro sought node found aside
  have now := cut.node sought aside
  rw [found, Option.map_some] at now
  exact ⟨_, now, rfl, rfl⟩

theorem shows_detach (stored : tree.contains id = true) :
    (tree.detach id).Shows (tree.detach id).roots (Branch.pruneAll id tree.forest) := by
  rw [roots_detach wellFormed stored]
  refine (shows_forest wellFormed).pruneAll wellFormed wellFormed.root_not_below ?_
  intro sought node found _
  have now := node?_detach wellFormed id sought
  rw [found, Option.map_some] at now
  exact ⟨_, now, rfl, rfl⟩

/-- The branch that moves stays as it is: nothing in it names the field or lies at the target. -/
theorem Transplanted.shows_branch {moved : SchemaTree} {target : Option FieldId}
    (shifted : tree.Transplanted moved id target) {branch : Branch} (shown : tree.Shows [id] [branch]) :
    moved.Shows [id] [branch] := by
  refine shown.transfer wellFormed.keyed fun sought member node found => ?_
  obtain ⟨top, single, way⟩ := (shown.mem_forestIds_iff wellFormed).mp member
  cases List.mem_singleton.mp single
  have elsewhere : target ≠ some sought := by
    rintro rfl
    obtain ⟨_, _, _, aside⟩ := shifted.holder sought rfl
    exact aside way
  have apart : ¬tree.Rises id sought := fun rises => wellFormed.not_above_self id (.head' rises way)
  have now := shifted.node sought
  rw [found, Option.map_some, if_neg elsewhere, wellFormed.filter_children found apart, List.append_nil] at now
  exact ⟨_, now, rfl, rfl⟩

theorem forest_of_move {target : Option FieldId} {moved : SchemaTree} (done : tree.move id target = .ok moved) :
    ∃ branch, Branch.findIn? id tree.forest = some branch ∧
      (Branch.listAt? target (Branch.pruneAll id tree.forest)).isSome = true ∧
      moved.forest = Branch.modifyList target (· ++ [branch]) (Branch.pruneAll id tree.forest) := by
  have shifted := transplanted_of_move wellFormed done
  obtain ⟨branch, sought, shown⟩ := wellFormed.exists_branch shifted.stored
  have single := shifted.shows_branch wellFormed shown
  have keyed : ∀ id' node, (tree.detach id).node? id' = some node → node.field.id = id' := by
    intro sought node found
    rw [node?_detach wellFormed, Option.map_eq_some_iff] at found
    obtain ⟨before, stored, rfl⟩ := found
    exact wellFormed.keyed sought before stored
  have distinct := wellFormed.nodup_forestIds_forest.sublist (Branch.forestIds_pruneAll_sublist id tree.forest)
  have later := shifted.wellFormed wellFormed
  have same : moved.forest = Branch.modifyList target (· ++ [branch]) (Branch.pruneAll id tree.forest) :=
    later.forest_eq ((shifted.relisted wellFormed).shows_roots keyed (shows_detach wellFormed shifted.stored) distinct
      fun siblings below _ _ kept => kept.append single)
  refine ⟨branch, sought, ?_, same⟩
  cases target with
  | none => rfl
  | some above =>
    rw [Branch.listAt?, Option.isSome_map, Branch.findIn?_isSome_iff]
    by_contra absent
    -- without its target the branch would be lost, but the moved tree still has the field
    have lost : moved.forest = Branch.pruneAll id tree.forest :=
      same.trans (Branch.modifyAll_of_not_mem _ absent)
    have member := later.mem_forestIds_forest.mpr ((shifted.contains id).trans shifted.stored)
    exact Branch.not_mem_forestIds_pruneAll _ (lost ▸ member)

theorem forest_of_reorder {parent : Option FieldId} {source target : Nat} {reordered : SchemaTree}
    (done : tree.reorder parent source target = .ok reordered) :
    ∃ list element, Branch.listAt? parent tree.forest = some list ∧ list[source]? = some element ∧
      target < list.length ∧ reordered.forest = Branch.modifyList parent
        (fun list => (list.eraseIdx source).insertIdx target element) tree.forest := by
  have later := (rearranged_of_reorder done).wellFormed wellFormed
  obtain ⟨siblings, held, inside, within, rfl⟩ := reorder_eq_ok done
  obtain ⟨list, listed, shown⟩ := wellFormed.exists_listAt held
  rw [shown.length_eq] at inside within
  refine ⟨list, list[source], listed, List.getElem?_eq_getElem inside, within, later.forest_eq ?_⟩
  refine (relisted_relist _ parent).shows_roots wellFormed.keyed (shows_forest wellFormed)
    wellFormed.nodup_forestIds_forest ?_
  intro others below again same kept
  cases held.symm.trans again
  cases shown.unique same
  exact kept.shiftElement (List.getElem?_eq_getElem inside) target

/-- The table of a well-formed tree refines its forest: whatever edit succeeds, the forest afterwards is the forest
before with one branch entered last in a list, with the data of one field replaced, without one branch, with one
branch moved to the end of a list, or with one element of a list shifted. -/
theorem forest_of_edits :
    (∀ millis parent draft id grown, ¬tree.contains (.ofSerial tree.nextSerial) = true →
      tree.add millis parent draft = .ok (id, grown) →
        id ∉ Branch.forestIds tree.forest ∧ (Branch.listAt? parent tree.forest).isSome = true ∧
        grown.forest = Branch.modifyList parent
          (· ++ [.mk ((draft.completed (draft.nameOr (nameFromTime millis))).withId id) []]) tree.forest) ∧
    (∀ id draft updated, tree.update id draft = .ok updated →
      ∃ branch, Branch.findIn? id tree.forest = some branch ∧ updated.forest = Branch.modifyAll id
        (fun branch => .mk ((draft.completed (draft.nameOr branch.field.name)).withId id) branch.children)
        tree.forest) ∧
    (∀ id count pruned, tree.delete id = .ok (count, pruned) →
      ∃ branch, Branch.findIn? id tree.forest = some branch ∧ count = branch.size ∧
        pruned.forest = Branch.pruneAll id tree.forest) ∧
    (∀ id target moved, tree.move id target = .ok moved →
      ∃ branch, Branch.findIn? id tree.forest = some branch ∧
        (Branch.listAt? target (Branch.pruneAll id tree.forest)).isSome = true ∧
        moved.forest = Branch.modifyList target (· ++ [branch]) (Branch.pruneAll id tree.forest)) ∧
    ∀ parent source target reordered, tree.reorder parent source target = .ok reordered →
      ∃ list element, Branch.listAt? parent tree.forest = some list ∧ list[source]? = some element ∧
        target < list.length ∧ reordered.forest = Branch.modifyList parent
          (fun list => (list.eraseIdx source).insertIdx target element) tree.forest := by
  refine ⟨?_, ?_, ?_, ?_, ?_⟩
  · exact fun millis parent draft id grown fresh done => forest_of_add wellFormed fresh done
  · exact fun id draft updated done => forest_of_update wellFormed done
  · exact fun id count pruned done => forest_of_delete wellFormed done
  · exact fun id target moved done => forest_of_move wellFormed done
  · exact fun parent source target reordered done => forest_of_reorder wellFormed done

end

def nestedRun : List Edit :=
  let draft (name : String) (kind : Kind) : Attributes := ⟨name, kind, "", false, none⟩
  [.add 0 none (draft "outer" .object), .add 0 (some (.ofSerial 0)) (draft "inner" .object),
    .add 0 (some (.ofSerial 1)) (draft "leaf" .boolean), .add 0 (some (.ofSerial 0)) (draft "count" (.number .free)),
    .add 0 none (draft "other" .object)]

def nestedTree : SchemaTree := nestedRun.foldl Edit.apply empty

theorem forest_of_edits_at_nestedTree :
    nestedTree.WellFormed ∧ ¬nestedTree.contains (.ofSerial nestedTree.nextSerial) = true ∧
    (∃ grown, nestedTree.add 7 (some (.ofSerial 1)) ⟨" ", .boolean, "Late", false, none⟩ = .ok (.ofSerial 5, grown) ∧
      Branch.forestIds grown.forest = [0, 1, 2, 5, 3, 4].map .ofSerial ∧
      (Branch.findIn? (.ofSerial 5) grown.forest).map (fun branch => branch.field.name) = some "field7") ∧
    (∃ updated, nestedTree.update (.ofSerial 1) ⟨"", .array (some .object), "", true, none⟩ = .ok updated ∧
      Branch.forestIds updated.forest = [0, 1, 2, 3, 4].map .ofSerial ∧
      (Branch.findIn? (.ofSerial 1) updated.forest).map (fun branch => branch.field.name) = some "inner") ∧
    (∃ pruned, nestedTree.delete (.ofSerial 1) = .ok (2, pruned) ∧
      Branch.forestIds pruned.forest = [0, 3, 4].map .ofSerial) ∧
    (∃ moved, nestedTree.move (.ofSerial 1) (some (.ofSerial 4)) = .ok moved ∧
      Branch.forestIds moved.forest = [0, 3, 4, 1, 2].map .ofSerial) ∧
    ∃ reordered, nestedTree.reorder (some (.ofSerial 0)) 0 1 = .ok reordered ∧
      Branch.forestIds reordered.forest = [0, 3, 1, 2, 4].map .ofSerial := by
  have wellFormed : nestedTree.WellFormed := (Reachable.empty.run nestedRun).wellFormed
  have fresh : ¬nestedTree.contains (.ofSerial nestedTree.nextSerial) = true := by decide
  obtain ⟨added, updates, deletes, moves, reorders⟩ := forest_of_edits wellFormed
  refine ⟨wellFormed, fresh, ?_, ?_, ?_, ?_, ?_⟩
  · obtain ⟨grown, done⟩ : ∃ grown, nestedTree.add 7 (some (.ofSerial 1)) ⟨" ", .boolean, "Late", false, none⟩ =
      .ok (.ofSerial 5, grown) := ⟨_, rfl⟩
    obtain ⟨_, _, same⟩ := added _ _ _ _ _ fresh done
    exact ⟨grown, done, by rw [same]; decide⟩
  · obtain ⟨updated, done⟩ : ∃ updated, nestedTree.update (.ofSerial 1)
      ⟨"", .array (some .object), "", true, none⟩ = .ok updated := ⟨_, rfl⟩
    obtain ⟨_, _, same⟩ := updates _ _ _ done
    exact ⟨updated, done, by rw [same]; decide⟩
  · obtain ⟨pruned, done⟩ : ∃ pruned, nestedTree.delete (.ofSerial 1) = .ok (2, pruned) := ⟨_, rfl⟩
    obtain ⟨_, _, _, same⟩ := deletes _ _ _ done
    exact ⟨pruned, done, by rw [same]; decide⟩
  · obtain ⟨moved, done⟩ : ∃ moved, nestedTree.move (.ofSerial 1) (some (.ofSerial 4)) = .ok moved := ⟨_, rfl⟩
    obtain ⟨branch, found, _, same⟩ := moves _ _ _ done
    cases found
    exact ⟨moved, done, by rw [same]; decide⟩
  · obtain ⟨reordered, done⟩ : ∃ reordered, nestedTree.reorder (some (.ofSerial 0)) 0 1 = .ok reordered := ⟨_, rfl⟩
    obtain ⟨list, element, listed, here, _, same⟩ := reorders _ _ _ _ done
    cases listed
    cases here
    exact ⟨reordered, done, by rw [same]; decide⟩

end SchemaTree

end ConfigSchema
