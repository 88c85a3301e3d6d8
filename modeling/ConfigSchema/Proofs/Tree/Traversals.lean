import ConfigSchema.Proofs.Tree.Reachable

/-! The order in which fields are visited. The walk over a stack, the nested view and the outline all follow one order.
Main statement: in every reachable tree the walk meets each stored field once, a field before those below it and
siblings as their list has them; it empties its stack with exactly as many steps as there are fields, and the outline
has one line for each of them. -/

namespace ConfigSchema.SchemaTree

open Relation

variable {tree : SchemaTree} {ids : List FieldId} {forest : Forest}

namespace WellFormed

variable (wellFormed : tree.WellFormed)

include wellFormed

theorem preorder_eq : tree.preorder = Branch.forestIds tree.forest := by
  have shown := shows_forest wellFormed
  have few := shown.length_forestIds_le wellFormed wellFormed.apart_roots
  rw [preorder, shown.walkWithin_eq wellFormed, List.take_of_length_le few]

theorem mem_preorder {id : FieldId} : id ∈ tree.preorder ↔ tree.contains id = true := by
  rw [wellFormed.preorder_eq, wellFormed.mem_forestIds_forest]

theorem nodup_preorder : tree.preorder.Nodup := by
  rw [wellFormed.preorder_eq]
  exact wellFormed.nodup_forestIds_forest

theorem length_preorder : tree.preorder.length = tree.size := by
  have same : tree.preorder.Perm (Keyed.keys tree.nodes) := by
    rw [List.perm_ext_iff_of_nodup wellFormed.nodup_preorder wellFormed.distinct]
    intro id
    rw [wellFormed.mem_preorder, contains_iff_mem_keys]
  rw [same.length_eq, Keyed.keys, List.length_map, size]

theorem forestWithin_eq {depth : Nat} (deep : tree.size ≤ depth) :
    tree.forestWithin depth tree.roots = tree.forest := by
  have shown := shows_forest wellFormed
  have stored : ∀ root ∈ tree.roots, tree.contains root = true := fun root member => shown.contains_of_mem member
  have deeper : ∀ root ∈ tree.roots, tree.size ≤ depth + (tree.ancestors root).length :=
    fun root _ => Nat.le_add_right_of_le deep
  exact (shows_forestWithin wellFormed depth stored deeper).unique shown

end WellFormed

/-- The walk as a loop over a stack with its top at the end: the top is taken off, and the fields below it are put on
in reverse. There is no answer when the steps are used up before the stack is empty. -/
def drainWithin (tree : SchemaTree) : Nat → List FieldId → Option (List FieldId)
  | 0, stack => if stack.isEmpty then some [] else none
  | steps + 1, stack =>
    match stack.getLast? with
    | none => some []
    | some id => (tree.drainWithin steps (stack.dropLast ++ (tree.children id).reverse)).map (id :: ·)

/-- A stack is empty after as many steps as the fields that it stands for, and not before. -/
theorem Shows.drainWithin_eq (wellFormed : tree.WellFormed) (steps : Nat) (shown : tree.Shows ids forest) :
    tree.drainWithin steps ids.reverse =
      if (Branch.forestIds forest).length ≤ steps then some (Branch.forestIds forest) else none := by
  induction steps generalizing ids forest with
  | zero =>
    cases shown with
    | nil => rfl
    | cons found inside beside => simp [drainWithin, Branch.forestIds, Branch.ids]
  | succ steps ih =>
    cases shown with
    | nil => simp [drainWithin, Branch.forestIds]
    | @cons id node rest below others found inside beside =>
      have pushed : rest.reverse ++ node.children.reverse = (node.children ++ rest).reverse := by
        rw [List.reverse_append]
      have order : Branch.forestIds (.mk node.field below :: others) = id :: Branch.forestIds (below ++ others) := by
        rw [Branch.forestIds, Branch.ids, wellFormed.keyed id node found, Branch.forestIds_append, List.cons_append]
      rw [List.reverse_cons, drainWithin, List.getLast?_concat, List.dropLast_concat, order]
      simp only [children_of_node found, pushed, ih (inside.append beside), List.length_cons, Nat.add_le_add_iff_right]
      split <;> rfl

theorem Shows.ids_sublist (wellFormed : tree.WellFormed) (shown : tree.Shows ids forest) :
    ids.Sublist (Branch.forestIds forest) := by
  induction shown with
  | nil => exact .slnil
  | @cons id node rest below others found _ _ _ ih =>
    rw [Branch.forestIds, Branch.ids, wellFormed.keyed id node found, List.cons_append]
    exact (ih.trans (List.sublist_append_right _ _)).cons_cons id

theorem Shows.exists_run (wellFormed : tree.WellFormed) (shown : tree.Shows ids forest) {id : FieldId}
    (member : id ∈ Branch.forestIds forest) :
    ∃ branch, tree.Shows [id] [branch] ∧ branch.ids <:+: Branch.forestIds forest := by
  induction shown with
  | nil => cases member
  | @cons head node rest below others found inside beside insideIh besideIh =>
    have whole : Branch.forestIds (.mk node.field below :: others) =
        head :: Branch.forestIds below ++ Branch.forestIds others := by
      rw [Branch.forestIds, Branch.ids, wellFormed.keyed head node found]
    rw [whole, List.mem_append, List.mem_cons] at member
    rw [whole]
    rcases member with (rfl | under) | later
    · refine ⟨.mk node.field below, .cons found inside .nil, ?_⟩
      rw [Branch.ids, wellFormed.keyed id node found]
      exact (List.prefix_append _ _).isInfix
    · obtain ⟨branch, single, run⟩ := insideIh under
      have lower : Branch.forestIds below <:+: head :: Branch.forestIds below := (List.suffix_cons _ _).isInfix
      exact ⟨branch, single, (run.trans lower).trans (List.prefix_append _ _).isInfix⟩
    · obtain ⟨branch, single, run⟩ := besideIh later
      exact ⟨branch, single, run.trans (List.suffix_append _ _).isInfix⟩

namespace WellFormed

variable (wellFormed : tree.WellFormed)

include wellFormed

theorem subtree_run {id : FieldId} (stored : tree.contains id = true) : tree.subtree id <:+: tree.preorder := by
  have member := wellFormed.mem_forestIds_forest.mpr stored
  obtain ⟨branch, single, run⟩ := (shows_forest wellFormed).exists_run wellFormed member
  rwa [single.subtree_eq wellFormed, Branch.forestIds, Branch.forestIds, List.append_nil, wellFormed.preorder_eq]

theorem children_sublist {id : FieldId} (stored : tree.contains id = true) :
    (id :: tree.children id).Sublist tree.preorder := by
  have member := wellFormed.mem_forestIds_forest.mpr stored
  obtain ⟨branch, single, run⟩ := (shows_forest wellFormed).exists_run wellFormed member
  rw [wellFormed.preorder_eq]
  refine List.Sublist.trans ?_ run.sublist
  cases single with
  | @cons _ node _ below _ found inside _ =>
    rw [children_of_node found, Branch.ids, wellFormed.keyed id node found]
    exact (inside.ids_sublist wellFormed).cons_cons id

theorem roots_sublist : tree.roots.Sublist tree.preorder := by
  rw [wellFormed.preorder_eq]
  exact (shows_forest wellFormed).ids_sublist wellFormed

end WellFormed

/-- The line of a field: two blanks for every field above it, its name and its kind, and a star if it is required. -/
def outlineLine (tree : SchemaTree) (id : FieldId) : String :=
  match tree.get? id with
  | none => ""
  | some field => String.ofList (List.replicate (2 * (tree.ancestors id).length) ' ') ++ field.name ++ ": " ++
      field.kind.label ++ (if field.required then "*" else "") ++ "\n"

theorem Shows.outlineForest_eq (wellFormed : tree.WellFormed) (shown : tree.Shows ids forest) {depth : Nat}
    (level : ∀ id ∈ ids, (tree.ancestors id).length = depth) :
    Branch.outlineForest depth forest = String.join ((Branch.forestIds forest).map tree.outlineLine) := by
  induction shown generalizing depth with
  | nil => rfl
  | @cons id node rest below others found inside beside insideIh besideIh =>
    rw [List.forall_mem_cons] at level
    have lower : ∀ child ∈ node.children, (tree.ancestors child).length = depth + 1 := by
      intro child member
      rw [wellFormed.length_ancestors_of_mem_children found member, level.1]
    rw [Branch.outlineForest, Branch.outlineAt, insideIh lower, besideIh level.2, Branch.forestIds, Branch.ids,
      wellFormed.keyed id node found, List.map_append, List.map_cons, String.join_append, String.join_cons,
      outlineLine, get?_of_node found, level.1]

theorem WellFormed.outline_eq (wellFormed : tree.WellFormed) :
    tree.outline = String.join (tree.preorder.map tree.outlineLine) := by
  have level : ∀ root ∈ tree.roots, (tree.ancestors root).length = 0 := by
    intro root member
    rw [ancestors_of_root (wellFormed.parent_eq_of_mem rfl member), List.length_nil]
  rw [outline, (shows_forest wellFormed).outlineForest_eq wellFormed level, wellFormed.preorder_eq]

/-- The walk meets every stored field once and nothing else, a field before those in its list and siblings in the order
of their list, a subtree in one run. It meets them as the nested view has them, which no depth cuts off; its loop is
over after exactly as many steps as there are fields; and the outline is one line for each of them. -/
theorem traversals_agree (reachable : tree.Reachable) :
    (∀ id, tree.preorder.count id = if tree.contains id then 1 else 0) ∧ tree.preorder.length = tree.size ∧
    tree.roots.Sublist tree.preorder ∧
    (∀ id, tree.contains id = true → (id :: tree.children id).Sublist tree.preorder) ∧
    (∀ id, tree.contains id = true → tree.subtree id <:+: tree.preorder) ∧
    tree.preorder = Branch.forestIds tree.forest ∧
    (∀ depth, tree.size ≤ depth → tree.forestWithin depth tree.roots = tree.forest) ∧
    (∀ steps, tree.drainWithin steps tree.roots.reverse = if tree.size ≤ steps then some tree.preorder else none) ∧
    tree.outline = String.join (tree.preorder.map tree.outlineLine) := by
  have wellFormed := reachable.wellFormed
  refine ⟨?_, wellFormed.length_preorder, wellFormed.roots_sublist, ?_, ?_, wellFormed.preorder_eq, ?_, ?_,
    wellFormed.outline_eq⟩
  · intro id
    rw [wellFormed.nodup_preorder.count]
    simp only [wellFormed.mem_preorder]
  · exact fun id stored => wellFormed.children_sublist stored
  · exact fun id stored => wellFormed.subtree_run stored
  · exact fun depth deep => wellFormed.forestWithin_eq deep
  · intro steps
    rw [(shows_forest wellFormed).drainWithin_eq wellFormed, ← wellFormed.preorder_eq, wellFormed.length_preorder]

theorem traversals_agree_after_swapRun :
    (swapRun.foldl Edit.apply empty).Reachable ∧
    (swapRun.foldl Edit.apply empty).preorder = [.ofSerial 1, .ofSerial 2, .ofSerial 0] ∧
    (swapRun.foldl Edit.apply empty).drainWithin 2 [.ofSerial 1] = none ∧
    (swapRun.foldl Edit.apply empty).drainWithin 3 [.ofSerial 1] = some [.ofSerial 1, .ofSerial 2, .ofSerial 0] ∧
    (swapRun.foldl Edit.apply empty).outline = "inner: object\n  leaf: boolean\n  outer: object\n" := by
  have reachable := Reachable.empty.run swapRun
  obtain ⟨_, _, _, _, _, nested, _, drained, lines⟩ := traversals_agree reachable
  have order : (swapRun.foldl Edit.apply empty).preorder = [.ofSerial 1, .ofSerial 2, .ofSerial 0] := by
    rw [nested]
    decide
  refine ⟨reachable, order, drained 2, ?_, ?_⟩
  · exact (drained 3).trans (congrArg some order)
  · rw [lines, order]
    decide +kernel

end ConfigSchema.SchemaTree
