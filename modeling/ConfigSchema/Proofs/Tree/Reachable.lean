import ConfigSchema.Proofs.Tree.Growth
import ConfigSchema.Proofs.Tree.Transplants
import ConfigSchema.Session

/-! Runs of edits. A tree begins empty, as the tree of a flat map or as the tree of a document, and every tree
that edits, imports and drops can make of it is well-formed: one step keeps the lists and the entries in
agreement, and so does every run. -/

namespace ConfigSchema

/-- What can be done to a tree. An import and a drop act on the tree of a session. -/
inductive Edit where
  | add (millis : Nat) (parent : Option FieldId) (draft : Attributes)
  | update (id : FieldId) (draft : Attributes)
  | delete (id : FieldId)
  | move (id : FieldId) (target : Option FieldId)
  | reorder (parent : Option FieldId) (source target : Nat)
  | importDocument (text : String)
  | drop (drag : Drag)

/-- The tree after an edit; a refused edit leaves the tree as it was. -/
def Edit.apply (tree : SchemaTree) : Edit → SchemaTree
  | .add millis parent draft =>
    match tree.add millis parent draft with
    | .ok (_, grown) => grown
    | .error _ => tree
  | .update id draft =>
    match tree.update id draft with
    | .ok updated => updated
    | .error _ => tree
  | .delete id =>
    match tree.delete id with
    | .ok (_, pruned) => pruned
    | .error _ => tree
  | .move id target =>
    match tree.move id target with
    | .ok moved => moved
    | .error _ => tree
  | .reorder parent source target =>
    match tree.reorder parent source target with
    | .ok reordered => reordered
    | .error _ => tree
  | .importDocument text => ((Session.ofTree tree).importDocument text).2.tree
  | .drop drag => (drag.drop tree).2

namespace SchemaTree

/-- The trees that a run of edits can lead to. -/
inductive Reachable : SchemaTree → Prop
  | empty : Reachable .empty
  | flat {map : FlatMap} {tree : SchemaTree} (read : ofFlat map = .ok tree) : Reachable tree
  | document {serial : Nat} {document : Json} {tree : SchemaTree}
      (read : ofDocumentFrom serial document = .ok tree) : Reachable tree
  | edit {tree : SchemaTree} (edit : Edit) (before : Reachable tree) : Reachable (edit.apply tree)

variable {tree : SchemaTree}

inductive Edited (tree : SchemaTree) : SchemaTree → Prop
  | add {millis : Nat} {parent : Option FieldId} {draft : Attributes} {id : FieldId} {grown : SchemaTree}
      (done : tree.add millis parent draft = .ok (id, grown)) : Edited tree grown
  | update {id : FieldId} {draft : Attributes} {updated : SchemaTree}
      (done : tree.update id draft = .ok updated) : Edited tree updated
  | delete {id : FieldId} {count : Nat} {pruned : SchemaTree}
      (done : tree.delete id = .ok (count, pruned)) : Edited tree pruned
  | move {id : FieldId} {target : Option FieldId} {moved : SchemaTree}
      (done : tree.move id target = .ok moved) : Edited tree moved
  | reorder {parent : Option FieldId} {source target : Nat} {reordered : SchemaTree}
      (done : tree.reorder parent source target = .ok reordered) : Edited tree reordered

theorem drop_cases (tree : SchemaTree) (drag : Drag) : (drag.drop tree).2 = tree ∨ tree.Edited (drag.drop tree).2 := by
  have carried : ∀ source plan, (Drag.carryOut tree source plan).2 = tree ∨
      tree.Edited (Drag.carryOut tree source plan).2 := by
    intro source plan
    cases plan with
    | move parent =>
      simp only [Drag.carryOut]
      split
      · rename_i moved done
        exact .inr (.move done)
      · exact .inl rfl
    | reorder parent place other =>
      simp only [Drag.carryOut]
      split
      · rename_i reordered done
        exact .inr (.reorder done)
      · exact .inl rfl
    | refuse reason => exact .inl rfl
    | nothing => exact .inl rfl
  cases drag with
  | hovering source target valid => exact carried source _
  | idle => exact .inl rfl
  | dragging source => exact .inl rfl

theorem apply_cases (tree : SchemaTree) (edit : Edit) : edit.apply tree = tree ∨ tree.Edited (edit.apply tree) ∨
    ∃ text, edit = .importDocument text ∧ Session.readDocument tree.nextSerial text = .ok (edit.apply tree) := by
  cases edit with
  | add millis parent draft =>
    simp only [Edit.apply]
    split
    · rename_i id grown done
      exact .inr (.inl (.add done))
    · exact .inl rfl
  | update id draft =>
    simp only [Edit.apply]
    split
    · rename_i updated done
      exact .inr (.inl (.update done))
    · exact .inl rfl
  | delete id =>
    simp only [Edit.apply]
    split
    · rename_i count pruned done
      exact .inr (.inl (.delete done))
    · exact .inl rfl
  | move id target =>
    simp only [Edit.apply]
    split
    · rename_i moved done
      exact .inr (.inl (.move done))
    · exact .inl rfl
  | reorder parent source target =>
    simp only [Edit.apply]
    split
    · rename_i reordered done
      exact .inr (.inl (.reorder done))
    · exact .inl rfl
  | importDocument text =>
    simp only [Edit.apply, Session.importDocument, Session.ofTree]
    split
    · rename_i imported done
      exact .inr (.inr ⟨text, rfl, done⟩)
    · exact .inl rfl
  | drop drag => exact (drop_cases tree drag).imp_right .inl

theorem Edited.wellFormed {other : SchemaTree} (edited : tree.Edited other) (wellFormed : tree.WellFormed)
    (numbered : tree.Numbered) : other.WellFormed ∧ other.Numbered := by
  cases edited with
  | add done => exact insert_wellFormed wellFormed numbered (insert_of_add done)
  | update done =>
    have same := rearranged_of_update wellFormed done
    exact ⟨same.wellFormed wellFormed, same.numbered numbered⟩
  | delete done =>
    have cut := pruned_of_delete wellFormed done
    exact ⟨cut.wellFormed wellFormed, cut.numbered numbered⟩
  | move done =>
    have shifted := transplanted_of_move wellFormed done
    exact ⟨shifted.wellFormed wellFormed, shifted.numbered numbered⟩
  | reorder done =>
    have same := rearranged_of_reorder done
    exact ⟨same.wellFormed wellFormed, same.numbered numbered⟩

theorem wellFormed_apply (wellFormed : tree.WellFormed) (numbered : tree.Numbered) (edit : Edit) :
    (edit.apply tree).WellFormed ∧ (edit.apply tree).Numbered := by
  obtain same | edited | ⟨text, -, done⟩ := tree.apply_cases edit
  · rw [same]
    exact ⟨wellFormed, numbered⟩
  · exact edited.wellFormed wellFormed numbered
  · simp only [Session.readDocument] at done
    split at done
    · cases done
    · exact wellFormed_ofDocumentFrom done

theorem Reachable.invariant (reachable : tree.Reachable) : tree.WellFormed ∧ tree.Numbered := by
  induction reachable with
  | empty => exact ⟨wellFormed_emptyFrom 0, numbered_emptyFrom 0⟩
  | flat read => exact wellFormed_ofFlat read
  | document read => exact wellFormed_ofDocumentFrom read
  | edit edit _ ih => exact wellFormed_apply ih.1 ih.2 edit

theorem Reachable.run (reachable : tree.Reachable) (edits : List Edit) :
    (edits.foldl Edit.apply tree).Reachable := by
  induction edits generalizing tree with
  | nil => exact reachable
  | cons edit rest ih => exact ih (.edit edit reachable)

theorem Reachable.wellFormed (reachable : tree.Reachable) : tree.WellFormed := reachable.invariant.1

theorem WellFormed.count_siblings (wellFormed : tree.WellFormed) {id : FieldId} {node : Node}
    (found : tree.node? id = some node) {place : Option FieldId} {siblings : List FieldId}
    (list : tree.siblings? place = some siblings) :
    siblings.count id = if place = node.parent then 1 else 0 := by
  split
  · rename_i here
    obtain ⟨others, held, member⟩ := wellFormed.placed id node found
    rw [← here, list, Option.some.injEq] at held
    exact ((wellFormed.once place siblings list).count).trans (if_pos (held ▸ member))
  · rename_i elsewhere
    refine List.count_eq_zero.mpr fun member => elsewhere ?_
    obtain ⟨other, stored, above⟩ := wellFormed.listed place siblings list id member
    rw [found, Option.some.injEq] at stored
    rw [stored, above]

/-- Whatever run of edits led to a tree, its lists, entries and ways up agree: fields of the root list are
stored without a holder, fields of a list of children are stored under the field that lists them, every stored
field occurs once in all lists, under the holder that its entry names and under its own id, every way up ends
at a root after fewer steps than there are fields and never meets its start again, and only containers have
fields below them. -/
theorem reachable_lists_agree (reachable : tree.Reachable) :
    tree.WellFormed ∧
    (∀ root ∈ tree.roots, ∃ node, tree.node? root = some node ∧ node.parent = none) ∧
    (∀ id node, tree.node? id = some node →
      node.field.id = id ∧
      (∀ child ∈ node.children, ∃ below, tree.node? child = some below ∧ below.parent = some id) ∧
      (∃ siblings, tree.siblings? node.parent = some siblings ∧ id ∈ siblings) ∧
      (∀ place siblings, tree.siblings? place = some siblings →
        siblings.count id = if place = node.parent then 1 else 0) ∧
      (∃ steps < tree.size, ∃ root ∈ tree.roots, tree.climb steps id = some root) ∧
      (∀ steps, tree.climb (steps + 1) id ≠ some id) ∧
      (node.children ≠ [] → node.field.kind = .object ∨ node.field.kind = .array (some .object))) := by
  have wellFormed := reachable.wellFormed
  refine ⟨wellFormed, wellFormed.listed none tree.roots rfl, fun id node found => ⟨?_, ?_, ?_, ?_, ?_, ?_, ?_⟩⟩
  · exact wellFormed.keyed id node found
  · exact wellFormed.listed (some id) node.children (siblings?_of_node found)
  · exact wellFormed.placed id node found
  · exact fun place siblings list => wellFormed.count_siblings found list
  · exact exists_climb_root wellFormed (contains_of_node found)
  · exact fun steps way => wellFormed.not_above_self id (transGen_of_climb way)
  · intro filled
    have holds := wellFormed.contained id node found filled
    unfold Kind.holdsFields at holds
    split at holds
    · exact .inl ‹_›
    · exact .inr ‹_›
    · cases holds

def swapRun : List Edit :=
  let draft (name : String) (kind : Kind) : Attributes := ⟨name, kind, "", false, none⟩
  [.add 0 none (draft "outer" .object), .add 0 (some (.ofSerial 0)) (draft "inner" .object),
    .add 0 (some (.ofSerial 1)) (draft "leaf" .boolean), .move (.ofSerial 1) none,
    .move (.ofSerial 0) (some (.ofSerial 1)), .move (.ofSerial 1) (some (.ofSerial 0))]

theorem reachable_lists_agree_after_swapRun :
    (swapRun.foldl Edit.apply empty).Reachable ∧ (swapRun.foldl Edit.apply empty).roots = [.ofSerial 1] ∧
      (swapRun.foldl Edit.apply empty).children (.ofSerial 1) = [.ofSerial 2, .ofSerial 0] ∧
      (swapRun.foldl Edit.apply empty).WellFormed :=
  have reachable := Reachable.empty.run swapRun
  ⟨reachable, by decide, by decide, (reachable_lists_agree reachable).1⟩

end SchemaTree

end ConfigSchema
