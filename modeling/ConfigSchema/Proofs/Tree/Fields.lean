import ConfigSchema.Proofs.Tree.Paths
import ConfigSchema.Proofs.Tree.Reachable

/-! What holds of every field. Attributes come into a tree as drafts, under a name that was entered or that the field
has already; all other edits only take fields away or bring them to other places. Main statement: what every draft
keeps holds of every field after every run without imports, if it holds of every field before. -/

namespace ConfigSchema

/-- Whether an edit puts another tree in the place of the whole tree. -/
def Edit.isImport : Edit → Bool
  | .importDocument _ => true
  | _ => false

structure Attributes.KeptByDrafts (property : Attributes → Prop) : Prop where
  entered : ∀ (draft : Attributes) (name : String), Text.isBlankText name = false → Path.hasDot name = false →
    property (draft.completed name)
  renamed : ∀ draft before : Attributes, property before → property (draft.completed before.name)

namespace SchemaTree

variable {tree other : SchemaTree} {property : Attributes → Prop}

def All (tree : SchemaTree) (property : Attributes → Prop) : Prop :=
  ∀ id node, tree.node? id = some node → property node.field.attributes

theorem all_iff : tree.All property ↔ ∀ id field, tree.get? id = some field → property field.attributes := by
  constructor
  · intro all id field stored
    obtain ⟨node, found, rfl⟩ := Option.map_eq_some_iff.mp stored
    exact all id node found
  · exact fun all id node found => all id node.field (get?_of_node found)

def FieldsFrom (tree other : SchemaTree) : Prop :=
  ∀ id node, other.node? id = some node → ∃ before, tree.node? id = some before ∧ node.field = before.field

theorem FieldsFrom.all (from_tree : tree.FieldsFrom other) (all : tree.All property) : other.All property := by
  intro id node found
  obtain ⟨before, stored, same⟩ := from_tree id node found
  rw [same]
  exact all id before stored

theorem fieldsFrom_of_delete (wellFormed : tree.WellFormed) {id : FieldId} {count : Nat}
    (done : tree.delete id = .ok (count, other)) : tree.FieldsFrom other := by
  intro sought node found
  obtain ⟨_, before, stored, rfl⟩ := (pruned_of_delete wellFormed done).node_before found
  exact ⟨before, stored, rfl⟩

theorem fieldsFrom_of_move (wellFormed : tree.WellFormed) {id : FieldId} {target : Option FieldId}
    (done : tree.move id target = .ok other) : tree.FieldsFrom other := by
  intro sought node found
  obtain ⟨before, stored, rfl⟩ := (transplanted_of_move wellFormed done).node_before found
  exact ⟨before, stored, rfl⟩

theorem fieldsFrom_of_reorder {parent : Option FieldId} {source target : Nat}
    (done : tree.reorder parent source target = .ok other) : tree.FieldsFrom other := by
  intro sought node found
  obtain ⟨_, _, _, _, rfl⟩ := reorder_eq_ok done
  rw [node?_relist, Option.map_eq_some_iff] at found
  obtain ⟨before, stored, rfl⟩ := found
  exact ⟨before, stored, rfl⟩

theorem hasDot_nameFromTime (millis : Nat) : Path.hasDot (nameFromTime millis) = false := by
  have digits : '.' ∉ Nat.toDigits 10 millis := by
    intro member
    have digit := Nat.isDigit_of_mem_toDigits (by decide) (by decide) member
    exact absurd digit (by decide)
  simp [Path.hasDot, nameFromTime, Nat.repr, digits]

theorem isBlankText_nameFromTime (millis : Nat) : Text.isBlankText (nameFromTime millis) = false := by
  have word : "field".toList.all Text.isBlank = false := by decide
  rw [Text.isBlankText, nameFromTime, String.toList_append, List.all_append, word, Bool.false_and]

/-- A field is added under a name that is not blank and has no dot. -/
theorem named_of_add {millis : Nat} {parent : Option FieldId} {draft : Attributes} {id : FieldId}
    (done : tree.add millis parent draft = .ok (id, other)) :
    Text.isBlankText (draft.nameOr (nameFromTime millis)) = false ∧
      Path.hasDot (draft.nameOr (nameFromTime millis)) = false := by
  unfold Attributes.nameOr
  simp only [add] at done
  split
  · exact ⟨isBlankText_nameFromTime millis, hasDot_nameFromTime millis⟩
  · rename_i written
    rw [if_neg written] at done
    cases dotted : Path.hasDot draft.name with
    | true => simp [dotted] at done
    | false => exact ⟨Bool.eq_false_iff.mpr written, rfl⟩

/-- A field keeps its name in an update, or takes one that is not blank and has no dot. -/
theorem named_of_update {id : FieldId} {draft : Attributes} {node : Node} (found : tree.node? id = some node)
    (done : tree.update id draft = .ok other) : draft.nameOr node.field.name = node.field.name ∨
      Text.isBlankText (draft.nameOr node.field.name) = false ∧ Path.hasDot (draft.nameOr node.field.name) = false := by
  unfold Attributes.nameOr
  simp only [update, found] at done
  split
  · exact .inl rfl
  · rename_i written
    rw [if_neg written] at done
    split at done
    · cases done
    · cases dotted : Path.hasDot draft.name with
      | true => simp [dotted] at done
      | false => exact .inr ⟨Bool.eq_false_iff.mpr written, rfl⟩

section

variable (kept : Attributes.KeptByDrafts property) (all : tree.All property)

include kept all

theorem All.add (wellFormed : tree.WellFormed) (numbered : tree.Numbered) {millis : Nat} {parent : Option FieldId}
    {draft : Attributes} {id : FieldId} (done : tree.add millis parent draft = .ok (id, other)) :
    other.All property := by
  obtain ⟨filled, dotless⟩ := named_of_add done
  exact (fields_keptByInsert property ⟨⟨wellFormed, numbered⟩, all⟩ (kept.entered draft _ filled dotless)
    (insert_of_add done)).2

theorem All.update {id : FieldId} {draft : Attributes} (done : tree.update id draft = .ok other) :
    other.All property := by
  obtain ⟨node, found, _, rfl⟩ := update_eq_ok done
  have given : property (draft.completed (draft.nameOr node.field.name)) := by
    rcases named_of_update found done with old | ⟨filled, dotless⟩
    · rw [old]
      exact kept.renamed draft node.field.attributes (all id node found)
    · exact kept.entered draft _ filled dotless
  intro sought after stored
  rw [node?_modifyNode] at stored
  split at stored
  · obtain ⟨before, _, rfl⟩ := Option.map_eq_some_iff.mp stored
    exact given
  · exact all sought after stored

theorem All.edited (wellFormed : tree.WellFormed) (numbered : tree.Numbered) (edited : tree.Edited other) :
    other.All property := by
  cases edited with
  | add done => exact all.add kept wellFormed numbered done
  | update done => exact all.update kept done
  | delete done => exact (fieldsFrom_of_delete wellFormed done).all all
  | move done => exact (fieldsFrom_of_move wellFormed done).all all
  | reorder done => exact (fieldsFrom_of_reorder done).all all

theorem All.apply (wellFormed : tree.WellFormed) (numbered : tree.Numbered) (edit : Edit)
    (imported : ∀ text, edit = .importDocument text → ∀ document,
      Session.readDocument tree.nextSerial text = .ok document → document.All property) :
    (edit.apply tree).All property := by
  obtain same | edited | ⟨text, same, done⟩ := tree.apply_cases edit
  · rw [same]
    exact all
  · exact all.edited kept wellFormed numbered edited
  · exact imported text same _ done

theorem All.run (wellFormed : tree.WellFormed) (numbered : tree.Numbered) {edits : List Edit}
    (byHand : ∀ edit ∈ edits, edit.isImport = false) : (edits.foldl Edit.apply tree).All property := by
  induction edits generalizing tree with
  | nil => exact all
  | cons edit rest ih =>
    rw [List.forall_mem_cons] at byHand
    obtain ⟨sound, counted⟩ := wellFormed_apply wellFormed numbered edit
    refine ih (all.apply kept wellFormed numbered edit ?_) sound counted byHand.2
    rintro text rfl
    cases byHand.1

end

theorem all_run_of_empty (kept : Attributes.KeptByDrafts property) {edits : List Edit}
    (byHand : ∀ edit ∈ edits, edit.isImport = false) : (edits.foldl Edit.apply empty).All property := by
  have start : empty.All property := fun _ _ found => nomatch found
  exact start.run kept (wellFormed_emptyFrom 0) (numbered_emptyFrom 0) byHand

end SchemaTree

end ConfigSchema
