import ConfigSchema.Pattern.Reader
import ConfigSchema.Proofs.Field.Descriptions
import ConfigSchema.Proofs.Tree.Fields
import ConfigSchema.Proofs.Tree.Printed

/-! Described entries. A description that is left blank is made from the name, when a field is added, when it is updated
and once more when it is exported. Main statement: in an export of a tree that was made by hand, an entry lacks a
description only if the last name of its path has nothing but underscores and blanks in it, and then exactly if the
field that is found at its path has none. -/

namespace ConfigSchema

open Text

structure Attributes.Presented (attributes : Attributes) : Prop where
  filled : isBlankText attributes.name = false
  dotless : Path.hasDot attributes.name = false
  described : isBlankText attributes.description = true → isHollow attributes.name = true

theorem Attributes.keptByDrafts_presented : KeptByDrafts Presented := by
  have described : ∀ (draft : Attributes) (name : String),
      isBlankText (draft.completed name).description = true → isHollow (draft.completed name).name = true := by
    intro draft name blank
    rw [completed, isBlankText_descriptionOr, Bool.and_eq_true] at blank
    exact blank.2
  exact {
    entered := fun draft name filled dotless => ⟨filled, dotless, described draft name⟩
    renamed := fun draft before old => ⟨old.filled, old.dotless, described draft before.name⟩ }

namespace Export

def descriptionAt (tree : SchemaTree) (path : String) : String :=
  (((tree.findPath path).bind tree.get?).map fun field => field.description).getD ""

theorem Origin.description_ofTree (tree : SchemaTree) (path : String) (node : Json) :
    (Origin.ofTree tree path node).description = descriptionAt tree path := by
  unfold ofTree descriptionAt
  cases (tree.findPath path).bind tree.get? <;> rfl

theorem Origin.name_ofTree {tree : SchemaTree} (wellFormed : tree.WellFormed) (path : String) (node : Json) :
    (Origin.ofTree tree path node).name = Path.lastSegment path := by
  unfold ofTree
  split
  · rename_i field sought
    obtain ⟨id, found, stored⟩ := Option.bind_eq_some_iff.mp sought
    obtain ⟨holder, present, rfl⟩ := Option.map_eq_some_iff.mp stored
    obtain ⟨above, split⟩ := (SchemaTree.spells_of_findPath wellFormed found).exists_last present
    exact (Path.lastSegment_of_split split).symm
  · rfl

theorem isBlankText_descriptionAt_iff {tree : SchemaTree} {path : String} :
    isBlankText (descriptionAt tree path) = true ↔
      ∀ field, (tree.findPath path).bind tree.get? = some field → isBlankText field.description = true := by
  have empty : isBlankText "" = true := by decide
  unfold descriptionAt
  cases (tree.findPath path).bind tree.get? <;> simp [empty]

end Export

namespace SchemaTree

variable {tree : SchemaTree}

theorem exists_leaf_of_entry [Pattern.Engine] {path : String} {entry : Entry}
    (stored : tree.toExport.properties.get? path = some entry) :
    ∃ node, (path, node) ∈ tree.document.leafMap.entries ∧
      entry = ((Export.Origin.ofTree tree path node).entry node).1 := by
  have among := SortedMap.mem_of_mem_ofList ((SortedMap.get?_eq_some_iff _).mp stored)
  obtain ⟨item, member, same⟩ := List.mem_map.mp among
  obtain ⟨⟨place, node⟩, leaf, rfl⟩ := List.mem_map.mp member
  cases same
  exact ⟨node, leaf, rfl⟩

theorem entry_description [Pattern.Engine] {path : String} {entry : Entry} (wellFormed : tree.WellFormed)
    (stored : tree.toExport.properties.get? path = some entry) :
    entry.description = descriptionOr (Export.descriptionAt tree path) (Path.lastSegment path) := by
  obtain ⟨node, -, rfl⟩ := exists_leaf_of_entry stored
  rw [Export.Origin.entry, Export.Origin.description_ofTree, Export.Origin.name_ofTree wellFormed]

theorem Dotless.exists_field_of_entry [Pattern.Engine] (dotless : tree.Dotless) (wellFormed : tree.WellFormed)
    {path : String} {entry : Entry} (stored : tree.toExport.properties.get? path = some entry) :
    ∃ id field, tree.get? id = some field ∧ field.name = Path.lastSegment path := by
  obtain ⟨node, leaf, -⟩ := exists_leaf_of_entry stored
  obtain ⟨above, name, printed, prints, same⟩ := Json.exists_join_of_mem_leafMap leaf
  obtain ⟨id, branch, shown, rfl, -⟩ := exists_shows_of_prints wellFormed prints
  have found := get?_of_shows shown
  refine ⟨id, branch.field, found, ?_⟩
  obtain ⟨rfl, -⟩ := Prod.mk.inj same
  exact (Path.lastSegment_join above (dotless id _ found)).symm

/-- However a tree was made by hand, each of its fields has a name, and a field with a blank description has a name of
underscores and blanks. Every entry of its export goes by the name of a field, and its description is blank exactly if
that name is one of underscores and blanks and no field with a description is found at the path. -/
theorem described_entries [Pattern.Engine] {edits : List Edit} (byHand : ∀ edit ∈ edits, edit.isImport = false)
    (made : edits.foldl Edit.apply empty = tree) :
    (∀ id field, tree.get? id = some field → isBlankText field.name = false ∧
      (isBlankText field.description = true → isHollow field.name = true)) ∧
    ∀ path entry, tree.toExport.properties.get? path = some entry →
      (∃ id field, tree.get? id = some field ∧ field.name = Path.lastSegment path) ∧
      (isBlankText entry.description = true ↔ isHollow (Path.lastSegment path) = true ∧
        ∀ field, (tree.findPath path).bind tree.get? = some field → isBlankText field.description = true) := by
  subst made
  have wellFormed := (Reachable.empty.run edits).wellFormed
  have presented := all_iff.mp (all_run_of_empty Attributes.keptByDrafts_presented byHand)
  have dotless : (edits.foldl Edit.apply empty).Dotless := fun id field stored => (presented id field stored).dotless
  refine ⟨fun id field stored => ⟨(presented id field stored).filled, (presented id field stored).described⟩, ?_⟩
  intro path entry stored
  refine ⟨dotless.exists_field_of_entry wellFormed stored, ?_⟩
  rw [entry_description wellFormed stored, isBlankText_descriptionOr, Bool.and_eq_true,
    Export.isBlankText_descriptionAt_iff, and_comm]

/-- A switch whose name is an underscore, and a number that is described by hand and then no more, in an object. -/
def scoreRun : List Edit :=
  let number (description : String) : Attributes := ⟨"maxCount", .number ⟨none, none⟩, description, false, none⟩
  [.add 0 none ⟨"app", .object, "", false, none⟩, .add 0 (some (.ofSerial 0)) ⟨"_", .boolean, "", false, none⟩,
    .add 0 (some (.ofSerial 0)) (number "At most"), .update (.ofSerial 2) (number " "),
    .reorder (some (.ofSerial 0)) 0 1]

def scoreTree : SchemaTree := scoreRun.foldl Edit.apply empty

theorem described_entries_of_scoreTree :
    (∀ edit ∈ scoreRun, edit.isImport = false) ∧ (∀ id field, scoreTree.get? id = some field → field.name ≠ "") ∧
      (∃ entry, scoreTree.toExport.properties.get? "app.maxCount" = some entry ∧ entry.description = "Max Count" ∧
        isBlankText entry.description = false) ∧
      ∃ entry, scoreTree.toExport.properties.get? "app._" = some entry ∧ isBlankText entry.description = true := by
  have byHand : ∀ edit ∈ scoreRun, edit.isImport = false := by decide
  have made : scoreRun.foldl Edit.apply empty = scoreTree := rfl
  obtain ⟨fields, entries⟩ := described_entries byHand made
  obtain ⟨counted, here⟩ : ∃ entry, scoreTree.toExport.properties.get? "app.maxCount" = some entry := ⟨_, rfl⟩
  obtain ⟨scored, there⟩ : ∃ entry, scoreTree.toExport.properties.get? "app._" = some entry := ⟨_, rfl⟩
  refine ⟨byHand, ?_, ⟨counted, here, ?_, ?_⟩, scored, there, (entries _ scored there).2.mpr ⟨by decide, ?_⟩⟩
  · rintro id field stored empty
    have filled := (fields id field stored).1
    rw [empty] at filled
    cases filled
  · cases here
    decide +kernel
  · refine Bool.eq_false_iff.mpr fun blank => ?_
    exact absurd ((entries _ counted here).2.mp blank).1 (by decide)
  · decide +kernel

def underscoreRun : List Edit := [.add 0 none ⟨"_", .boolean, "", false, none⟩]

theorem exported_without_description :
    (∀ edit ∈ underscoreRun, edit.isImport = false) ∧ ∃ entry,
      (underscoreRun.foldl Edit.apply empty).toExport.properties.get? "_" = some entry ∧ entry.description = "" :=
  ⟨by decide, _, rfl, by decide +kernel⟩

end SchemaTree

end ConfigSchema
