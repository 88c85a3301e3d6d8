import ConfigSchema.Flat.Export
import ConfigSchema.Proofs.Tree.Views

/-! Look-ups of a well-formed tree are look-ups in its forest. Main statement: trees with one forest give one export,
however their tables are ordered and whatever serial number comes next. -/

namespace ConfigSchema.SchemaTree

variable {tree first second : SchemaTree}

namespace Shows

theorem ids_eq (keyed : ∀ id node, tree.node? id = some node → node.field.id = id) {ids : List FieldId}
    {forest : Forest} (shown : tree.Shows ids forest) : ids = forest.map fun branch => branch.field.id := by
  induction shown with
  | nil => rfl
  | @cons id node rest below others found _ _ _ ih => rw [List.map_cons, ← ih, Branch.field, keyed id node found]

end Shows

namespace WellFormed

section

variable (wellFormed : tree.WellFormed)

include wellFormed

theorem get?_eq (id : FieldId) : tree.get? id = (Branch.findIn? id tree.forest).map Branch.field := by
  cases stored : tree.contains id with
  | true =>
    obtain ⟨branch, found, shown⟩ := wellFormed.exists_branch stored
    rw [found]
    cases shown with
    | cons entry _ _ => exact get?_of_node entry
  | false =>
    have absent : id ∉ Branch.forestIds tree.forest := by
      rw [wellFormed.mem_forestIds_forest, stored]
      exact Bool.false_ne_true
    have missing : Branch.findIn? id tree.forest = none := by
      rw [← Option.not_isSome_iff_eq_none, Branch.findIn?_isSome_iff]
      exact absent
    rw [missing, get?, node?_of_missing stored]
    rfl

theorem siblings?_eq (place : Option FieldId) : tree.siblings? place =
    (Branch.listAt? place tree.forest).map (List.map fun branch => branch.field.id) := by
  cases list : tree.siblings? place with
  | some siblings =>
    obtain ⟨below, listed, shown⟩ := wellFormed.exists_listAt list
    rw [listed, Option.map_some, ← shown.ids_eq wellFormed.keyed]
  | none =>
    cases place with
    | none => cases list
    | some above =>
      have unknown : tree.node? above = none := by simpa [siblings?] using list
      have nowhere : (Branch.findIn? above tree.forest).map Branch.field = none := by
        rw [← wellFormed.get?_eq, get?, unknown]
        rfl
      rw [Branch.listAt?, Option.map_eq_none_iff.mp nowhere]
      rfl

end

section

variable (left : first.WellFormed) (right : second.WellFormed) (same : first.forest = second.forest)

include left right same

theorem get?_congr : first.get? = second.get? := by
  funext id
  rw [left.get?_eq, right.get?_eq, same]

theorem findPath_congr : first.findPath = second.findPath := by
  have child : first.findChild = second.findChild := by
    funext place name
    simp only [findChild, name?, left.siblings?_eq, right.siblings?_eq, get?_congr left right same, same]
  have below : ∀ names place, first.findBelow place names = second.findBelow place names := by
    intro names
    induction names with
    | nil => exact fun _ => rfl
    | cons name rest ih =>
      intro place
      rw [findBelow, findBelow, child]
      cases second.findChild place name with
      | none => rfl
      | some id => exact ih (some id)
  funext path
  exact below (Path.segments path) none

/-- A save sends what the forest says. -/
theorem toExport_congr [Pattern.Engine] : first.toExport = second.toExport := by
  have origin : Export.Origin.ofTree first = Export.Origin.ofTree second := by
    funext path node
    rw [Export.Origin.ofTree, Export.Origin.ofTree, findPath_congr left right same, get?_congr left right same]
  have entries : Export.entries first = Export.entries second := by
    rw [Export.entries, Export.entries, document, document, same, origin]
  rw [toExport, toExport, entries]

end

end WellFormed

end ConfigSchema.SchemaTree
