import ConfigSchema.Proofs.Sketch.OfTree
import ConfigSchema.Proofs.Tree.Reachable
import Mathlib.Data.Set.Function

/-! Finding fields by path. Where siblings have different names, the walk down along the names that lead to a field
ends at that field. Main statements: whatever field is found at a path has that path; where names have no dots and
differ among siblings, the field at the path of a field is the field itself, so that paths and fields stand for one
another. -/

namespace ConfigSchema.SchemaTree

variable {tree : SchemaTree} {id : FieldId} {names : List String}

/-- The last name is looked up below the field that the names before it lead to. -/
theorem findBelow_append_singleton (some_name : names ≠ []) (place : Option FieldId) (name : String) :
    tree.findBelow place (names ++ [name]) =
      (tree.findBelow place names).bind fun above => tree.findChild (some above) name := by
  induction names generalizing place with
  | nil => exact absurd rfl some_name
  | cons first rest ih =>
    rw [List.cons_append, findBelow, findBelow]
    cases found : tree.findChild place first with
    | none => rfl
    | some next =>
      cases rest with
      | nil =>
        simp only [List.nil_append, findBelow, Option.bind_some]
        cases tree.findChild (some next) name <;> rfl
      | cons second later => exact ih (by simp) (some next)

theorem Spells.findBelow_eq (wellFormed : tree.WellFormed) (differ : tree.NamesDiffer)
    (spelt : tree.Spells id names) : tree.findBelow none names = some id := by
  induction spelt with
  | @root id node found top =>
    obtain ⟨siblings, list, member⟩ := wellFormed.placed id node found
    rw [top] at list
    have child := findChild_eq list (differ none siblings list) member (name?_of_node found)
    rw [findBelow, child]
    rfl
  | @child id above node names found under higher ih =>
    obtain ⟨siblings, list, member⟩ := wellFormed.placed id node found
    rw [under] at list
    rw [findBelow_append_singleton higher.ne_nil, ih, Option.bind_some]
    exact findChild_eq list (differ (some above) siblings list) member (name?_of_node found)

theorem exists_of_findChild {place : Option FieldId} {name : String} (found : tree.findChild place name = some id) :
    ∃ siblings, tree.siblings? place = some siblings ∧ id ∈ siblings ∧ tree.name? id = some name := by
  obtain ⟨siblings, list, first⟩ := Option.bind_eq_some_iff.mp found
  have named := List.find?_some first
  exact ⟨siblings, list, List.mem_of_find?_eq_some first, by simpa using named⟩

theorem Leads.spells_of_findBelow (wellFormed : tree.WellFormed) {place : Option FieldId} {above : List String}
    (led : tree.Leads above place) (found : tree.findBelow place names = some id) : tree.Spells id (above ++ names) := by
  induction names generalizing place above with
  | nil =>
    obtain rfl : place = some id := found
    rw [List.append_nil]
    exact led
  | cons name rest ih =>
    rw [findBelow] at found
    cases first : tree.findChild place name with
    | none =>
      rw [first] at found
      cases found
    | some next =>
      rw [first] at found
      obtain ⟨siblings, list, member, named⟩ := exists_of_findChild first
      have step : tree.Leads (above ++ [name]) (some next) := led.spells wellFormed list member named
      rw [List.append_cons]
      exact ih step found

theorem spells_of_findPath (wellFormed : tree.WellFormed) {path : String} (found : tree.findPath path = some id) :
    tree.Spells id (Path.segments path) := by
  have top : tree.Leads [] none := rfl
  exact top.spells_of_findBelow wellFormed found

theorem path?_of_findPath (wellFormed : tree.WellFormed) {path : String} (found : tree.findPath path = some id) :
    tree.path? id = some path := by
  rw [path?_eq_some_iff wellFormed]
  exact ⟨Path.segments path, spells_of_findPath wellFormed found, (Path.dotted_segments path).symm⟩

theorem Dotless.findPath_eq (dotless : tree.Dotless) (wellFormed : tree.WellFormed) (differ : tree.NamesDiffer)
    {path : String} (known : tree.path? id = some path) : tree.findPath path = some id :=
  (dotless.spells_segments wellFormed known).findBelow_eq wellFormed differ

theorem dotless_of_nodes (dotless : ∀ entry ∈ tree.nodes, Path.hasDot entry.2.field.name = false) : tree.Dotless :=
  forall_fields_of_nodes dotless

theorem Tidy.dotless (tidy : tree.Tidy) : tree.Dotless := fun id field stored => (tidy.named id field stored).dotless

theorem Tidy.spells_iff (tidy : tree.Tidy) (wellFormed : tree.WellFormed) {path : String} :
    tree.path? id = some path ↔ tree.Spells id (Path.segments path) := by
  constructor
  · exact tidy.dotless.spells_segments wellFormed
  · intro spelt
    rw [path?_eq_some_iff wellFormed]
    exact ⟨_, spelt, (Path.dotted_segments path).symm⟩

theorem Tidy.findPath_eq (tidy : tree.Tidy) (wellFormed : tree.WellFormed) {path : String}
    (known : tree.path? id = some path) : tree.findPath path = some id :=
  tidy.dotless.findPath_eq wellFormed tidy.namesDiffer known

theorem Tidy.path_inj (tidy : tree.Tidy) (wellFormed : tree.WellFormed) {other : FieldId} {path : String}
    (known : tree.path? id = some path) (again : tree.path? other = some path) : id = other :=
  Option.some.inj ((tidy.findPath_eq wellFormed known).symm.trans (tidy.findPath_eq wellFormed again))

theorem Dotless.findPath_bijOn (dotless : tree.Dotless) (wellFormed : tree.WellFormed) (differ : tree.NamesDiffer) :
    Set.BijOn tree.findPath {path | ∃ id, tree.path? id = some path}
      {found | ∃ id, tree.contains id = true ∧ found = some id} := by
  refine ⟨?_, ?_, ?_⟩
  · rintro path ⟨id, known⟩
    exact ⟨id, contains_of_path? wellFormed known, dotless.findPath_eq wellFormed differ known⟩
  · rintro path ⟨id, known⟩ other ⟨_, _⟩ same
    have found := dotless.findPath_eq wellFormed differ known
    have again := path?_of_findPath wellFormed (same.symm.trans found)
    exact Option.some.inj (known.symm.trans again)
  · rintro found ⟨id, stored, rfl⟩
    obtain ⟨path, known⟩ := exists_path wellFormed stored
    exact ⟨path, ⟨id, known⟩, dotless.findPath_eq wellFormed differ known⟩

/-- A field that is found at a path has the path, in every reachable tree and for every text. Where no name has a dot
and siblings have different names, every stored field has a path and is found there, so that paths and fields stand for
one another. -/
theorem paths_and_fields (reachable : tree.Reachable) :
    (∀ path id, tree.findPath path = some id → tree.path? id = some path) ∧
    (tree.Dotless → tree.NamesDiffer →
      (∀ id, tree.contains id = true → ∃ path, tree.path? id = some path ∧ tree.findPath path = some id) ∧
      (∀ path id, tree.findPath path = some id ↔ tree.path? id = some path) ∧
      Set.BijOn tree.findPath {path | ∃ id, tree.path? id = some path}
        {found | ∃ id, tree.contains id = true ∧ found = some id}) := by
  have wellFormed := reachable.wellFormed
  refine ⟨fun path id => path?_of_findPath wellFormed, fun dotless differ => ⟨?_, ?_, ?_⟩⟩
  · intro id stored
    obtain ⟨path, known⟩ := exists_path wellFormed stored
    exact ⟨path, known, dotless.findPath_eq wellFormed differ known⟩
  · intro path id
    constructor
    · exact path?_of_findPath wellFormed
    · exact dotless.findPath_eq wellFormed differ
  · exact dotless.findPath_bijOn wellFormed differ

def namelessDocument : Json :=
  let inner : Json := .object [("", .object [("type", .string "boolean")])]
  .object [("properties", .object [("", .object [("type", .string "object"), ("properties", inner)])])]

def namelessTree : SchemaTree := (ofDocumentFrom 0 namelessDocument).toOption.getD empty

theorem paths_and_fields_of_namelessTree : namelessTree.Reachable ∧ namelessTree.Dotless ∧ namelessTree.NamesDiffer ∧
    namelessTree.path? (.ofSerial 0) = some "" ∧ namelessTree.findPath "" = some (.ofSerial 0) ∧
    namelessTree.path? (.ofSerial 1) = some "." ∧ namelessTree.findPath "." = some (.ofSerial 1) := by
  have reachable : namelessTree.Reachable :=
    .document (show ofDocumentFrom 0 namelessDocument = .ok namelessTree from rfl)
  have dotless : namelessTree.Dotless := dotless_of_nodes (by decide)
  have differ : namelessTree.NamesDiffer := namesDiffer_of_nodes (by decide) (by decide)
  obtain ⟨found, exact_paths⟩ := paths_and_fields reachable
  obtain ⟨_, same, _⟩ := exact_paths dotless differ
  have outer : namelessTree.path? (.ofSerial 0) = some "" := by decide
  have inner : namelessTree.findPath "." = some (.ofSerial 1) := by decide
  exact ⟨reachable, dotless, differ, outer, (same _ _).mpr outer, found _ _ inner, inner⟩

end ConfigSchema.SchemaTree
