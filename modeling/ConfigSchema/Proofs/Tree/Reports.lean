import ConfigSchema.Pattern.Reader
import ConfigSchema.Proofs.Tree.Paths
import ConfigSchema.Proofs.Tree.Traversals
import ConfigSchema.Validation.Report

/-! Reports on configurations, field by field. Main statement: where no name is empty, the report on a configuration is
made of the errors of the single fields in the order of the walk, each told from the value at the path of the field
alone; what stands at the path of a field has no influence on the errors of the fields below it. -/

namespace ConfigSchema

/-- The errors of a field whose value stands at this path. A value that is absent, null or the empty text is an error
only where it is required; all other errors are those of the value for the kind. -/
def Field.errors [Pattern.Engine] (field : Field) (path : String) (value : Option Json) : List String :=
  if value = none ∨ value = some .null ∨ value = some (.string "") then
    if field.required then [path ++ ": Required field is missing"] else []
  else (field.kind.report (value.getD .null)).errors.map fun error => path ++ ": " ++ error

theorem isBlankValue_iff (value : Option Json) :
    isBlankValue value = true ↔ value = none ∨ value = some .null ∨ value = some (.string "") := by
  unfold isBlankValue
  split <;> simp_all

theorem Field.map_message_issues [Pattern.Engine] (field : Field) (path : String) (value : Option Json) :
    (field.issues path value).map Issue.message = field.errors path value := by
  unfold Field.issues Field.errors
  by_cases blank : isBlankValue value = true
  · rw [if_pos blank, if_pos ((isBlankValue_iff value).mp blank)]
    split <;> rfl
  · rw [if_neg blank, if_neg fun given => blank ((isBlankValue_iff value).mpr given)]
    rw [Kind.report, Report.ofViolations, List.map_map, List.map_map]
    rfl

namespace SchemaTree

open Relation

variable {tree : SchemaTree} {ids : List FieldId} {forest : Forest} {values others : List (String × Json)}

/-- No field has the empty name. -/
def AllNamed (tree : SchemaTree) : Prop := ∀ id field, tree.get? id = some field → field.name ≠ ""

theorem Spells.nonempty (named : tree.AllNamed) {id : FieldId} {names : List String} (spelt : tree.Spells id names) :
    ∀ name ∈ names, name ≠ "" :=
  spelt.forall_names fun id node found => named id node.field (get?_of_node found)

theorem WellFormed.exists_below (wellFormed : tree.WellFormed) {id : FieldId} (stored : tree.contains id = true) :
    ∃ before below after, tree.subtree id = id :: below ∧ tree.preorder = before ++ (id :: below) ++ after := by
  obtain ⟨before, after, run⟩ := wellFormed.subtree_run stored
  obtain ⟨forest, shown⟩ : ∃ forest, tree.Shows [id] forest := exists_shows wellFormed (by simpa using stored)
  cases shown with
  | @cons _ node _ below _ found inside beside =>
    cases beside
    have top : tree.subtree id = id :: Branch.forestIds below := by
      rw [(Shows.cons found inside .nil).subtree_eq wellFormed, Branch.forestIds, Branch.ids,
        wellFormed.keyed id node found, Branch.forestIds, List.append_nil]
    exact ⟨before, _, after, top, by rw [← top, run]⟩

section

variable [Pattern.Engine]

def errorsAt (tree : SchemaTree) (values : List (String × Json)) (id : FieldId) : List String :=
  match tree.get? id, tree.path? id with
  | some field, some path => field.errors path (Keyed.find? path values)
  | _, _ => []

theorem errorsAt_of_spells (wellFormed : tree.WellFormed) {id : FieldId} {node : Node} {names : List String}
    (found : tree.node? id = some node) (spelt : tree.Spells id names) :
    tree.errorsAt values id = node.field.errors (Path.dotted names) (Keyed.find? (Path.dotted names) values) := by
  have known : tree.path? id = some (Path.dotted names) := (path?_eq_some_iff wellFormed).mpr ⟨names, spelt, rfl⟩
  rw [errorsAt, get?_of_node found, known]

theorem Shows.forestIssues_eq (wellFormed : tree.WellFormed) (named : tree.AllNamed)
    (values : List (String × Json)) (shown : tree.Shows ids forest) {above : List String}
    (spelt : ∀ id ∈ ids, ∀ name, tree.name? id = some name → tree.Spells id (above ++ [name])) :
    (Branch.forestIssues values (Path.dotted above) forest).map Issue.message =
      (Branch.forestIds forest).flatMap (tree.errorsAt values) := by
  induction shown generalizing above with
  | nil => rfl
  | @cons id node rest below others found inside _ insideIh besideIh =>
    rw [List.forall_mem_cons] at spelt
    have own : tree.Spells id (above ++ [node.field.name]) := spelt.1 _ (name?_of_node found)
    have path : Path.join (Path.dotted above) node.field.name = Path.dotted (above ++ [node.field.name]) := by
      apply Path.join_dotted_of_filled
      intro name member
      exact own.nonempty named name (List.mem_append_left _ member)
    -- the fields below are spelt with the name of this one as well
    have lower : ∀ child ∈ node.children, ∀ name, tree.name? child = some name →
        tree.Spells child (above ++ [node.field.name] ++ [name]) := by
      intro child member name same
      have led : tree.Leads (above ++ [node.field.name]) (some id) := own
      exact led.spells wellFormed (siblings?_of_node found) member same
    rw [Branch.forestIssues, Branch.issues, path, List.map_append, List.map_append, Field.map_message_issues,
      insideIh lower, besideIh spelt.2, Branch.forestIds, Branch.ids, wellFormed.keyed id node found,
      List.flatMap_append, List.flatMap_cons, errorsAt_of_spells wellFormed found own]

theorem errorsAt_congr {id : FieldId}
    (same : ∀ path, tree.path? id = some path → Keyed.find? path values = Keyed.find? path others) :
    tree.errorsAt values id = tree.errorsAt others id := by
  unfold errorsAt
  cases tree.get? id with
  | none => rfl
  | some field =>
    cases known : tree.path? id with
    | none => rfl
    | some path =>
      show field.errors path _ = field.errors path _
      rw [same path known]

namespace WellFormed

variable (wellFormed : tree.WellFormed)

include wellFormed

theorem errors_report (named : tree.AllNamed) (values : List (String × Json)) :
    (tree.report values).errors = tree.preorder.flatMap (tree.errorsAt values) := by
  have spelt : ∀ root ∈ tree.roots, ∀ name, tree.name? root = some name → tree.Spells root ([] ++ [name]) := by
    intro root member name same
    have top : tree.Leads [] none := rfl
    exact top.spells wellFormed rfl member same
  have whole := (shows_forest wellFormed).forestIssues_eq wellFormed named values spelt
  rw [report, wellFormed.preorder_eq]
  exact whole

theorem errorsAt_eq {id : FieldId} (stored : tree.contains id = true) : ∃ field path, tree.get? id = some field ∧
    tree.path? id = some path ∧ ∀ values, tree.errorsAt values id = field.errors path (Keyed.find? path values) := by
  obtain ⟨node, found⟩ := exists_node_of_contains stored
  obtain ⟨path, known⟩ := exists_path wellFormed stored
  refine ⟨node.field, path, get?_of_node found, known, fun values => ?_⟩
  rw [errorsAt, get?_of_node found, known]

theorem errors_below {id : FieldId} {path : String} (known : tree.path? id = some path)
    (same : ∀ other, other ≠ path → Keyed.find? other values = Keyed.find? other others) {below : List FieldId}
    (subtree : tree.subtree id = id :: below) :
    below.flatMap (tree.errorsAt values) = below.flatMap (tree.errorsAt others) := by
  have stored := contains_of_path? wellFormed known
  have single : (id :: below).Nodup := by
    rw [← subtree]
    exact wellFormed.nodup_preorder.sublist (wellFormed.subtree_run stored).sublist
  apply List.flatMap_congr
  intro lower member
  have inside : lower ∈ tree.subtree id := subtree ▸ List.mem_cons_of_mem _ member
  rw [mem_subtree_iff wellFormed stored, reflTransGen_iff_eq_or_transGen] at inside
  rcases inside with rfl | way
  · exact absurd member (List.nodup_cons.mp single).1
  · exact errorsAt_congr fun further longer => same further (path_ne_of_below wellFormed way known longer)

end WellFormed

/-- The report on a configuration is made of the errors of the fields in the order of the walk. Every field has a path,
and its errors are told from the value there: the errors of the fields below it, which follow its own in one run, are
the same whatever stands at its path, and configurations that agree on the paths of the tree have one report. -/
theorem report_by_fields (wellFormed : tree.WellFormed) (named : tree.AllNamed) :
    (∀ values, (tree.report values).errors = tree.preorder.flatMap (tree.errorsAt values)) ∧
    (∀ id, tree.contains id = true → ∃ field path, tree.get? id = some field ∧ tree.path? id = some path ∧
      ∀ values, tree.errorsAt values id = field.errors path (Keyed.find? path values)) ∧
    (∀ id path, tree.path? id = some path → ∃ before below after,
      tree.subtree id = id :: below ∧ tree.preorder = before ++ (id :: below) ++ after ∧
      ∀ values others, (∀ other, other ≠ path → Keyed.find? other values = Keyed.find? other others) →
        below.flatMap (tree.errorsAt values) = below.flatMap (tree.errorsAt others)) ∧
    ∀ values others, (∀ id path, tree.path? id = some path → Keyed.find? path values = Keyed.find? path others) →
      tree.report values = tree.report others := by
  refine ⟨?_, ?_, ?_, ?_⟩
  · exact wellFormed.errors_report named
  · exact fun id stored => wellFormed.errorsAt_eq stored
  · intro id path known
    obtain ⟨before, below, after, top, run⟩ := wellFormed.exists_below (contains_of_path? wellFormed known)
    exact ⟨before, below, after, top, run, fun values others same => wellFormed.errors_below known same top⟩
  · intro values others same
    have errors : (tree.report values).errors = (tree.report others).errors := by
      rw [wellFormed.errors_report named, wellFormed.errors_report named]
      exact List.flatMap_congr fun id _ => errorsAt_congr (same id)
    exact congrArg Report.mk errors

end

def gaugedRun : List Edit :=
  [.add 0 none ⟨"net", .object, "", true, none⟩,
    .add 0 (some (.ofSerial 0)) ⟨"host", .text ⟨some 2, none, none, []⟩, "", true, none⟩,
    .add 0 none ⟨"level", .number ⟨none, some (.integer ⟨10, by decide⟩)⟩, "", false, none⟩]

def gaugedTree : SchemaTree := gaugedRun.foldl Edit.apply empty

/-- Whether the object is missing or no object at all, the text in it is too short, and the number is too large. -/
theorem report_by_fields_of_gaugedTree : gaugedTree.WellFormed ∧ gaugedTree.AllNamed ∧
    (gaugedTree.report [("net.host", .string "a"), ("level", .number (.integer ⟨11, by decide⟩))]).errors =
      ["net: Required field is missing", "net.host: String length 1 is less than minimum 2",
        "level: Number 11 exceeds maximum 10"] ∧
    (gaugedTree.report [("net", .bool true), ("net.host", .string "a"), ("level", .null)]).errors =
      ["net: Expected type object, but got boolean", "net.host: String length 1 is less than minimum 2"] := by
  have wellFormed : gaugedTree.WellFormed := (Reachable.empty.run gaugedRun).wellFormed
  have named : gaugedTree.AllNamed := forall_fields_of_nodes (by decide)
  obtain ⟨errors, _⟩ := report_by_fields wellFormed named
  refine ⟨wellFormed, named, ?_, ?_⟩
  · rw [errors]
    decide +kernel
  · rw [errors]
    decide +kernel

end SchemaTree

end ConfigSchema
