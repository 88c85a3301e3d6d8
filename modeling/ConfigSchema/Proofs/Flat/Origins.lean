import ConfigSchema.Pattern.Reader
import ConfigSchema.Proofs.Flat.Defaults
import ConfigSchema.Proofs.Flat.Leaves

/-! Where the parts of an export come from. The nodes of entries are taken from the document, descriptions and default
values from the tree, and the two meet in the paths. Main statement: both speak of the field that has the path, and
there is one warning for each field whose first choice of a default value is refused. -/

namespace ConfigSchema

open Json

def Json.saying (node : Json) (word : String) (value : Json) : Json :=
  match node with
  | .object members => .object (members.filter (fun member => member.1 ≠ word) ++ [(word, value)])
  | other => other

namespace Field

def firstChoice (field : Field) : Json :=
  (field.defaultValue.filter fun value => !value.isNull).getD field.kind.defaultValue

/-- What is said of a field whose first choice the kind does not accept. -/
def warning? [Pattern.Engine] (field : Field) : Option String :=
  let report := field.kind.report field.firstChoice
  if report.isValid then none
  else some ("Field \"" ++ field.name ++ "\": " ++ ", ".intercalate report.errors)

end Field

namespace Sketch

variable [Pattern.Engine]

theorem entry_schema_eq (sketch : Sketch) : sketch.entry.schema =
    (sketch.node.without "description").saying "default" sketch.entry.defaultValue := by
  have said := sketch.filter_kindMembers "default" (by simp)
  have preset : (optionalMember "default" id sketch.attributes.defaultValue).filter
      (fun member => member.1 ≠ "default") = [] := by
    cases sketch.attributes.defaultValue <;> simp [optionalMember]
  rw [← withoutDescription_node_eq, withoutDescription_node, saying, List.filter_append, said, preset,
    List.append_nil, entry_schema]

theorem entry_defaultValue_eq (sketch : Sketch) : sketch.entry.defaultValue =
    (sketch.attributes.defaultValue.filter fun value =>
      !value.isNull && (sketch.kind.report value).isValid).getD sketch.kind.defaultValue := by
  have own : sketch.attributes.kind = sketch.kind := rfl
  rw [entry_defaultValue, Attributes.wanted, Attributes.origin, own]
  cases sketch.attributes.defaultValue with
  | none => simp
  | some value =>
    cases empty : value.isNull <;> cases valid : (sketch.kind.report value).isValid <;>
      simp [Option.filter, empty, valid]

end Sketch

namespace SchemaTree

variable {tree : SchemaTree}

theorem exists_leaf_of_tip (wellFormed : tree.WellFormed) {tip : List String × Sketch}
    (member : tip ∈ Sketch.tipsOf [] tree.sketches) :
    ∃ field, tree.IsLeaf field.id ∧ tree.get? field.id = some field ∧
      tree.path? field.id = some (Path.dotted tip.1) ∧ tree.fieldNode? field.id = some tip.2.node ∧
      tip.2.attributes = field.attributes := by
  obtain ⟨id, leaf, spelt, branch, found, same⟩ := wellFormed.mem_tips_sketches_iff.mp member
  have shown := (shows_forest wellFormed).of_findIn? wellFormed.keyed found
  cases shown with
  | @cons _ node _ below _ stored inside _ =>
    obtain rfl := wellFormed.keyed id node stored
    refine ⟨node.field, leaf, get?_of_node stored, (path?_eq_some_iff wellFormed).mpr ⟨tip.1, spelt, rfl⟩, ?_, ?_⟩
    · rw [fieldNode?, found, Option.map_some, Branch.node_eq, same]
    · rw [← same]
      rfl

section

variable [Pattern.Engine]

/-- Every part of the entry at a path comes from this field, whose path it is, and from the node of the field. -/
structure Describes (tree : SchemaTree) (path : String) (entry : Entry) (field : Field) (node : Json) : Prop where
  stored : tree.get? field.id = some field
  known : tree.path? field.id = some path
  found : tree.findPath path = some field.id
  written : tree.fieldNode? field.id = some node
  printed : tree.document.nodeAt? (Path.segments path) = some node
  description : entry.description =
    if Text.isBlankText field.description then describe field.name else field.description
  defaultValue : entry.defaultValue = (field.defaultValue.filter fun value =>
    !value.isNull && (field.kind.report value).isValid).getD field.kind.defaultValue
  schema : entry.schema = (node.without "description").saying "default" entry.defaultValue

theorem describes_tip (wellFormed : tree.WellFormed) (tidy : tree.Tidy) {tip : List String × Sketch}
    (member : tip ∈ Sketch.tipsOf [] tree.sketches) :
    ∃ field, tree.Describes (Path.dotted tip.1) tip.2.entry field tip.2.node ∧ tip.2.exported.2 = field.warning? := by
  obtain ⟨field, leaf, stored, known, written, same⟩ := exists_leaf_of_tip wellFormed member
  have kind : tip.2.kind = field.kind := congrArg Attributes.kind same
  have name : tip.2.name = field.name := congrArg Attributes.name same
  have preset : tip.2.attributes.defaultValue = field.defaultValue := congrArg Attributes.defaultValue same
  have description : tip.2.attributes.description = field.description := congrArg Attributes.description same
  have wanted : tip.2.attributes.wanted = field.firstChoice := by
    rw [same]
    rfl
  refine ⟨field, ⟨stored, known, tidy.findPath_eq wellFormed known, written, ?_, ?_, ?_, ?_⟩, ?_⟩
  · rw [nodeAt?_document wellFormed tidy leaf known, written]
  · rw [Sketch.entry_description, description, name, descriptionOr]
  · rw [Sketch.entry_defaultValue_eq, preset, kind]
  · exact tip.2.entry_schema_eq
  · rw [Sketch.exported_warning, wanted, kind, name]
    rfl

theorem keys_toExport (tree : SchemaTree) : tree.toExport.properties.keys = tree.document.leafMap.keys := by
  have keys : Keyed.keys ((Export.entries tree).map fun item => (item.1, item.2.1)) =
      tree.document.leafMap.keys := by
    rw [Export.entries, Keyed.keys, List.map_map, List.map_map]
    rfl
  apply SortedMap.keys_eq_of_perm
  rw [← keys]
  refine (SortedMap.ofList_perm ?_).map Prod.fst
  rw [keys]
  exact tree.document.leafMap.keys_nodup

theorem warnings_toExport_eq (wellFormed : tree.WellFormed) (tidy : tree.Tidy) :
    tree.toExport.warnings = tree.toExport.properties.keys.filterMap fun path =>
      ((tree.findPath path).bind tree.get?).bind Field.warning? := by
  have navigable := wellFormed.navigable_sketches tidy
  rw [keys_toExport, SortedMap.keys, Keyed.keys, List.filterMap_map, toExport, Export.entries, List.filterMap_map]
  apply List.filterMap_congr
  intro leaf listed
  obtain ⟨tip, member, rfl⟩ := List.mem_map.mp ((leaves_document navigable).mem_iff.mp listed)
  obtain ⟨field, described, warning⟩ := describes_tip wellFormed tidy member
  have origin := origin_tip wellFormed navigable member tip.2.node.withoutDescription
  simp only [Function.comp_apply, Sketch.leaf, described.found, Option.bind_some, described.stored, ← warning, origin]
  rfl

/-- Every entry of an export comes from the one field that has its path; and in the order of the paths there is one
warning for each of these fields whose first choice of a default value its kind does not accept. -/
theorem export_from_fields (wellFormed : tree.WellFormed) (tidy : tree.Tidy) :
    (∀ path entry, tree.toExport.properties.get? path = some entry →
      ∃ field node, tree.Describes path entry field node ∧
        ∀ other, tree.path? other = some path → other = field.id) ∧
    tree.toExport.properties.keys.Pairwise (· < ·) ∧
    tree.toExport.warnings = tree.toExport.properties.keys.filterMap fun path =>
      ((tree.findPath path).bind tree.get?).bind Field.warning? := by
  have navigable := wellFormed.navigable_sketches tidy
  refine ⟨?_, tree.toExport.properties.keys_sorted, warnings_toExport_eq wellFormed tidy⟩
  intro path entry stored
  rw [SortedMap.get?_eq_some_iff, (entries_toExport wellFormed navigable).mem_iff] at stored
  obtain ⟨tip, member, same⟩ := List.mem_map.mp stored
  cases same
  obtain ⟨field, described, _⟩ := describes_tip wellFormed tidy member
  exact ⟨field, _, described, fun other again => tidy.path_inj wellFormed again described.known⟩

end

def zoneDocument : Json :=
  .object [("properties", .object [
    ("zone", .object [("type", .string "string"), ("minLength", .ofLength 2), ("default", .string "x")]),
    ("area", .object [("type", .string "string"), ("minLength", .ofLength 2), ("description", .string "Where")])])]

def zoneTree : SchemaTree := (ofDocumentFrom 0 zoneDocument).toOption.getD empty

theorem export_from_fields_of_zoneTree : zoneTree.WellFormed ∧ zoneTree.Tidy ∧
    zoneTree.toExport.warnings = ["Field \"area\": String length 0 is less than minimum 2",
      "Field \"zone\": String length 1 is less than minimum 2"] ∧
    ∃ entry field node, zoneTree.toExport.properties.get? "zone" = some entry ∧
      zoneTree.Describes "zone" entry field node ∧ entry.defaultValue = .string "" ∧ entry.description = "Zone" := by
  have read : ofDocumentFrom 0 zoneDocument = .ok zoneTree := by rfl
  have wellFormed := (wellFormed_ofDocumentFrom read).1
  have tidy : zoneTree.Tidy := tidy_of_nodes (by decide +kernel) (by decide +kernel) (by decide +kernel)
  obtain ⟨entries, _, warnings⟩ := export_from_fields wellFormed tidy
  obtain ⟨entry, stored⟩ : ∃ entry, zoneTree.toExport.properties.get? "zone" = some entry := ⟨_, rfl⟩
  obtain ⟨field, node, described, _⟩ := entries "zone" entry stored
  refine ⟨wellFormed, tidy, ?_, entry, field, node, stored, described, ?_, ?_⟩
  · rw [warnings]
    decide +kernel
  · cases stored
    rfl
  · cases stored
    rfl

end SchemaTree

end ConfigSchema
