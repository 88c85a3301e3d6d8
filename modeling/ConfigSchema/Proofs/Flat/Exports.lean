import ConfigSchema.Flat.Export
import ConfigSchema.Proofs.Field.Kinds
import ConfigSchema.Proofs.Sketch.OfTree
import ConfigSchema.Proofs.Sketch.Reading

/-! Exports of trees. The flat map of a well-formed tree has one entry for each tip of its sketches, made from that
tip alone, and an entry is read as the tip with its description and default value made up. -/

namespace ConfigSchema

open Json

theorem Entry.ext {first second : Entry} (description : first.description = second.description)
    (defaultValue : first.defaultValue = second.defaultValue) (schema : first.schema = second.schema) :
    first = second := by
  cases first
  cases second
  simp_all

def Attributes.origin (attributes : Attributes) : Export.Origin where
  name := attributes.name
  kind := some attributes.kind
  description := attributes.description
  defaultValue := attributes.defaultValue.filter fun value => !value.isNull

def Attributes.wanted (attributes : Attributes) : Json :=
  attributes.origin.defaultValue.getD attributes.kind.defaultValue

theorem Kind.defaultValue_isNull (kind : Kind) : kind.defaultValue.isNull = false := by
  cases kind <;> rfl

theorem Attributes.wanted_of_some {attributes : Attributes} {value : Json}
    (given : attributes.defaultValue = some value) (some_value : value.isNull = false) : attributes.wanted = value := by
  simp [wanted, origin, given, Option.filter, some_value]

theorem defaultOr_isNull (value : Option Json) (kind : Kind) : (defaultOr value kind).isNull = false := by
  unfold defaultOr
  split
  · exact kind.defaultValue_isNull
  · rename_i filled
    rcases value with _ | _ | _ | _ | _ | _ | _ <;> simp_all [isBlankValue, isNull]

theorem defaultOr_defaultValue (kind : Kind) : defaultOr (some kind.defaultValue) kind = kind.defaultValue := by
  simp [defaultOr]

theorem Kind.SaidBy.againstNode [Pattern.Engine] {kind : Kind} {properties members : List (String × Json)}
    {required : List String} (said : kind.SaidBy properties required members) (value : Json) :
    Report.againstNode value (.object members) = kind.report value := by
  rw [Report.againstNode, said.ofNode, get?, said.type, ← kind.report_settled]
  cases value <;> rfl

namespace Sketch

theorem withoutDescription_node (sketch : Sketch) : sketch.node.withoutDescription =
    .object (sketch.kindMembers ++ optionalMember "default" id sketch.attributes.defaultValue) := by
  rw [node, withoutDescription, members_eq, Keyed.swapErase_append (sketch.not_mem_keys_kindMembers (by simp)),
    Attributes.remarks]
  cases sketch.attributes.defaultValue <;> split <;> simp [optionalMember, Keyed.swapErase]

theorem leaf_said (sketch : Sketch) : sketch.kind.SaidBy (nodes sketch.children) (required sketch.children)
    (sketch.kindMembers ++ optionalMember "default" id sketch.attributes.defaultValue) := by
  apply sketch.kindMembers_said
  cases sketch.attributes.defaultValue <;> simp [optionalMember, Keyed.keys]

theorem ofNode_leaf (sketch : Sketch) (path : String) :
    Kind.ofNode sketch.node.withoutDescription path = .ok sketch.kind.settled := by
  rw [withoutDescription_node]
  exact sketch.leaf_said.ofNode path

variable [Pattern.Engine]

/-- The entry for a tip, with a warning if its default value had to be replaced. -/
def exported (sketch : Sketch) : Entry × Option String :=
  sketch.attributes.origin.entry sketch.node.withoutDescription

def entry (sketch : Sketch) : Entry := sketch.exported.1

def tipEntry (tip : List String × Sketch) : String × Entry := (Path.dotted tip.1, tip.2.entry)

theorem entry_schema (sketch : Sketch) :
    sketch.entry.schema = .object (sketch.kindMembers ++ [("default", sketch.entry.defaultValue)]) := by
  have schema : sketch.entry.schema =
      Export.withDefault sketch.node.withoutDescription sketch.entry.defaultValue := rfl
  rw [schema, withoutDescription_node, Export.withDefault,
    Keyed.put_append _ (sketch.not_mem_keys_kindMembers (by simp))]
  cases sketch.attributes.defaultValue <;> rfl

theorem entry_description (sketch : Sketch) :
    sketch.entry.description = descriptionOr sketch.attributes.description sketch.name := rfl

theorem entry_said (sketch : Sketch) : sketch.kind.SaidBy (nodes sketch.children) (required sketch.children)
    (sketch.kindMembers ++ [("default", sketch.entry.defaultValue)]) :=
  sketch.kindMembers_said (by simp [Keyed.keys])

theorem ofNode_entry_schema (sketch : Sketch) (path : String) :
    Kind.ofNode sketch.entry.schema path = .ok sketch.kind.settled := by
  rw [entry_schema]
  exact sketch.entry_said.ofNode path

theorem againstNode_entry (sketch : Sketch) (value : Json) :
    Report.againstNode value sketch.entry.schema = sketch.kind.report value := by
  rw [entry_schema]
  exact sketch.entry_said.againstNode value

theorem againstNode_leaf (sketch : Sketch) (value : Json) :
    Report.againstNode value sketch.node.withoutDescription = sketch.kind.report value := by
  rw [withoutDescription_node]
  exact sketch.leaf_said.againstNode value

/-- A default value that the kind does not accept is replaced by that of the kind. -/
theorem entry_defaultValue (sketch : Sketch) : sketch.entry.defaultValue =
    if (sketch.kind.report sketch.attributes.wanted).isValid then sketch.attributes.wanted
    else sketch.kind.defaultValue := by
  rw [← sketch.againstNode_leaf]
  rfl

def reloaded (sketch : Sketch) : Sketch :=
  .mk { name := sketch.name
        kind := sketch.kind.settled
        description := descriptionOr sketch.attributes.description sketch.name
        required := false
        defaultValue := some (defaultOr (some sketch.entry.defaultValue) sketch.kind.settled) }
    (rereads true sketch.children)

theorem isOpen_reloaded (sketch : Sketch) : sketch.reloaded.isOpen = sketch.isOpen := by
  have children : (rereads true sketch.children).isEmpty = sketch.children.isEmpty := by
    rw [rereads_eq_map, List.isEmpty_map]
  rw [reloaded, isOpen, isOpen, children_mk, children, kind_mk]
  simp only [Kind.settled_eq_object_iff]

end Sketch

/-- A description counts as given unless it is blank. -/
theorem descriptionOr_given (description name : String) :
    descriptionOr ((((some description).filter fun text => !Text.isBlankText text).or none).getD "") name =
      descriptionOr description name := by
  cases blank : Text.isBlankText description with
  | false => simp [Option.filter, blank]
  | true =>
    have empty : Text.isBlankText "" = true := by decide
    simp [Option.filter, descriptionOr, blank, empty]

theorem Option.filter_or_self {α : Type} (keep : α → Bool) (value : Option α) :
    (value.filter keep).or value = value := by
  cases value with
  | none => rfl
  | some value => cases kept : keep value <;> simp [Option.filter, kept]

namespace Sketch

theorem attributesOf_entry {name description : String} {value node : Json} {kind : Kind}
    (silent : node.get? "description" = none) (preset : node.get? "default" = some value) :
    attributesOf true name ⟨false, some description, some value⟩ kind node =
      { name, kind, description := descriptionOr description name, required := false
        defaultValue := some (defaultOr (some value) kind) } := by
  have given := descriptionOr_given description name
  rw [attributesOf, silent, preset, Option.filter_or_self]
  simp only [if_true, Option.bind_none, given]

variable [Pattern.Engine]

theorem ofNode_entry {sketch : Sketch} (sound : sketch.Sound) (distinct : sketch.Distinct) (path : String) :
    ofNode true path sketch.name ⟨false, some sketch.entry.description, some sketch.entry.defaultValue⟩
      sketch.entry.schema = .ok sketch.reloaded := by
  have preset : Keyed.keys [("default", sketch.entry.defaultValue)] ⊆ ["description", "default"] := by
    simp [Keyed.keys]
  have inside : ofProperties true path (required sketch.children) (nodes sketch.children) =
      .ok (rereads true sketch.children) :=
    ofProperties_nodes sketch.children sound.below distinct.below distinct.here path _
      fun sketch member => contains_required distinct.here member
  have below := ofNodeBelow_said sound distinct (sketch.kindMembers_said preset) inside
  have attributes : attributesOf true sketch.name
      ⟨false, some sketch.entry.description, some sketch.entry.defaultValue⟩ sketch.kind.settled
        sketch.entry.schema = sketch.reloaded.attributes := by
    rw [attributesOf_entry, entry_description, descriptionOr_descriptionOr]
    · rfl
    · rw [entry_schema, get?, sketch.find?_remark (by simp)]
      rfl
    · rw [entry_schema, get?, sketch.find?_remark (by simp)]
      rfl
  rw [← entry_schema] at below
  rw [ofNode, ofNode_entry_schema, Except.ok_bind, below, Except.ok_bind, attributes]
  rfl

theorem reloaded_children {sketch : Sketch} (filled : sketch.Every fun sketch => sketch.attributes.Filled) :
    sketch.reloaded.children = sketch.children := by
  rw [reloaded, children_mk, rereads_filled sketch.children filled.below]

theorem reloaded_kind {sketch : Sketch} (filled : sketch.Every fun sketch => sketch.attributes.Filled) :
    sketch.reloaded.kind = sketch.kind := by
  have settled : sketch.kind.settled = sketch.kind := congrArg Attributes.kind filled.here
  exact settled

theorem reloaded_defaultValue {sketch : Sketch} (filled : sketch.Every fun sketch => sketch.attributes.Filled) :
    sketch.reloaded.entry.defaultValue = sketch.entry.defaultValue := by
  have settled : sketch.kind.settled = sketch.kind := congrArg Attributes.kind filled.here
  have preset : some (defaultOr sketch.attributes.defaultValue sketch.kind.settled) =
      sketch.attributes.defaultValue := congrArg Attributes.defaultValue filled.here
  have wanted : sketch.attributes.wanted = defaultOr sketch.attributes.defaultValue sketch.kind := by
    rw [settled] at preset
    exact Attributes.wanted_of_some preset.symm (defaultOr_isNull _ _)
  have again : sketch.reloaded.attributes.wanted = defaultOr (some sketch.entry.defaultValue) sketch.kind := by
    refine Attributes.wanted_of_some ?_ (defaultOr_isNull _ _)
    rw [← settled]
    rfl
  rw [entry_defaultValue, again, reloaded_kind filled]
  have value := sketch.entry_defaultValue
  rw [wanted] at value
  rw [value]
  split
  · rename_i accepted
    rw [defaultOr_defaultOr, if_pos accepted]
  · rw [defaultOr_defaultValue, ite_self]

/-- The entry for a filled tip is the entry for what is read from it. -/
theorem entry_reloaded {sketch : Sketch} (filled : sketch.Every fun sketch => sketch.attributes.Filled) :
    sketch.reloaded.entry = sketch.entry := by
  have description : sketch.reloaded.entry.description = sketch.entry.description :=
    descriptionOr_descriptionOr sketch.attributes.description sketch.name
  have members : sketch.reloaded.kindMembers = sketch.kindMembers := by
    rw [kindMembers, kindMembers, reloaded_kind filled, reloaded_children filled]
  have schema : sketch.reloaded.entry.schema = sketch.entry.schema := by
    rw [entry_schema, entry_schema, members, reloaded_defaultValue filled]
  exact Entry.ext description (reloaded_defaultValue filled) schema

end Sketch

namespace SchemaTree

variable {tree : SchemaTree}

theorem segments_tip (navigable : Sketch.NavigableAll tree.sketches) {tip : List String × Sketch}
    (member : tip ∈ Sketch.tipsOf [] tree.sketches) : Path.segments (Path.dotted tip.1) = tip.1 := by
  have named := Sketch.named_of_mem_tipsOf tree.sketches navigable [] (by simp) member
  exact Path.segments_named (Sketch.ne_nil_of_mem_tipsOf member) named

theorem lastSegment_tip (navigable : Sketch.NavigableAll tree.sketches) {tip : List String × Sketch}
    (member : tip ∈ Sketch.tipsOf [] tree.sketches) : Path.lastSegment (Path.dotted tip.1) = tip.2.name := by
  obtain ⟨_, names, ends⟩ := Sketch.closed_of_mem_tipsOf _ _ member
  have named := Sketch.named_of_mem_tipsOf tree.sketches navigable [] (by simp) member
  rw [ends, List.forall_mem_append] at named
  rw [ends]
  exact Path.lastSegment_dotted named.1 _ (named.2 _ (List.mem_singleton_self _))

theorem findPath_tip (wellFormed : tree.WellFormed) (navigable : Sketch.NavigableAll tree.sketches)
    {tip : List String × Sketch} (member : tip ∈ Sketch.tipsOf [] tree.sketches) :
    ∃ field, (tree.findPath (Path.dotted tip.1)).bind tree.get? = some field ∧ field.attributes = tip.2.attributes := by
  have segments := segments_tip navigable member
  obtain ⟨names, sketch⟩ := tip
  have listed : ([] ++ names, sketch) ∈ Sketch.tipsOf [] tree.sketches := member
  have roots : tree.siblings? none = some tree.roots := rfl
  obtain ⟨id, node, led, found, same⟩ := (shows_forest wellFormed).findBelow_tip roots navigable listed
  have path : tree.findPath (Path.dotted names) = some id := by
    rw [findPath, segments]
    exact led
  exact ⟨node.field, by rw [path, Option.bind_some, get?_of_node found], same⟩

theorem origin_tip (wellFormed : tree.WellFormed) (navigable : Sketch.NavigableAll tree.sketches)
    {tip : List String × Sketch} (member : tip ∈ Sketch.tipsOf [] tree.sketches) (node : Json) :
    Export.Origin.ofTree tree (Path.dotted tip.1) node = tip.2.attributes.origin := by
  obtain ⟨field, found, same⟩ := findPath_tip wellFormed navigable member
  rw [Export.Origin.ofTree, found, ← same]
  rfl

theorem leaves_document (navigable : Sketch.NavigableAll tree.sketches) :
    tree.document.leafMap.entries.Perm ((Sketch.tipsOf [] tree.sketches).map Sketch.leaf) := by
  rw [leafMap_document navigable]
  exact SortedMap.ofList_perm (Sketch.nodup_keys_tipsOf navigable fun tip => tip.node.withoutDescription)

variable [Pattern.Engine]

/-- A tree is exported as the entries of its tips. -/
theorem toExport_properties (wellFormed : tree.WellFormed) (navigable : Sketch.NavigableAll tree.sketches) :
    tree.toExport.properties = .ofList ((Sketch.tipsOf [] tree.sketches).map Sketch.tipEntry) := by
  have entries := (leaves_document navigable).map
    fun leaf => (leaf.1, ((Export.Origin.ofTree tree leaf.1 leaf.2).entry leaf.2).1)
  have made : ((Sketch.tipsOf [] tree.sketches).map Sketch.leaf).map
      (fun leaf => (leaf.1, ((Export.Origin.ofTree tree leaf.1 leaf.2).entry leaf.2).1)) =
        (Sketch.tipsOf [] tree.sketches).map Sketch.tipEntry := by
    rw [List.map_map]
    apply List.map_congr_left
    intro tip member
    rw [Function.comp_apply, Sketch.leaf, origin_tip wellFormed navigable member]
    rfl
  rw [made] at entries
  rw [toExport, Export.entries, List.map_map]
  exact (SortedMap.ofList_eq_of_perm (Sketch.nodup_keys_tipsOf navigable Sketch.entry) entries.symm).symm

theorem entries_toExport (wellFormed : tree.WellFormed) (navigable : Sketch.NavigableAll tree.sketches) :
    tree.toExport.properties.entries.Perm ((Sketch.tipsOf [] tree.sketches).map Sketch.tipEntry) := by
  rw [toExport_properties wellFormed navigable]
  exact SortedMap.ofList_perm (Sketch.nodup_keys_tipsOf navigable Sketch.entry)

end SchemaTree

end ConfigSchema
