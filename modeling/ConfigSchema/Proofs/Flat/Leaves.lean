import ConfigSchema.Proofs.Flat.Exports
import ConfigSchema.Proofs.Sketch.Listed
import ConfigSchema.Proofs.Tree.Finding
import ConfigSchema.Proofs.Tree.Views
import Mathlib.Data.List.Pairwise

/-! The leaves of a tree: fields with nothing but objects above them that are no objects with fields below. Main
statement: the leaves of the document of a tidy tree are the leaves of the tree, each under its path and as its node
without the description, and no path of a leaf begins the path of another one. -/

namespace ConfigSchema

open Json

namespace Json

def without (word : String) : Json → Json
  | .object members => .object (members.filter fun member => member.1 ≠ word)
  | node => node

/-- The node that names lead to, each of them the name of a property of the node before. -/
def nodeAt? (document : Json) : List String → Option Json
  | [] => some document
  | name :: rest => (Keyed.find? name document.properties).bind fun node => node.nodeAt? rest

end Json

namespace Sketch

theorem filter_kindMembers (sketch : Sketch) (word : String) (remark : word ∈ ["description", "default"]) :
    sketch.kindMembers.filter (fun member => member.1 ≠ word) = sketch.kindMembers := by
  rw [List.filter_eq_self]
  intro member listed
  refine decide_eq_true fun same => sketch.not_mem_keys_kindMembers remark ?_
  exact List.mem_map.mpr ⟨member, listed, same⟩

theorem withoutDescription_node_eq (sketch : Sketch) :
    sketch.node.withoutDescription = sketch.node.without "description" := by
  have said := sketch.filter_kindMembers "description" (by simp)
  have remarks : sketch.attributes.remarks.filter (fun member => member.1 ≠ "description") =
      optionalMember "default" id sketch.attributes.defaultValue := by
    rw [Attributes.remarks]
    cases sketch.attributes.defaultValue <;> split <;> simp [optionalMember]
  rw [withoutDescription_node, node, without, members_eq, List.filter_append, said, remarks]

theorem mem_nodes {sketch : Sketch} {sketches : List Sketch} (member : sketch ∈ sketches) :
    (sketch.name, sketch.node) ∈ nodes sketches := by
  induction sketches with
  | nil => cases member
  | cons first rest ih =>
    rcases List.mem_cons.mp member with rfl | later
    · exact List.mem_cons_self ..
    · exact List.mem_cons_of_mem _ (ih later)

theorem properties_node {sketch : Sketch} (object : sketch.kind = .object)
    (distinct : (sketch.children.map name).Nodup) : sketch.node.properties = nodes sketch.children := by
  have unchanged : Keyed.ofList (nodes sketch.children) = nodes sketch.children :=
    Keyed.ofList_of_nodup (keys_nodes sketch.children ▸ distinct)
  rw [properties, node, get?, find?_properties_members object]
  split
  · rename_i empty
    rw [List.isEmpty_iff] at empty
    rw [empty]
    rfl
  · rw [Option.bind_some, ofMembers, asMembers?, Option.getD_some, unchanged]

theorem nodeAt?_tip {names : List String} {document : Json} {sketches : List Sketch}
    (listed : document.properties = nodes sketches) (navigable : NavigableAll sketches) {above : List String}
    {tip : Sketch} (member : (above ++ names, tip) ∈ tipsOf above sketches) :
    document.nodeAt? names = some tip.node := by
  induction names generalizing document sketches above with
  | nil =>
    obtain ⟨sketch, _, start⟩ := prefix_of_mem_tipsOf _ _ member
    have bound := start.length_le
    simp only [List.append_nil, List.length_append, List.length_singleton] at bound
    omega
  | cons name rest ih =>
    rw [tipsOf_eq_flatMap] at member
    obtain ⟨sketch, beside, inside⟩ := List.mem_flatMap.mp member
    have next : sketch.name = name := by simpa using prefix_of_mem_tips sketch above inside
    have distinct : (Keyed.keys (nodes sketches)).Nodup := keys_nodes sketches ▸ navigable.nodup
    have found : Keyed.find? name document.properties = some sketch.node := by
      rw [listed, ← next]
      exact (Keyed.find?_eq_some_iff distinct).mpr (mem_nodes beside)
    rw [nodeAt?, found, Option.bind_some]
    cases opened : sketch.isOpen with
    | false =>
      rw [tips_of_closed opened, List.mem_singleton, Prod.mk.injEq, List.append_cancel_left_eq] at inside
      obtain ⟨⟨-, rfl⟩, rfl⟩ := List.cons.inj inside.1, inside.2
      rfl
    | true =>
      have below := (navigable.navigable sketch beside).below opened
      rw [tips_of_open opened, next, List.append_cons above name rest] at inside
      exact ih (properties_node (isOpen_iff.mp opened).1 below.nodup) below inside

end Sketch

namespace SchemaTree

variable {tree : SchemaTree} {ids : List FieldId} {forest : Forest} {id : FieldId}

def kind? (tree : SchemaTree) (id : FieldId) : Option Kind := (tree.get? id).map fun field => field.kind

theorem kind?_of_node {node : Node} (found : tree.node? id = some node) : tree.kind? id = some node.field.kind := by
  rw [kind?, get?_of_node found, Option.map_some]

def UnderObjects (tree : SchemaTree) (id : FieldId) : Prop :=
  ∀ above ∈ tree.ancestors id, tree.kind? above = some .object

/-- A stored field under objects that is no object with fields below it. -/
structure IsLeaf (tree : SchemaTree) (id : FieldId) : Prop where
  stored : tree.contains id = true
  under : tree.UnderObjects id
  closed : tree.kind? id = some .object → tree.children id = []

/-- The node that is written for a field. -/
def fieldNode? (tree : SchemaTree) (id : FieldId) : Option Json :=
  (Branch.findIn? id tree.forest).map Branch.node

theorem properties_document (distinct : (tree.sketches.map Sketch.name).Nodup) :
    tree.document.properties = Sketch.nodes tree.sketches := by
  have nodes : Branch.nodes tree.forest = Sketch.nodes tree.sketches := Branch.nodes_eq tree.forest
  have unchanged : Keyed.ofList (Sketch.nodes tree.sketches) = Sketch.nodes tree.sketches :=
    Keyed.ofList_of_nodup (Sketch.keys_nodes tree.sketches ▸ distinct)
  rw [document, Branch.document, properties, Json.get?, nodes]
  simp [Keyed.find?_cons, ofMembers, asMembers?, unchanged]

theorem underObjects_of_root (root : tree.parent? id = none) : tree.UnderObjects id := by
  intro above member
  rw [ancestors_of_root root] at member
  cases member

theorem Shows.sketches_eq_nil_iff (shown : tree.Shows ids forest) : Branch.sketches forest = [] ↔ ids = [] := by
  have same := shown.map_name?
  constructor
  · intro empty
    rw [empty] at same
    exact List.map_eq_nil_iff.mp same
  · rintro rfl
    exact shown.sketches_eq_nil

theorem isLeaf_iff {node : Node} {below : Forest} (found : tree.node? id = some node)
    (inside : tree.Shows node.children below) (under : tree.UnderObjects id) :
    tree.IsLeaf id ↔ (Branch.mk node.field below).sketch.isOpen = false := by
  have object : tree.kind? id = some .object ↔ node.field.kind = .object := by
    rw [kind?_of_node found, Option.some.injEq]
  have empty : Branch.sketches below = [] ↔ tree.children id = [] := by
    rw [children_of_node found, inside.sketches_eq_nil_iff]
  rw [← Bool.not_eq_true, Sketch.isOpen_iff, Branch.kind_sketch, Branch.children_sketch]
  constructor
  · rintro leaf ⟨own, filled⟩
    exact filled (empty.mpr (leaf.closed (object.mpr own)))
  · intro closed
    refine ⟨contains_of_node found, under, fun own => empty.mp ?_⟩
    exact not_not.mp fun filled => closed ⟨object.mp own, filled⟩

namespace WellFormed

variable (wellFormed : tree.WellFormed)

include wellFormed

theorem underObjects_iff_of_mem {child : FieldId} {node : Node} (found : tree.node? id = some node)
    (member : child ∈ node.children) :
    tree.UnderObjects child ↔ node.field.kind = .object ∧ tree.UnderObjects id := by
  have rises := (wellFormed.mem_children_iff found).mp member
  rw [UnderObjects, ancestors_of_rises wellFormed rises, List.forall_mem_cons, kind?_of_node found, Option.some.injEq]
  rfl

theorem not_isLeaf_of_closed {node : Node} {below : Forest} (found : tree.node? id = some node)
    (inside : tree.Shows node.children below) (closed : (Branch.mk node.field below).sketch.isOpen = false)
    {deep : FieldId} (member : deep ∈ Branch.forestIds below) : ¬tree.IsLeaf deep := by
  intro leaf
  obtain ⟨child, listed, way⟩ := (inside.mem_forestIds_iff wellFormed).mp member
  have above : id ∈ tree.ancestors deep :=
    (mem_ancestors_iff wellFormed).mpr (.tail' way ((wellFormed.mem_children_iff found).mp listed))
  have object := leaf.under id above
  rw [kind?_of_node found, Option.some.injEq] at object
  have filled : Branch.sketches below ≠ [] := by
    rw [ne_eq, inside.sketches_eq_nil_iff]
    exact List.ne_nil_of_mem listed
  have opened : (Branch.mk node.field below).sketch.isOpen = true := by
    rw [Sketch.isOpen_iff, Branch.kind_sketch, Branch.children_sketch]
    exact ⟨object, filled⟩
  rw [closed] at opened
  cases opened

/-- The tips of the sketches that ids stand for are the leaves at and below those ids, each under its names. -/
theorem mem_tipsOf_iff (shown : tree.Shows ids forest) {above : List String}
    (led : ∀ id ∈ ids, ∀ node, tree.node? id = some node → tree.Spells id (above ++ [node.field.name]))
    (under : ∀ id ∈ ids, tree.UnderObjects id) {names : List String} {sketch : Sketch} :
    (names, sketch) ∈ Sketch.tipsOf above (Branch.sketches forest) ↔
      ∃ id ∈ Branch.forestIds forest, tree.IsLeaf id ∧ tree.Spells id names ∧
        ∃ branch, tree.Shows [id] [branch] ∧ branch.sketch = sketch := by
  induction shown generalizing above with
  | nil => simp [Branch.sketches, Branch.forestIds, Sketch.tipsOf]
  | @cons head node rest below others found inside beside insideIh besideIh =>
    have here := led head (List.mem_cons_self ..) node found
    have free := under head (List.mem_cons_self ..)
    have single : tree.Shows [head] [.mk node.field below] := .cons found inside .nil
    have further := besideIh (fun other member => led other (List.mem_cons_of_mem _ member))
      fun other member => under other (List.mem_cons_of_mem _ member)
    rw [Branch.sketches, Sketch.tipsOf, Branch.forestIds, Branch.ids, wellFormed.keyed head node found]
    simp only [List.cons_append, List.mem_cons, List.mem_append, or_and_right, exists_or, exists_eq_left,
      isLeaf_iff found inside free]
    rw [← or_assoc]
    refine or_congr ?_ further
    cases opened : (Branch.mk node.field below).sketch.isOpen with
    | false =>
      -- A closed sketch is the only tip, and nothing below its field is a leaf.
      have deeper : ¬∃ id ∈ Branch.forestIds below, tree.IsLeaf id ∧ tree.Spells id names ∧
          ∃ branch, tree.Shows [id] [branch] ∧ branch.sketch = sketch :=
        fun ⟨_, member, leaf, _⟩ => wellFormed.not_isLeaf_of_closed found inside opened member leaf
      rw [Sketch.tips_of_closed opened, List.mem_singleton, Prod.mk.injEq, or_iff_left deeper]
      constructor
      · rintro ⟨rfl, rfl⟩
        exact ⟨rfl, here, _, single, rfl⟩
      · rintro ⟨_, spelt, branch, shown, rfl⟩
        cases shown.unique single
        exact ⟨spelt.unique here, rfl⟩
    | true =>
      -- An open one has the tips below it, and its own field is no leaf.
      have object : node.field.kind = .object := (Branch.kind_sketch _).symm.trans (Sketch.isOpen_iff.mp opened).1
      have lower : ∀ child ∈ node.children, ∀ other, tree.node? child = some other →
          tree.Spells child (above ++ [node.field.name] ++ [other.field.name]) := by
        intro child member other stored
        have rises := (wellFormed.mem_children_iff found).mp member
        exact .child stored ((rises_iff_of_node stored).mp rises) here
      rw [Sketch.tips_of_open opened, or_iff_right fun own => Bool.noConfusion own.1]
      exact insideIh lower fun child member =>
        (wellFormed.underObjects_iff_of_mem found member).mpr ⟨object, free⟩

theorem mem_tips_sketches_iff {names : List String} {sketch : Sketch} :
    (names, sketch) ∈ Sketch.tipsOf [] tree.sketches ↔
      ∃ id, tree.IsLeaf id ∧ tree.Spells id names ∧
        ∃ branch, Branch.findIn? id tree.forest = some branch ∧ branch.sketch = sketch := by
  have root : ∀ id ∈ tree.roots, tree.parent? id = none := fun id member =>
    wellFormed.parent_eq_of_mem rfl member
  have led : ∀ id ∈ tree.roots, ∀ node, tree.node? id = some node →
      tree.Spells id ([] ++ [node.field.name]) :=
    fun id member node found => .root found ((parent?_of_node found).symm.trans (root id member))
  rw [sketches, wellFormed.mem_tipsOf_iff (shows_forest wellFormed) led
    fun id member => underObjects_of_root (root id member)]
  constructor
  · rintro ⟨id, _, leaf, spelt, branch, shown, same⟩
    obtain ⟨other, found, again⟩ := wellFormed.exists_branch leaf.stored
    cases shown.unique again
    exact ⟨id, leaf, spelt, branch, found, same⟩
  · rintro ⟨id, leaf, spelt, branch, found, same⟩
    exact ⟨id, wellFormed.mem_forestIds_forest.mpr leaf.stored, leaf, spelt, branch,
      (shows_forest wellFormed).of_findIn? wellFormed.keyed found, same⟩

end WellFormed

theorem get?_leafMap_iff (wellFormed : tree.WellFormed) (tidy : tree.Tidy) {path : String} {value : Json} :
    tree.document.leafMap.get? path = some value ↔ ∃ id, tree.IsLeaf id ∧ tree.path? id = some path ∧
      ∃ node, tree.fieldNode? id = some node ∧ node.without "description" = value := by
  have navigable := wellFormed.navigable_sketches tidy
  rw [SortedMap.get?_eq_some_iff, (leaves_document navigable).mem_iff, List.mem_map]
  constructor
  · rintro ⟨⟨names, sketch⟩, member, same⟩
    obtain ⟨id, leaf, spelt, branch, found, rfl⟩ := wellFormed.mem_tips_sketches_iff.mp member
    cases same
    refine ⟨id, leaf, (path?_eq_some_iff wellFormed).mpr ⟨names, spelt, rfl⟩, branch.node, ?_, ?_⟩
    · rw [fieldNode?, found, Option.map_some]
    · rw [branch.node_eq, Sketch.withoutDescription_node_eq]
  · rintro ⟨id, leaf, known, node, written, rfl⟩
    obtain ⟨names, spelt, rfl⟩ := (path?_eq_some_iff wellFormed).mp known
    obtain ⟨branch, found, rfl⟩ := Option.map_eq_some_iff.mp written
    have tip := wellFormed.mem_tips_sketches_iff.mpr ⟨id, leaf, spelt, branch, found, rfl⟩
    refine ⟨(names, branch.sketch), tip, ?_⟩
    rw [Sketch.leaf, Sketch.withoutDescription_node_eq, branch.node_eq]

theorem IsLeaf.exists_node (wellFormed : tree.WellFormed) (leaf : tree.IsLeaf id) :
    ∃ node, tree.fieldNode? id = some node := by
  obtain ⟨branch, found, _⟩ := wellFormed.exists_branch leaf.stored
  exact ⟨branch.node, by rw [fieldNode?, found, Option.map_some]⟩

theorem nodeAt?_document (wellFormed : tree.WellFormed) (tidy : tree.Tidy) (leaf : tree.IsLeaf id) {path : String}
    (known : tree.path? id = some path) : tree.document.nodeAt? (Path.segments path) = tree.fieldNode? id := by
  have navigable := wellFormed.navigable_sketches tidy
  obtain ⟨branch, found, _⟩ := wellFormed.exists_branch leaf.stored
  have member := wellFormed.mem_tips_sketches_iff.mpr
    ⟨id, leaf, (tidy.spells_iff wellFormed).mp known, branch, found, rfl⟩
  have listed : ([] ++ Path.segments path, branch.sketch) ∈ Sketch.tipsOf [] tree.sketches := member
  rw [Sketch.nodeAt?_tip (properties_document navigable.nodup) navigable listed, fieldNode?, found, Option.map_some,
    branch.node_eq]

theorem prefix_free_leafMap (wellFormed : tree.WellFormed) (tidy : tree.Tidy) {key longer : String}
    (member : key ∈ tree.document.leafMap.keys) (other : longer ∈ tree.document.leafMap.keys)
    (start : Path.segments key <+: Path.segments longer) : key = longer := by
  have navigable := wellFormed.navigable_sketches tidy
  have tip : ∀ path ∈ tree.document.leafMap.keys,
      ∃ tip ∈ Sketch.tipsOf [] tree.sketches, Path.dotted tip.1 = path := by
    intro path listed
    have keys := (leaves_document navigable).map Prod.fst
    obtain ⟨leaf, held, rfl⟩ := List.mem_map.mp (keys.mem_iff.mp listed)
    obtain ⟨tip, among, rfl⟩ := List.mem_map.mp held
    exact ⟨tip, among, rfl⟩
  obtain ⟨first, here, rfl⟩ := tip key member
  obtain ⟨second, there, rfl⟩ := tip longer other
  rw [segments_tip navigable here, segments_tip navigable there] at start
  have symmetric : Std.Symm fun one another : List String × Sketch => Path.Unrelated one.1 another.1 :=
    ⟨fun _ _ => Path.Unrelated.symm⟩
  by_contra different
  have unrelated := (Sketch.pairwise_tipsOf tree.sketches navigable []).forall here there
    fun same => different (congrArg (fun tip => Path.dotted tip.1) same)
  exact unrelated.1 start

/-- The leaves of the document of a tidy tree are the leaves of the tree, each under its path and as its node in the
document without the description. No two of them share a path, and no path of a leaf begins that of another. -/
theorem leafMap_exact (wellFormed : tree.WellFormed) (tidy : tree.Tidy) :
    (∀ id, tree.IsLeaf id → ∃ path node, tree.path? id = some path ∧ tree.fieldNode? id = some node ∧
      tree.document.nodeAt? (Path.segments path) = some node ∧
      tree.document.leafMap.get? path = some (node.without "description")) ∧
    (∀ key ∈ tree.document.leafMap.keys, ∃! id, tree.IsLeaf id ∧ tree.path? id = some key) ∧
    (∀ key ∈ tree.document.leafMap.keys, ∀ longer ∈ tree.document.leafMap.keys,
      Path.segments key <+: Path.segments longer → key = longer) := by
  refine ⟨?_, ?_, fun key member longer other => prefix_free_leafMap wellFormed tidy member other⟩
  · intro id leaf
    obtain ⟨path, known⟩ := exists_path wellFormed leaf.stored
    obtain ⟨node, written⟩ := leaf.exists_node wellFormed
    refine ⟨path, node, known, written, ?_, ?_⟩
    · rw [nodeAt?_document wellFormed tidy leaf known, written]
    · exact (get?_leafMap_iff wellFormed tidy).mpr ⟨id, leaf, known, node, written, rfl⟩
  · intro key member
    obtain ⟨⟨_, value⟩, listed, rfl⟩ := List.mem_map.mp member
    have stored := (SortedMap.get?_eq_some_iff _).mpr listed
    obtain ⟨id, leaf, known, _⟩ := (get?_leafMap_iff wellFormed tidy).mp stored
    exact ⟨id, ⟨leaf, known⟩, fun other again => tidy.path_inj wellFormed again.2 known⟩

def rackDocument : Json :=
  .object [("properties", .object [("rack", .object [("type", .string "object"), ("properties", .object [
    ("spare", .object [("type", .string "object"), ("description", .string "Unused")]),
    ("hosts", .object [("type", .string "array"), ("items", .object [("type", .string "object"),
      ("properties", .object [("port", .object [("type", .string "number")])])])])])])])]

def rackTree : SchemaTree := (ofDocumentFrom 0 rackDocument).toOption.getD empty

/-- The empty object and the array are the leaves; the object above and the field inside the array are none. -/
theorem leafMap_exact_of_rackTree : rackTree.WellFormed ∧ rackTree.Tidy ∧
    rackTree.document.leafMap.keys = ["rack.hosts", "rack.spare"] ∧
    ∃! id, rackTree.IsLeaf id ∧ rackTree.path? id = some "rack.spare" := by
  have read : ofDocumentFrom 0 rackDocument = .ok rackTree := by rfl
  have wellFormed := (wellFormed_ofDocumentFrom read).1
  have tidy : rackTree.Tidy := tidy_of_nodes (by decide +kernel) (by decide +kernel) (by decide +kernel)
  have keys : rackTree.document.leafMap.keys = ["rack.hosts", "rack.spare"] := by decide +kernel
  obtain ⟨_, owner, _⟩ := leafMap_exact wellFormed tidy
  exact ⟨wellFormed, tidy, keys, owner "rack.spare" (by rw [keys]; decide)⟩

end SchemaTree

end ConfigSchema
