import ConfigSchema.Pattern.Reader
import ConfigSchema.Proofs.Tree.Printed

/-! The order of siblings. A document lists fields in their order and a flat map by their paths, so what is exported
depends on the order of siblings only where these are part of one entry. Main statement: a reordering of the roots, or
of the fields of an object that has nothing but objects above it, leaves the export as it is, warnings included. -/

namespace ConfigSchema.SchemaTree

open Relation

variable {tree other : SchemaTree} {id : FieldId}

structure SameLeaves (tree other : SchemaTree) : Prop where
  isLeaf : ∀ id, other.IsLeaf id ↔ tree.IsLeaf id
  path : ∀ id, other.path? id = tree.path? id
  field : ∀ id, other.get? id = tree.get? id
  written : ∀ id, tree.IsLeaf id → other.fieldNode? id = tree.fieldNode? id

namespace SameLeaves

section

variable (same : tree.SameLeaves other) (left : tree.WellFormed) (right : other.WellFormed)
  (tidy : tree.Tidy) (also : other.Tidy)

include same left right tidy also

theorem leafMap_eq : other.document.leafMap = tree.document.leafMap := by
  refine SortedMap.eq_of_get? fun path => Option.ext fun value => ?_
  rw [get?_leafMap_iff right also, get?_leafMap_iff left tidy]
  refine exists_congr fun id => ?_
  rw [same.isLeaf, same.path]
  exact and_congr_right fun leaf => by rw [same.written id leaf]

/-- The field that is found at the path of a leaf is the same. -/
theorem origin_eq {leaf : String × Json} (listed : leaf ∈ tree.document.leafMap.entries) :
    Export.Origin.ofTree other leaf.1 leaf.2 = Export.Origin.ofTree tree leaf.1 leaf.2 := by
  obtain ⟨id, _, known, _⟩ :=
    (get?_leafMap_iff left tidy).mp ((SortedMap.get?_eq_some_iff _).mpr listed)
  have again : other.path? id = some leaf.1 := (same.path id).trans known
  rw [Export.Origin.ofTree, Export.Origin.ofTree, tidy.findPath_eq left known, also.findPath_eq right again,
    Option.bind_some, Option.bind_some, same.field]

theorem toExport_eq [Pattern.Engine] : other.toExport = tree.toExport := by
  have entries : Export.entries other = Export.entries tree := by
    rw [Export.entries, Export.entries, same.leafMap_eq left right tidy also]
    refine List.map_congr_left fun leaf listed => ?_
    rw [same.origin_eq left right tidy also listed]
  rw [toExport, toExport, entries]

end

end SameLeaves

def IsTransparent (tree : SchemaTree) (id : FieldId) : Prop :=
  tree.kind? id = some .object ∧ tree.UnderObjects id

structure Shuffled (tree other : SchemaTree) : Prop where
  arranged : tree.Rearranged other
  field : ∀ id, other.get? id = tree.get? id
  below : ∀ id, ¬tree.IsTransparent id → other.children id = tree.children id

namespace Shuffled

theorem kind? (shuffled : tree.Shuffled other) (id : FieldId) : other.kind? id = tree.kind? id := by
  rw [SchemaTree.kind?, SchemaTree.kind?, shuffled.field]

theorem name? (shuffled : tree.Shuffled other) : other.name? = tree.name? := by
  funext id
  rw [SchemaTree.name?, SchemaTree.name?, shuffled.field]

theorem ancestors (shuffled : tree.Shuffled other) (id : FieldId) : other.ancestors id = tree.ancestors id := by
  have size : other.size = tree.size := by
    have lengths := congrArg List.length shuffled.arranged.keys
    simpa [Keyed.keys, SchemaTree.size] using lengths
  have within : ∀ steps id, other.ancestorsWithin steps id = tree.ancestorsWithin steps id := by
    intro steps
    induction steps with
    | zero => exact fun _ => rfl
    | succ steps ih =>
      intro id
      rw [ancestorsWithin, ancestorsWithin, shuffled.arranged.parent?]
      cases tree.parent? id with
      | none => rfl
      | some above => exact congrArg (above :: ·) (ih above)
  rw [SchemaTree.ancestors, SchemaTree.ancestors, size, within]

theorem path? (shuffled : tree.Shuffled other) (id : FieldId) : other.path? id = tree.path? id := by
  rw [SchemaTree.path?, SchemaTree.path?, shuffled.ancestors, shuffled.name?]

theorem underObjects_iff (shuffled : tree.Shuffled other) (id : FieldId) :
    other.UnderObjects id ↔ tree.UnderObjects id := by
  simp only [UnderObjects, shuffled.ancestors, shuffled.kind?]

theorem children_eq_nil_iff (shuffled : tree.Shuffled other) (id : FieldId) :
    other.children id = [] ↔ tree.children id = [] := by
  cases stored : tree.contains id with
  | false =>
    have missing : other.contains id = false := (shuffled.arranged.contains id).trans stored
    rw [children_of_missing stored, children_of_missing missing]
  | true =>
    obtain ⟨before, found⟩ := exists_node_of_contains stored
    obtain ⟨after, present⟩ := shuffled.arranged.node_after found
    have perm := (shuffled.arranged.node id before after found present).2.2.1
    rw [children_of_node found, children_of_node present]
    exact ⟨fun empty => List.nil_perm.mp (empty ▸ perm), fun empty => List.perm_nil.mp (empty ▸ perm)⟩

theorem isLeaf_iff (shuffled : tree.Shuffled other) (id : FieldId) : other.IsLeaf id ↔ tree.IsLeaf id := by
  have stored := shuffled.arranged.contains id
  have kind := shuffled.kind? id
  have under := shuffled.underObjects_iff id
  have empty := shuffled.children_eq_nil_iff id
  constructor
  · exact fun leaf => ⟨stored ▸ leaf.stored, under.mp leaf.under,
      fun object => empty.mp (leaf.closed (kind.trans object))⟩
  · exact fun leaf => ⟨stored.trans leaf.stored, under.mpr leaf.under,
      fun object => empty.mpr (leaf.closed (kind.symm.trans object))⟩

theorem tidy (shuffled : tree.Shuffled other) (tidy : tree.Tidy) : other.Tidy where
  named := fun id field found => tidy.named id field ((shuffled.field id).symm.trans found)
  distinct := by
    intro parent siblings list
    obtain ⟨before, held, perm⟩ := shuffled.arranged.siblings_before list
    rw [shuffled.name?]
    exact (perm.map _).nodup_iff.mpr (tidy.distinct parent before held)

theorem keeps (shuffled : tree.Shuffled other) (same : other.children id = tree.children id) :
    tree.Keeps other id := by
  intro node found
  obtain ⟨after, present⟩ := shuffled.arranged.node_after found
  refine ⟨after, present, ?_, ?_⟩
  · have field := shuffled.field id
    rw [get?_of_node present, get?_of_node found] at field
    exact Option.some.inj field
  · rwa [children_of_node present, children_of_node found] at same

/-- A leaf has no transparent object at it that has fields, and none below it, so nothing in its branch is shuffled. -/
theorem fieldNode?_of_leaf (shuffled : tree.Shuffled other) (wellFormed : tree.WellFormed) (leaf : tree.IsLeaf id) :
    other.fieldNode? id = tree.fieldNode? id := by
  obtain ⟨branch, _, shown⟩ := wellFormed.exists_branch leaf.stored
  have unmoved : ∀ deep ∈ Branch.forestIds [branch], tree.Keeps other deep := by
    intro deep member
    obtain ⟨top, single, way⟩ := (shown.mem_forestIds_iff wellFormed).mp member
    cases List.mem_singleton.mp single
    refine shuffled.keeps ?_
    by_cases transparent : tree.IsTransparent deep
    · rcases reflTransGen_iff_eq_or_transGen.mp way with rfl | above
      · have empty := leaf.closed transparent.1
        rw [empty, (shuffled.children_eq_nil_iff _).mpr empty]
      · -- the leaf would be an object above `deep`, and such an object is no leaf
        have object := transparent.2 id ((mem_ancestors_iff wellFormed).mpr above)
        obtain ⟨next, _, rises⟩ := TransGen.tail'_iff.mp above
        obtain ⟨node, found⟩ := exists_node_of_contains leaf.stored
        have listed := (wellFormed.mem_children_iff found).mpr rises
        rw [← children_of_node found, leaf.closed object] at listed
        cases listed
    · exact shuffled.below deep transparent
  have also := shown.transfer wellFormed.keyed unmoved
  rw [fieldNode?_of_shows wellFormed shown, fieldNode?_of_shows (shuffled.arranged.wellFormed wellFormed) also]

theorem sameLeaves (shuffled : tree.Shuffled other) (wellFormed : tree.WellFormed) : tree.SameLeaves other where
  isLeaf := shuffled.isLeaf_iff
  path := shuffled.path?
  field := shuffled.field
  written := fun _ leaf => shuffled.fieldNode?_of_leaf wellFormed leaf

theorem toExport_eq [Pattern.Engine] (shuffled : tree.Shuffled other) (wellFormed : tree.WellFormed) (tidy : tree.Tidy) :
    other.toExport = tree.toExport :=
  (shuffled.sameLeaves wellFormed).toExport_eq wellFormed (shuffled.arranged.wellFormed wellFormed) tidy
    (shuffled.tidy tidy)

end Shuffled

theorem children_relist (change : List FieldId → List FieldId) {place : Option FieldId} (elsewhere : place ≠ some id) :
    (tree.relist change place).children id = tree.children id := by
  rw [children, node?_relist, Option.map_map, children]
  simp only [if_neg elsewhere]
  rfl

theorem shuffled_of_reorder {parent : Option FieldId} {source target : Nat} {reordered : SchemaTree}
    (done : tree.reorder parent source target = .ok reordered)
    (transparent : ∀ above, parent = some above → tree.IsTransparent above) : tree.Shuffled reordered := by
  have arranged := rearranged_of_reorder done
  obtain ⟨_, _, _, _, rfl⟩ := reorder_eq_ok done
  refine ⟨arranged, get?_relist _ parent, fun id closed => children_relist _ fun here => ?_⟩
  exact closed (transparent id here)

/-- The export does not tell in which order siblings stand, among the roots and in every object that has nothing but
objects above it: a reordering gives the same entries, and the same warnings in the same order. -/
theorem export_without_order [Pattern.Engine] (wellFormed : tree.WellFormed) (tidy : tree.Tidy) {parent : Option FieldId}
    {source target : Nat} {reordered : SchemaTree} (done : tree.reorder parent source target = .ok reordered)
    (transparent : ∀ above, parent = some above → tree.kind? above = some .object ∧
      ∀ higher ∈ tree.ancestors above, tree.kind? higher = some .object) :
    reordered.toExport.properties = tree.toExport.properties ∧ reordered.toExport.warnings = tree.toExport.warnings := by
  rw [(shuffled_of_reorder done transparent).toExport_eq wellFormed tidy]
  exact ⟨rfl, rfl⟩

/-- An object in an object, with two texts that are too short where they are not made up, the later name first and
required. -/
def depotDocument : Json :=
  let short (remarks : List (String × Json)) : Json :=
    .object ([("type", .string "string"), ("minLength", .ofLength 2)] ++ remarks)
  let inner : Json := .object [("type", .string "object"), ("required", .ofStrings ["zone"]),
    ("properties", .object [("zone", short [("default", .string "x")]), ("area", short [])])]
  .object [("properties", .object [("site", .object [("type", .string "object"),
    ("properties", .object [("hall", inner)])])])]

def depotTree : SchemaTree := (ofDocumentFrom 0 depotDocument).toOption.getD empty

theorem export_without_order_of_depotTree : depotTree.WellFormed ∧ depotTree.Tidy ∧
    ∃ reordered, depotTree.reorder (some (.ofSerial 1)) 0 1 = .ok reordered ∧
      depotTree.kind? (.ofSerial 1) = some .object ∧ depotTree.ancestors (.ofSerial 1) = [.ofSerial 0] ∧
      reordered.document ≠ depotTree.document ∧ reordered.toExport.properties = depotTree.toExport.properties ∧
      reordered.toExport.warnings = ["Field \"area\": String length 0 is less than minimum 2",
        "Field \"zone\": String length 1 is less than minimum 2"] := by
  have wellFormed := (wellFormed_ofDocumentFrom (show ofDocumentFrom 0 depotDocument = .ok depotTree from rfl)).1
  have tidy : depotTree.Tidy := tidy_of_nodes (by decide +kernel) (by decide +kernel) (by decide +kernel)
  obtain ⟨reordered, done⟩ : ∃ reordered, depotTree.reorder (some (.ofSerial 1)) 0 1 = .ok reordered := ⟨_, rfl⟩
  obtain ⟨properties, warnings⟩ := export_without_order wellFormed tidy done fun above same => by
    cases same
    decide +kernel
  refine ⟨wellFormed, tidy, reordered, done, by decide +kernel, by decide +kernel, ?_, properties, ?_⟩
  · cases done
    decide +kernel
  · rw [warnings]
    decide +kernel

end ConfigSchema.SchemaTree
