import ConfigSchema.Flat.Export
import ConfigSchema.Proofs.Dotted
import ConfigSchema.Proofs.Sketch.Printing

/-! Tips of sketches. An object field with fields below it is open, for it shows in flat maps through these alone;
the fields under open ones that are not open themselves are the tips. The tips are the leaves of the document. -/

namespace ConfigSchema

open Json

namespace Sketch

def isOpen (sketch : Sketch) : Bool := sketch.kind = .object && !sketch.children.isEmpty

theorem isOpen_iff {sketch : Sketch} : sketch.isOpen = true ↔ sketch.kind = .object ∧ sketch.children ≠ [] := by
  simp [isOpen]

mutual
def tips (above : List String) : Sketch → List (List String × Sketch)
  | mk attributes children =>
    if (mk attributes children).isOpen then tipsOf (above ++ [attributes.name]) children
    else [(above ++ [attributes.name], mk attributes children)]

def tipsOf (above : List String) : List Sketch → List (List String × Sketch)
  | [] => []
  | sketch :: rest => sketch.tips above ++ tipsOf above rest
end

mutual
/-- Sketches side by side have different names, all of them fit for paths, down to the tips. -/
def Navigable : Sketch → Prop
  | mk attributes children =>
    Path.IsName attributes.name ∧ ((mk attributes children).isOpen = true → NavigableAll children)

def NavigableAll : List Sketch → Prop
  | [] => True
  | sketch :: rest => sketch.name ∉ rest.map name ∧ sketch.Navigable ∧ NavigableAll rest
end

theorem NavigableAll.nodup {sketches : List Sketch} (navigable : NavigableAll sketches) :
    (sketches.map name).Nodup := by
  induction sketches with
  | nil => exact List.nodup_nil
  | cons sketch rest ih => exact List.nodup_cons.mpr ⟨navigable.1, ih navigable.2.2⟩

theorem NavigableAll.navigable {sketches : List Sketch} (navigable : NavigableAll sketches) :
    ∀ sketch ∈ sketches, sketch.Navigable := by
  induction sketches with
  | nil => simp
  | cons sketch rest ih => exact List.forall_mem_cons.mpr ⟨navigable.2.1, ih navigable.2.2⟩

theorem Navigable.below {sketch : Sketch} (navigable : sketch.Navigable) (opened : sketch.isOpen = true) :
    NavigableAll sketch.children := by
  cases sketch
  exact navigable.2 opened

theorem tips_of_open {sketch : Sketch} (opened : sketch.isOpen = true) (above : List String) :
    sketch.tips above = tipsOf (above ++ [sketch.name]) sketch.children := by
  cases sketch
  rw [tips, if_pos opened]
  rfl

theorem tips_of_closed {sketch : Sketch} (closed : sketch.isOpen = false) (above : List String) :
    sketch.tips above = [(above ++ [sketch.name], sketch)] := by
  cases sketch
  rw [tips, if_neg (by simp [closed])]
  rfl

theorem tipsOf_eq_flatMap (above : List String) (sketches : List Sketch) :
    tipsOf above sketches = sketches.flatMap (tips above) := by
  induction sketches with
  | nil => rfl
  | cons sketch rest ih => rw [tipsOf, ih, List.flatMap_cons]

theorem tipsOf_append (above : List String) (first second : List Sketch) :
    tipsOf above (first ++ second) = tipsOf above first ++ tipsOf above second := by
  rw [tipsOf_eq_flatMap, tipsOf_eq_flatMap, tipsOf_eq_flatMap, List.flatMap_append]

mutual
theorem exists_tip (above : List String) : (sketch : Sketch) → ∃ tip, tip ∈ sketch.tips above
  | mk attributes children => by
    cases opened : (mk attributes children).isOpen with
    | false => exact ⟨_, by rw [tips_of_closed opened]; exact List.mem_singleton_self _⟩
    | true =>
      rw [tips_of_open opened]
      exact exists_tipOf _ children (isOpen_iff.mp opened).2

theorem exists_tipOf (above : List String) :
    (sketches : List Sketch) → sketches ≠ [] → ∃ tip, tip ∈ tipsOf above sketches
  | [], some_sketch => absurd rfl some_sketch
  | sketch :: rest, _ => by
    obtain ⟨tip, member⟩ := exists_tip above sketch
    exact ⟨tip, List.mem_append_left _ member⟩
end

mutual
/-- The names that lead to a tip of a sketch begin with those above and its own. -/
theorem prefix_of_mem_tips {tip : List String × Sketch} : (sketch : Sketch) → ∀ above : List String,
    tip ∈ sketch.tips above → above ++ [sketch.name] <+: tip.1
  | mk attributes children, above, member => by
    cases opened : (mk attributes children).isOpen with
    | false =>
      rw [tips_of_closed opened, List.mem_singleton] at member
      obtain rfl := member
      exact List.prefix_rfl
    | true =>
      rw [tips_of_open opened] at member
      obtain ⟨sketch, _, start⟩ := prefix_of_mem_tipsOf children _ member
      exact (List.prefix_append _ _).trans start

theorem prefix_of_mem_tipsOf {tip : List String × Sketch} : (sketches : List Sketch) → ∀ above : List String,
    tip ∈ tipsOf above sketches → ∃ sketch ∈ sketches, above ++ [sketch.name] <+: tip.1
  | sketch :: rest, above, member => by
    rcases List.mem_append.mp member with first | later
    · exact ⟨sketch, List.mem_cons_self .., prefix_of_mem_tips sketch above first⟩
    · obtain ⟨other, listed, start⟩ := prefix_of_mem_tipsOf rest above later
      exact ⟨other, List.mem_cons_of_mem _ listed, start⟩
end

mutual
/-- No tip lies on the way to another. -/
theorem pairwise_tips : (sketch : Sketch) → sketch.Navigable → ∀ above : List String,
    (sketch.tips above).Pairwise fun first second => Path.Unrelated first.1 second.1
  | mk attributes children, navigable, above => by
    cases opened : (mk attributes children).isOpen with
    | false =>
      rw [tips_of_closed opened]
      exact List.pairwise_singleton ..
    | true =>
      rw [tips_of_open opened]
      exact pairwise_tipsOf children (navigable.2 opened) _

theorem pairwise_tipsOf : (sketches : List Sketch) → NavigableAll sketches → ∀ above : List String,
    (tipsOf above sketches).Pairwise fun first second => Path.Unrelated first.1 second.1
  | [], _, _ => .nil
  | sketch :: rest, navigable, above => by
    rw [tipsOf, List.pairwise_append]
    refine ⟨pairwise_tips sketch navigable.2.1 above, pairwise_tipsOf rest navigable.2.2 above, ?_⟩
    intro tip here other there
    obtain ⟨beside, listed, start⟩ := prefix_of_mem_tipsOf rest above there
    refine Path.unrelated_of_fork (fun same => navigable.1 ?_) (prefix_of_mem_tips sketch above here) start
    exact same ▸ List.mem_map_of_mem listed
end

mutual
theorem named_of_mem_tips {tip : List String × Sketch} : (sketch : Sketch) → sketch.Navigable →
    ∀ above : List String, (∀ name ∈ above, Path.IsName name) → tip ∈ sketch.tips above →
      ∀ name ∈ tip.1, Path.IsName name
  | mk attributes children, navigable, above, named, member => by
    have further : ∀ name ∈ above ++ [attributes.name], Path.IsName name :=
      List.forall_mem_append.mpr ⟨named, List.forall_mem_singleton.mpr navigable.1⟩
    cases opened : (mk attributes children).isOpen with
    | false =>
      rw [tips_of_closed opened, List.mem_singleton] at member
      rw [member]
      exact further
    | true =>
      rw [tips_of_open opened] at member
      exact named_of_mem_tipsOf children (navigable.2 opened) _ further member

theorem named_of_mem_tipsOf {tip : List String × Sketch} : (sketches : List Sketch) → NavigableAll sketches →
    ∀ above : List String, (∀ name ∈ above, Path.IsName name) → tip ∈ tipsOf above sketches →
      ∀ name ∈ tip.1, Path.IsName name
  | sketch :: rest, navigable, above, named, member => by
    rcases List.mem_append.mp member with first | later
    · exact named_of_mem_tips sketch navigable.2.1 above named first
    · exact named_of_mem_tipsOf rest navigable.2.2 above named later
end

theorem ne_nil_of_mem_tipsOf {sketches : List Sketch} {above : List String} {tip : List String × Sketch}
    (member : tip ∈ tipsOf above sketches) : tip.1 ≠ [] := by
  obtain ⟨sketch, _, start⟩ := prefix_of_mem_tipsOf sketches above member
  rintro empty
  rw [empty, List.prefix_nil] at start
  simp at start

theorem nodup_paths_tipsOf {sketches : List Sketch} (navigable : NavigableAll sketches) :
    ((tipsOf [] sketches).map fun tip => Path.dotted tip.1).Nodup := by
  refine List.pairwise_map.mpr ((pairwise_tipsOf sketches navigable []).imp_of_mem ?_)
  intro first second here there unrelated same
  have named : ∀ tip ∈ tipsOf [] sketches, ∀ name ∈ tip.1, Path.IsName name :=
    fun tip member => named_of_mem_tipsOf sketches navigable [] (by simp) member
  exact unrelated.ne (Path.dotted_inj (ne_nil_of_mem_tipsOf here) (ne_nil_of_mem_tipsOf there)
    (named first here) (named second there) same)

/-- Whatever is written for the tips, it can be kept under their paths. -/
theorem nodup_keys_tipsOf {α : Type} {sketches : List Sketch} (navigable : NavigableAll sketches)
    (write : Sketch → α) :
    (Keyed.keys ((tipsOf [] sketches).map fun tip => (Path.dotted tip.1, write tip.2))).Nodup := by
  rw [Keyed.keys, List.map_map]
  exact nodup_paths_tipsOf navigable

mutual
theorem every_of_mem_tips {property : Sketch → Prop} {tip : List String × Sketch} :
    (sketch : Sketch) → ∀ above : List String, sketch.Every property → tip ∈ sketch.tips above → tip.2.Every property
  | mk attributes children, above, every, member => by
    cases opened : (mk attributes children).isOpen with
    | false =>
      rw [tips_of_closed opened, List.mem_singleton] at member
      rw [member]
      exact every
    | true =>
      rw [tips_of_open opened] at member
      exact every_of_mem_tipsOf children _ every.below member

theorem every_of_mem_tipsOf {property : Sketch → Prop} {tip : List String × Sketch} :
    (sketches : List Sketch) → ∀ above : List String, (∀ sketch ∈ sketches, sketch.Every property) →
      tip ∈ tipsOf above sketches → tip.2.Every property
  | sketch :: rest, above, every, member => by
    rw [List.forall_mem_cons] at every
    rcases List.mem_append.mp member with first | later
    · exact every_of_mem_tips sketch above every.1 first
    · exact every_of_mem_tipsOf rest above every.2 later
end

mutual
theorem closed_of_mem_tips {tip : List String × Sketch} : (sketch : Sketch) → ∀ above : List String,
    tip ∈ sketch.tips above → tip.2.isOpen = false ∧ ∃ names, tip.1 = names ++ [tip.2.name]
  | mk attributes children, above, member => by
    cases opened : (mk attributes children).isOpen with
    | false =>
      rw [tips_of_closed opened, List.mem_singleton] at member
      rw [member]
      exact ⟨opened, above, rfl⟩
    | true =>
      rw [tips_of_open opened] at member
      exact closed_of_mem_tipsOf children _ member

/-- Tips are closed, and the last of the names that lead to a tip is its own. -/
theorem closed_of_mem_tipsOf {tip : List String × Sketch} : (sketches : List Sketch) → ∀ above : List String,
    tip ∈ tipsOf above sketches → tip.2.isOpen = false ∧ ∃ names, tip.1 = names ++ [tip.2.name]
  | sketch :: rest, above, member => by
    rcases List.mem_append.mp member with first | later
    · exact closed_of_mem_tips sketch above first
    · exact closed_of_mem_tipsOf rest above later
end

end Sketch

theorem Json.leavesOfContainer?_eq (path : String) (members : List (String × Json)) :
    leavesOfContainer? path members = match Keyed.find? "properties" members with
      | some (.object properties) => some (leavesOfProperties path properties)
      | _ => none := by
  induction members with
  | nil => rfl
  | cons member rest ih =>
    obtain ⟨name, value⟩ := member
    rw [Keyed.find?_cons]
    by_cases named : name = "properties"
    · rw [if_pos named]
      cases value <;> simp [leavesOfContainer?, named]
    · rw [if_neg named, ← ih]
      cases value <;> simp [leavesOfContainer?, named]

namespace Sketch

def leaf (tip : List String × Sketch) : String × Json := (Path.dotted tip.1, tip.2.node.withoutDescription)

theorem saysObject_members (sketch : Sketch) : saysObject sketch.members = decide (sketch.kind = .object) := by
  rw [saysObject, sketch.members_said.type]
  cases sketch.kind <;> simp [Kind.type, TypeName.text]

theorem find?_properties_members {sketch : Sketch} (object : sketch.kind = .object) :
    Keyed.find? "properties" sketch.members =
      if sketch.children.isEmpty then none else some (ofMembers (nodes sketch.children)) := by
  rw [sketch.members_said.keyword "properties" (by decide), object, Kind.keywords, nodes_isEmpty]
  split
  · rfl
  · rename_i filled
    rw [Kind.find?_containerMembers_properties, nodes_isEmpty, if_neg filled]

mutual
theorem leaves_node : (sketch : Sketch) → sketch.Navigable → ∀ above : List String,
    (∀ name ∈ above, Path.IsName name) →
      leaves (Path.dotted (above ++ [sketch.name])) sketch.node = (sketch.tips above).map leaf
  | mk attributes children, navigable, above, named => by
    rw [node, leaves, saysObject_members, leavesOfContainer?_eq]
    cases opened : (mk attributes children).isOpen with
    | false =>
      rw [tips_of_closed opened]
      by_cases object : (mk attributes children).kind = .object
      · have empty : children.isEmpty = true := by simpa [isOpen, object] using opened
        rw [find?_properties_members object, children_mk, empty]
        simp [leaf, node]
      · rw [decide_eq_false object]
        rfl
    | true =>
      obtain ⟨object, filled⟩ := isOpen_iff.mp opened
      have inside := navigable.2 opened
      have unchanged : Keyed.ofList (nodes children) = nodes children :=
        Keyed.ofList_of_nodup (keys_nodes children ▸ inside.nodup)
      rw [find?_properties_members object, List.isEmpty_eq_false_iff.mpr filled, tips_of_open opened]
      simp only [object, decide_true, if_true, Bool.false_eq_true, if_false, ofMembers, children_mk, unchanged,
        Option.getD_some]
      apply leavesOfProperties_nodes children inside _
      intro name member
      rcases List.mem_append.mp member with early | own
      · exact named name early
      · exact List.mem_singleton.mp own ▸ navigable.1

theorem leavesOfProperties_nodes : (sketches : List Sketch) → NavigableAll sketches → ∀ above : List String,
    (∀ name ∈ above, Path.IsName name) →
      leavesOfProperties (Path.dotted above) (nodes sketches) = (tipsOf above sketches).map leaf
  | [], _, _, _ => rfl
  | sketch :: rest, navigable, above, named => by
    rw [nodes, leavesOfProperties, Path.join_dotted named, tipsOf, List.map_append,
      leavesOfProperties_nodes rest navigable.2.2 above named]
    congr 1
    exact leaves_node sketch navigable.2.1 above named
end

end Sketch

theorem SchemaTree.leafMap_document {tree : SchemaTree} (navigable : Sketch.NavigableAll tree.sketches) :
    tree.document.leafMap = .ofList ((Sketch.tipsOf [] tree.sketches).map Sketch.leaf) := by
  have nodes : Branch.nodes tree.forest = Sketch.nodes tree.sketches := Branch.nodes_eq tree.forest
  have unchanged : Keyed.ofList (Sketch.nodes tree.sketches) = Sketch.nodes tree.sketches :=
    Keyed.ofList_of_nodup (Sketch.keys_nodes tree.sketches ▸ navigable.nodup)
  have leaves := Sketch.leavesOfProperties_nodes tree.sketches navigable [] (by simp)
  rw [document, Branch.document, leafMap, leavesOfContainer?_eq, nodes]
  simp only [List.cons_append, Keyed.find?_cons, String.reduceEq, if_false, if_true, ofMembers, unchanged,
    Option.getD_some]
  exact congrArg SortedMap.ofList leaves

end ConfigSchema
