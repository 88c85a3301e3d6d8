import ConfigSchema.Pattern.Reader
import ConfigSchema.Proofs.Flat.Leaves
import ConfigSchema.Proofs.Tree.Grammar

/-! The nodes that a document prints. Each property of a document, at any depth, is the node of a field with its name,
and each leaf is such a node without its description. Main statement: a value is judged against these nodes just as
against the kinds of their fields. -/

namespace ConfigSchema

open Json

namespace Json

/-- The properties of a document, and the properties that these open. -/
inductive Prints (document : Json) : String → Json → Prop
  | own {name : String} {node : Json} (member : (name, node) ∈ document.properties) : Prints document name node
  | inside {name other : String} {node inner : Json} (above : Prints document name node)
      (member : (other, inner) ∈ node.opened) : Prints document other inner

theorem mem_opened_iff {node : Json} {property : String × Json} :
    property ∈ node.opened ↔ ∃ container, node.container? = some container ∧ property ∈ container.properties := by
  unfold opened
  cases node.container? <;> simp

theorem sizeOf_lt_of_mem_opened {node inner : Json} {name : String} (member : (name, inner) ∈ node.opened) :
    sizeOf inner < sizeOf node := by
  obtain ⟨container, opens, inside⟩ := mem_opened_iff.mp member
  exact Nat.lt_of_lt_of_le (sizeOf_lt_of_mem inside) (sizeOf_container_le opens)

theorem properties_of_find? {members properties : List (String × Json)}
    (said : Keyed.find? "properties" members = some (.object properties)) :
    (object members).properties = properties := by
  rw [Json.properties, get?, said]
  rfl

theorem opened_of_saysObject {members : List (String × Json)} (said : saysObject members = true) :
    (object members).opened = (object members).properties := by
  have object : (object members).get? "type" = some (.string "object") := beq_iff_eq.mp said
  rw [opened, container?, if_pos object]
  rfl

theorem exists_of_mem_leavesOfProperties {path : String} {properties : List (String × Json)} {leaf : String × Json}
    (member : leaf ∈ leavesOfProperties path properties) :
    ∃ property ∈ properties, leaf ∈ leaves (Path.join path property.1) property.2 := by
  induction properties with
  | nil => cases member
  | cons property rest ih =>
    rcases List.mem_append.mp member with first | later
    · exact ⟨property, List.mem_cons_self .., first⟩
    · obtain ⟨other, listed, inside⟩ := ih later
      exact ⟨other, List.mem_cons_of_mem _ listed, inside⟩

theorem mem_leaves {path : String} {node : Json} {leaf : String × Json} (member : leaf ∈ leaves path node) :
    leaf = (path, node.withoutDescription) ∨
      ∃ property ∈ node.opened, leaf ∈ leaves (Path.join path property.1) property.2 := by
  cases node with
  | object members =>
    simp only [leaves] at member
    split at member
    · rename_i said
      rw [leavesOfContainer?_eq] at member
      split at member
      · rename_i properties listed
        rw [opened_of_saysObject said, properties_of_find? listed]
        exact .inr (exists_of_mem_leavesOfProperties member)
      · exact .inl (List.mem_singleton.mp member)
    · exact .inl (List.mem_singleton.mp member)
  | _ => exact .inl (List.mem_singleton.mp member)

theorem Prints.of_mem_leaves {document node : Json} {above name : String} {leaf : String × Json}
    (printed : document.Prints name node) (member : leaf ∈ leaves (Path.join above name) node) :
    ∃ above name node, document.Prints name node ∧ leaf = (Path.join above name, node.withoutDescription) := by
  induction size : sizeOf node using Nat.strongRecOn generalizing node name above with
  | ind bound ih =>
    subst size
    rcases mem_leaves member with rfl | ⟨⟨other, inner⟩, opens, inside⟩
    · exact ⟨above, name, node, printed, rfl⟩
    · exact ih _ (sizeOf_lt_of_mem_opened opens) (printed.inside opens) inside rfl

/-- A leaf of a document is a node that the document prints, without its description, and its path ends in the name of
the node. -/
theorem exists_join_of_mem_leafMap {document : Json} {leaf : String × Json}
    (member : leaf ∈ document.leafMap.entries) :
    ∃ above name node, document.Prints name node ∧ leaf = (Path.join above name, node.withoutDescription) := by
  cases document with
  | object members =>
    have among := SortedMap.mem_of_mem_ofList member
    rw [leavesOfContainer?_eq] at among
    split at among
    · rename_i properties listed
      obtain ⟨⟨name, node⟩, own, inside⟩ := exists_of_mem_leavesOfProperties among
      rw [← properties_of_find? listed] at own
      exact (Prints.own own).of_mem_leaves inside
    · cases among
  | _ => cases member

theorem exists_prints_of_mem_leafMap {document : Json} {leaf : String × Json}
    (member : leaf ∈ document.leafMap.entries) :
    ∃ name node, document.Prints name node ∧ leaf.2 = node.withoutDescription := by
  obtain ⟨_, name, node, printed, rfl⟩ := exists_join_of_mem_leafMap member
  exact ⟨name, node, printed, rfl⟩

end Json

namespace Sketch

theorem properties_of_container {properties members : List (String × Json)}
    (said : Keyed.find? "properties" members = if properties.isEmpty then none else some (ofMembers properties)) :
    (object members).properties = Keyed.ofList properties := by
  rw [Json.properties, get?, said]
  cases properties <;> rfl

theorem opened_node {sketch : Sketch} (sound : sketch.children ≠ [] → sketch.kind.holdsFields = true) :
    sketch.node.opened = Keyed.ofList (nodes sketch.children) := by
  have said : Kind.ofNode sketch.node "" = .ok sketch.kind.settled := sketch.members_said.ofNode ""
  rw [← Kind.listed_eq_opened said, Kind.listed_eq said]
  have closed : sketch.kind.holdsFields = false → sketch.children = [] := by
    intro empty
    by_contra filled
    rw [sound filled] at empty
    cases empty
  cases kind : sketch.kind with
  | object =>
    refine properties_of_container ?_
    rw [find?_properties_members kind, nodes_isEmpty]
  | array item =>
    have items := sketch.members_said.keyword "items" (by decide)
    rcases item with _ | _ | _ | _ | _
    case some.object =>
      rw [kind, Kind.keywords, Keyed.find?_cons, if_pos rfl] at items
      change ((Keyed.find? "items" sketch.members).map Json.properties).getD [] = _
      rw [items]
      refine properties_of_container ?_
      rw [Keyed.find?_cons, if_neg (by decide), Kind.find?_containerMembers_properties]
    all_goals
      rw [closed (by rw [kind]; rfl)]
      rfl
  | _ =>
    rw [closed (by rw [kind]; rfl)]
    rfl

end Sketch

namespace Branch

theorem mem_nodes_iff {property : String × Json} {forest : Forest} :
    property ∈ nodes forest ↔ ∃ branch ∈ forest, (branch.field.name, branch.node) = property := by
  induction forest with
  | nil => simp [nodes]
  | cons branch rest ih =>
    rw [nodes, List.mem_cons, ih, List.exists_mem_cons_iff]
    exact or_congr_left eq_comm

theorem opened_node {field : Field} {children : Forest} (sound : children ≠ [] → field.kind.holdsFields = true) :
    (mk field children).node.opened = Keyed.ofList (nodes children) := by
  rw [node_eq, nodes_eq]
  refine Sketch.opened_node fun filled => sound fun empty => filled ?_
  rw [empty]
  rfl

end Branch

namespace SchemaTree

variable {tree : SchemaTree} {ids : List FieldId} {forest : Forest} {id : FieldId} {branch : Branch}

theorem Shows.exists_of_mem (shown : tree.Shows ids forest) (member : branch ∈ forest) :
    ∃ id, tree.Shows [id] [branch] := by
  obtain ⟨place, here⟩ := List.mem_iff_getElem?.mp member
  obtain ⟨id, -, single⟩ := shown.getElem? here
  exact ⟨id, single⟩

theorem WellFormed.holds_of_shows (wellFormed : tree.WellFormed) {node : Node} {below : Forest}
    (found : tree.node? id = some node) (inside : tree.Shows node.children below) (filled : below ≠ []) :
    node.field.kind.holdsFields = true := by
  refine wellFormed.contained id node found fun empty => filled ?_
  rw [empty] at inside
  cases inside
  rfl

theorem NamesDiffer.ofList_nodes (differ : tree.NamesDiffer) {parent : Option FieldId}
    (list : tree.siblings? parent = some ids) (shown : tree.Shows ids forest) :
    Keyed.ofList (Branch.nodes forest) = Branch.nodes forest := by
  apply Keyed.ofList_of_nodup
  rw [Branch.nodes_eq, Sketch.keys_nodes]
  exact differ.nodup_names list shown

theorem properties_document_eq (tree : SchemaTree) :
    tree.document.properties = Keyed.ofList (Branch.nodes tree.forest) := rfl

/-- Each node that the document prints is the node of a branch that stands for a stored id. -/
theorem exists_shows_of_prints (wellFormed : tree.WellFormed) {name : String} {node : Json}
    (printed : tree.document.Prints name node) :
    ∃ id branch, tree.Shows [id] [branch] ∧ branch.field.name = name ∧ branch.node = node := by
  induction printed with
  | own member =>
    rw [properties_document_eq] at member
    obtain ⟨branch, listed, same⟩ := Branch.mem_nodes_iff.mp (Keyed.mem_ofList member)
    cases same
    obtain ⟨id, single⟩ := (shows_forest wellFormed).exists_of_mem listed
    exact ⟨id, branch, single, rfl, rfl⟩
  | inside _ member ih =>
    obtain ⟨above, _, single, rfl, rfl⟩ := ih
    cases single with
    | @cons _ node _ below _ found inside _ =>
      rw [Branch.opened_node (wellFormed.holds_of_shows found inside)] at member
      obtain ⟨branch, listed, same⟩ := Branch.mem_nodes_iff.mp (Keyed.mem_ofList member)
      cases same
      obtain ⟨id, single⟩ := inside.exists_of_mem listed
      exact ⟨id, branch, single, rfl, rfl⟩

theorem prints_of_shows (wellFormed : tree.WellFormed) (differ : tree.NamesDiffer) (shown : tree.Shows ids forest)
    (printed : ∀ property ∈ Branch.nodes forest, tree.document.Prints property.1 property.2)
    (member : id ∈ Branch.forestIds forest) (single : tree.Shows [id] [branch]) :
    tree.document.Prints branch.field.name branch.node := by
  induction shown with
  | nil => cases member
  | @cons head node rest below others found inside beside insideIh besideIh =>
    rw [Branch.nodes, List.forall_mem_cons] at printed
    rw [Branch.forestIds, Branch.ids, wellFormed.keyed head node found, List.mem_append, List.mem_cons] at member
    rcases member with (rfl | deeper) | later
    · cases single.unique (.cons found inside .nil)
      exact printed.1
    · -- Of siblings with one name only the last would be printed.
      refine insideIh (fun property listed => printed.1.inside ?_) deeper
      rwa [Branch.opened_node (wellFormed.holds_of_shows found inside),
        differ.ofList_nodes (siblings?_of_node found) inside]
    · exact besideIh printed.2 later

theorem prints_of_stored (wellFormed : tree.WellFormed) (differ : tree.NamesDiffer)
    (single : tree.Shows [id] [branch]) : tree.document.Prints branch.field.name branch.node := by
  have stored : tree.contains id = true := single.contains_of_mem (List.mem_singleton_self id)
  refine prints_of_shows wellFormed differ (shows_forest wellFormed) (fun property listed => .own ?_)
    (wellFormed.mem_forestIds_forest.mpr stored) single
  have roots : tree.siblings? none = some tree.roots := rfl
  rwa [properties_document_eq, differ.ofList_nodes roots (shows_forest wellFormed)]

theorem get?_of_shows (single : tree.Shows [id] [branch]) : tree.get? id = some branch.field := by
  cases single with
  | cons found inside _ => exact get?_of_node found

theorem fieldNode?_of_shows (wellFormed : tree.WellFormed) (single : tree.Shows [id] [branch]) :
    tree.fieldNode? id = some branch.node := by
  obtain ⟨other, found, again⟩ := wellFormed.exists_branch (single.contains_of_mem (List.mem_singleton_self id))
  cases single.unique again
  rw [fieldNode?, found, Option.map_some]

theorem exists_shows_of_get? (wellFormed : tree.WellFormed) {field : Field} (found : tree.get? id = some field) :
    ∃ branch, tree.Shows [id] [branch] ∧ branch.field = field := by
  obtain ⟨node, stored, rfl⟩ := Option.map_eq_some_iff.mp found
  obtain ⟨branch, -, single⟩ := wellFormed.exists_branch (contains_of_node stored)
  refine ⟨branch, single, ?_⟩
  have same := get?_of_shows single
  rw [found] at same
  exact (Option.some.inj same).symm

end SchemaTree

namespace Branch

theorem againstNode_node [Pattern.Engine] (branch : Branch) (value : Json) :
    Report.againstNode value branch.node = branch.field.kind.report value := by
  rw [node_eq]
  cases branch
  exact (Sketch.members_said _).againstNode value

theorem againstNode_leaf [Pattern.Engine] (branch : Branch) (value : Json) :
    Report.againstNode value branch.node.withoutDescription = branch.field.kind.report value := by
  rw [node_eq, Sketch.againstNode_leaf]
  cases branch
  rfl

end Branch

namespace SchemaTree

variable {tree : SchemaTree}

/-- A value is judged against the node of a field, with its description or without, just as against the kind of the
field. The document prints no other nodes than those of fields, each under the name of its field, and all of them if
siblings have different names; and its leaves are such nodes without their descriptions. -/
theorem reports_agree [Pattern.Engine] (wellFormed : tree.WellFormed) (value : Json) :
    (∀ id field, tree.get? id = some field → ∃ node, tree.fieldNode? id = some node ∧
      Report.againstNode value node = field.kind.report value ∧
      Report.againstNode value node.withoutDescription = field.kind.report value) ∧
    (∀ name node, tree.document.Prints name node →
      ∃ id field, tree.get? id = some field ∧ field.name = name ∧ tree.fieldNode? id = some node) ∧
    (∀ leaf ∈ tree.document.leafMap.entries, ∃ id field node, tree.get? id = some field ∧
      tree.fieldNode? id = some node ∧ leaf.2 = node.withoutDescription) ∧
    (tree.NamesDiffer → ∀ id field node, tree.get? id = some field → tree.fieldNode? id = some node →
      tree.document.Prints field.name node) := by
  have owner : ∀ name node, tree.document.Prints name node →
      ∃ id field, tree.get? id = some field ∧ field.name = name ∧ tree.fieldNode? id = some node := by
    intro name node printed
    obtain ⟨id, branch, single, rfl, rfl⟩ := exists_shows_of_prints wellFormed printed
    exact ⟨id, branch.field, get?_of_shows single, rfl, fieldNode?_of_shows wellFormed single⟩
  refine ⟨?_, owner, ?_, ?_⟩
  · intro id field found
    obtain ⟨branch, single, rfl⟩ := exists_shows_of_get? wellFormed found
    exact ⟨branch.node, fieldNode?_of_shows wellFormed single, branch.againstNode_node value,
      branch.againstNode_leaf value⟩
  · intro leaf member
    obtain ⟨name, node, printed, same⟩ := exists_prints_of_mem_leafMap member
    obtain ⟨id, field, found, -, written⟩ := owner name node printed
    exact ⟨id, field, node, found, written, same⟩
  · intro differ id field node found written
    obtain ⟨branch, single, rfl⟩ := exists_shows_of_get? wellFormed found
    rw [fieldNode?_of_shows wellFormed single] at written
    cases written
    exact prints_of_stored wellFormed differ single

/-- The empty text is a choice of one field, and the empty pattern of another one refuses nothing. -/
theorem reports_agree_of_oddTreeGrown :
    oddTreeGrown.WellFormed ∧ oddTreeGrown.NamesDiffer ∧
      (∃ node, oddTreeGrown.fieldNode? (.ofSerial 2) = some node ∧ oddTreeGrown.document.Prints "x.y" node ∧
        Report.againstNode (.string "q") node = ⟨["Value \"q\" is not in allowed enum values: , z"]⟩) ∧
      ∃ node, oddTreeGrown.fieldNode? (.ofSerial 3) = some node ∧
        Report.againstNode (.string "q") node.withoutDescription = .valid := by
  have read : ofDocumentFrom 0 oddDocument = .ok oddTree := by rfl
  have wellFormed : oddTreeGrown.WellFormed := (Reachable.edit _ (.document read)).wellFormed
  have differ : oddTreeGrown.NamesDiffer := namesDiffer_of_nodes (by decide) (by decide)
  obtain ⟨judged, -, -, printed⟩ := reports_agree wellFormed (.string "q")
  have chosen : oddTreeGrown.get? (.ofSerial 2) =
      some ⟨⟨"x.y", .text ⟨none, none, none, ["", "z"]⟩, "", true, none⟩, .ofSerial 2⟩ := by rfl
  have last : oddTreeGrown.get? (.ofSerial 3) =
      some ⟨⟨"last", .text ⟨none, none, some "", []⟩, "Last", false, some (.string "")⟩, .ofSerial 3⟩ := by rfl
  obtain ⟨node, written, own, -⟩ := judged _ _ chosen
  obtain ⟨other, stored, -, leaf⟩ := judged _ _ last
  exact ⟨wellFormed, differ, ⟨node, written, printed differ _ _ _ chosen written, own.trans (by decide +kernel)⟩,
    other, stored, leaf.trans (by decide +kernel)⟩

end SchemaTree

end ConfigSchema
