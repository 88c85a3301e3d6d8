import ConfigSchema.Proofs.Program
import ConfigSchema.Proofs.Sketch.Printing

/-! Reading back what was written. The node of a sketch is read as the same sketch with its kind settled, at every
depth, provided that sketches side by side have different names. -/

namespace ConfigSchema

open Json

namespace Sketch

variable {filled : Bool}

theorem ofContainer_eq (path : String) (required : List String) (members : List (String × Json)) :
    ofContainer filled path required members = match Keyed.find? "properties" members with
      | none => .ok []
      | some (.object properties) => ofProperties filled path required properties
      | some _ => .error (.notAnObject (Path.join path "properties")) := by
  induction members with
  | nil => rfl
  | cons member rest ih =>
    obtain ⟨name, value⟩ := member
    rw [Keyed.find?_cons]
    by_cases named : name = "properties"
    · rw [if_pos named]
      cases value <;> simp [ofContainer, named, throw, throwThe, MonadExceptOf.throw]
    · rw [if_neg named, ← ih]
      cases value <;> simp [ofContainer, named]

theorem ofItems_eq (path : String) (members : List (String × Json)) :
    ofItems filled path members = match Keyed.find? "items" members with
      | some (.object items) => ofContainer filled path (requiredNames items) items
      | _ => .ok [] := by
  induction members with
  | nil => rfl
  | cons member rest ih =>
    obtain ⟨name, value⟩ := member
    rw [Keyed.find?_cons]
    by_cases named : name = "items"
    · rw [if_pos named]
      cases value <;> simp [ofItems, named, pure, Except.pure]
    · rw [if_neg named, ← ih]
      cases value <;> simp [ofItems, named]

/-- A property is a node of which only the name and whether it is required are known. -/
theorem ofProperty_eq (path name : String) (required : Bool) (node : Json) :
    ofProperty filled path name required node = ofNode filled path name ⟨required, none, none⟩ node := by
  cases node with
  | object members =>
    rw [ofProperty, ofNode]
    apply bind_congr
    intro kind
    rcases kind with _ | _ | _ | (_ | _ | _ | _ | _) | _ <;> rfl
  | _ => rfl

end Sketch

namespace Kind

variable {kind : Kind} {properties members : List (String × Json)} {required : List String}

theorem ofContainer_said {filled : Bool} (path : String)
    (container : ∀ word ∈ ["properties", "required"],
      Keyed.find? word members = Keyed.find? word (containerMembers properties required)) :
    Sketch.ofContainer filled path (Sketch.requiredNames members) members =
      Sketch.ofProperties filled path required (Keyed.ofList properties) := by
  have inside := container "properties" (by simp)
  rw [find?_containerMembers_properties] at inside
  rw [Sketch.ofContainer_eq, inside]
  cases empty : properties.isEmpty with
  | true =>
    rw [List.isEmpty_iff.mp empty]
    rfl
  | false =>
    have names := container "required" (by simp)
    rw [find?_containerMembers_required _ _ empty] at names
    rw [Sketch.requiredNames, names, texts_read]
    rfl

theorem SaidBy.ofNodeBelow {filled : Bool} (said : kind.SaidBy properties required members)
    (holds : kind.holdsFields = true) (path : String) :
    Sketch.ofNodeBelow filled path kind.settled (.object members) =
      Sketch.ofProperties filled path required (Keyed.ofList properties) := by
  cases kind with
  | object =>
    apply ofContainer_said path
    intro word listed
    have apart : word ≠ "description" ∧ word ≠ "default" ∧ word ≠ "type" := by
      rcases List.mem_pair.mp listed with rfl | rfl <;> decide
    rw [said.keyword word apart, keywords]
    split
    · rename_i empty
      rcases List.mem_pair.mp listed with rfl | rfl <;> simp [containerMembers, empty, Keyed.find?]
    · rfl
  | array item =>
    have object : item = some .object := by
      rcases item with _ | _ | _ | _ | _ <;> simp_all [holdsFields]
    subst object
    have items := said.keyword "items" (by decide)
    rw [keywords, Keyed.find?_cons, if_pos rfl] at items
    show Sketch.ofItems filled path members = _
    rw [Sketch.ofItems_eq, items]
    apply ofContainer_said path
    intro word listed
    rcases List.mem_pair.mp listed with rfl | rfl <;> rfl
  | text rules => simp [holdsFields] at holds
  | number rules => simp [holdsFields] at holds
  | boolean => simp [holdsFields] at holds

end Kind

/-- The attributes that are read from a node with these attributes. -/
def Attributes.reread (filled : Bool) (attributes : Attributes) : Attributes where
  name := attributes.name
  kind := attributes.kind.settled
  description :=
    if filled then descriptionOr attributes.description attributes.name else attributes.description
  required := attributes.required
  defaultValue :=
    if filled then some (defaultOr attributes.defaultValue attributes.kind.settled) else attributes.defaultValue

namespace Sketch

variable {filled : Bool}

mutual
def reread (filled : Bool) : Sketch → Sketch
  | mk attributes children => mk (attributes.reread filled) (rereads filled children)

def rereads (filled : Bool) : List Sketch → List Sketch
  | [] => []
  | sketch :: rest => sketch.reread filled :: rereads filled rest
end

theorem rereads_eq_map (filled : Bool) (sketches : List Sketch) :
    rereads filled sketches = sketches.map (reread filled) := by
  induction sketches with
  | nil => rfl
  | cons sketch rest ih => rw [rereads, ih, List.map_cons]

theorem find?_description_members (sketch : Sketch) : Keyed.find? "description" sketch.members =
    if sketch.attributes.description = "" then none else some (.string sketch.attributes.description) := by
  rw [members_eq, find?_remark sketch (by simp), Attributes.find?_description_remarks]

theorem find?_default_members (sketch : Sketch) :
    Keyed.find? "default" sketch.members = sketch.attributes.defaultValue := by
  rw [members_eq, find?_remark sketch (by simp), Attributes.find?_default_remarks]

theorem attributesOf_node (sketch : Sketch) : attributesOf filled sketch.name
    ⟨sketch.attributes.required, none, none⟩ sketch.kind.settled sketch.node =
      sketch.attributes.reread filled := by
  have described : (((none : Option String).filter fun text => !Text.isBlankText text).or
      ((sketch.node.get? "description").bind asString?)).getD "" = sketch.attributes.description := by
    rw [node, get?, find?_description_members]
    split
    · rename_i empty
      exact empty.symm
    · rfl
  have preset : ((none : Option Json).filter fun value => !value.isNull).or (sketch.node.get? "default") =
      sketch.attributes.defaultValue := by
    rw [node, get?, find?_default_members]
    rfl
  rw [attributesOf, described, preset]
  rfl

theorem ofNodeBelow_leaf {kind : Kind} (leaf : kind.holdsFields = false) (path : String) (node : Json) :
    ofNodeBelow filled path kind node = .ok [] := by
  rcases kind with _ | _ | _ | (_ | _ | _ | _ | _) | _ <;> first | rfl | simp [Kind.holdsFields] at leaf

theorem contains_required {sketches : List Sketch} (distinct : (sketches.map name).Nodup) {sketch : Sketch}
    (member : sketch ∈ sketches) : (required sketches).contains sketch.name = sketch.attributes.required := by
  rw [Bool.eq_iff_iff, List.contains_iff_mem, required, List.mem_map]
  constructor
  · rintro ⟨other, kept, named⟩
    obtain ⟨listed, wanted⟩ := List.mem_filter.mp kept
    rw [List.inj_on_of_nodup_map distinct listed member named] at wanted
    exact wanted
  · intro wanted
    exact ⟨sketch, List.mem_filter.mpr ⟨member, wanted⟩, rfl⟩

/-- Members that say the kind of a sketch give what lies below it, once the nodes of its children are read back. -/
theorem ofNodeBelow_said {sketch : Sketch} (sound : sketch.Sound) (distinct : sketch.Distinct)
    {members : List (String × Json)} {path : String}
    (said : sketch.kind.SaidBy (nodes sketch.children) (required sketch.children) members)
    (inside : ofProperties filled path (required sketch.children) (nodes sketch.children) =
      .ok (rereads filled sketch.children)) :
    ofNodeBelow filled path sketch.kind.settled (.object members) = .ok (rereads filled sketch.children) := by
  cases holds : sketch.kind.holdsFields with
  | true =>
    rw [said.ofNodeBelow holds, Keyed.ofList_of_nodup]
    · exact inside
    · rw [keys_nodes]
      exact distinct.here
  | false =>
    have none_below : sketch.children = [] := by
      by_contra some_below
      exact Bool.false_ne_true (holds.symm.trans (sound.here some_below))
    rw [ofNodeBelow_leaf (by rwa [Kind.holdsFields_settled]), none_below]
    rfl

mutual
theorem ofNode_node : (sketch : Sketch) → sketch.Sound → sketch.Distinct → ∀ path : String,
    ofNode filled path sketch.name ⟨sketch.attributes.required, none, none⟩ sketch.node =
      .ok (sketch.reread filled)
  | mk attributes children, sound, distinct, path => by
    have said := members_said (mk attributes children)
    have inside : ofProperties filled path (required children) (nodes children) = .ok (rereads filled children) :=
      ofProperties_nodes children sound.below distinct.below distinct.here path _
        fun sketch member => contains_required distinct.here member
    have below : ofNodeBelow filled path (mk attributes children).kind.settled (mk attributes children).node =
        .ok (rereads filled children) := ofNodeBelow_said sound distinct said inside
    have kind : Kind.ofNode (mk attributes children).node path = .ok (mk attributes children).kind.settled :=
      said.ofNode path
    rw [ofNode, kind, Except.ok_bind, below, Except.ok_bind, attributesOf_node]
    rfl

theorem ofProperties_nodes : (sketches : List Sketch) → (∀ sketch ∈ sketches, sketch.Sound) →
    (∀ sketch ∈ sketches, sketch.Distinct) → (sketches.map name).Nodup → ∀ (path : String) (required : List String),
    (∀ sketch ∈ sketches, required.contains sketch.name = sketch.attributes.required) →
    ofProperties filled path required (nodes sketches) = .ok (rereads filled sketches)
  | [], _, _, _, _, _, _ => rfl
  | sketch :: rest, sound, distinct, apart, path, required, wanted => by
    have first := ofNode_node sketch (List.forall_mem_cons.mp sound).1 (List.forall_mem_cons.mp distinct).1
      (Path.join path sketch.name)
    have later := ofProperties_nodes rest (List.forall_mem_cons.mp sound).2 (List.forall_mem_cons.mp distinct).2
      (List.nodup_cons.mp apart).2 path required (List.forall_mem_cons.mp wanted).2
    rw [nodes, ofProperties, ofProperty_eq, wanted sketch (List.mem_cons_self ..)]
    rw [node] at first
    rw [first, Except.ok_bind, later, Except.ok_bind]
    rfl
end

end Sketch

end ConfigSchema
