import ConfigSchema.Proofs.Sketch.Reading

/-! The properties that a node lists. Fields are read from them and from nothing else. Main statement: the names of
the fields that are read from a node are the names that the node declares, at any depth. -/

namespace ConfigSchema

open Json

namespace Json

def properties (node : Json) : List (String × Json) := ((node.get? "properties").bind asMembers?).getD []

end Json

/-- The properties whose fields lie just below a node of this kind. -/
def Kind.listed (kind : Kind) (node : Json) : List (String × Json) :=
  match kind with
  | .object => node.properties
  | .array (some .object) => ((node.get? "items").map Json.properties).getD []
  | _ => []

namespace Json

def listed (node : Json) : List (String × Json) :=
  match Kind.ofNode node "" with
  | .ok kind => kind.listed node
  | .error _ => []

inductive Declares : Json → String → Prop
  | here {node below : Json} {name : String} (member : (name, below) ∈ node.listed) : Declares node name
  | deeper {node below : Json} {other name : String} (member : (other, below) ∈ node.listed)
      (inside : Declares below name) : Declares node name

def Names (document : Json) (name : String) : Prop :=
  ∃ property ∈ document.properties, property.1 = name ∨ property.2.Declares name

theorem declares_iff {node : Json} {name : String} :
    node.Declares name ↔ ∃ property ∈ node.listed, property.1 = name ∨ property.2.Declares name := by
  constructor
  · intro declared
    cases declared with
    | here member => exact ⟨_, member, .inl rfl⟩
    | deeper member inside => exact ⟨_, member, .inr inside⟩
  · rintro ⟨⟨other, below⟩, member, rfl | inside⟩
    · exact .here member
    · exact .deeper member inside

end Json

namespace Kind

variable {node : Json} {path : String}

theorem typeOfNode_path {type : TypeName} (said : typeOfNode node path = .ok type) (other : String) :
    typeOfNode node other = .ok type := by
  unfold typeOfNode at said ⊢
  split at said
  · exact said
  · exact said
  · split at said
    · exact said
    · cases said

theorem itemOfNode_path {item : Option ItemType} (said : itemOfNode node path = .ok item) (other : String) :
    itemOfNode node other = .ok item := by
  unfold itemOfNode at said ⊢
  split at said
  · exact said
  · split at said
    · exact said
    · cases said

/-- The kind of a node does not depend on the path at which it is read. -/
theorem ofNode_path {kind : Kind} (said : ofNode node path = .ok kind) (other : String) :
    ofNode node other = .ok kind := by
  unfold ofNode at said ⊢
  cases type : typeOfNode node path with
  | error reason => simp [type] at said
  | ok name =>
    rw [type] at said
    rw [typeOfNode_path type other]
    cases name with
    | array =>
      obtain ⟨item, items, same⟩ := Except.map_eq_ok_iff.mp said
      exact Except.map_eq_ok_iff.mpr ⟨item, itemOfNode_path items other, same⟩
    | _ => exact said

theorem holdsFields_of_listed {kind : Kind} {name : String} (named : name ∈ Keyed.keys (kind.listed node)) :
    kind.holdsFields = true := by
  rcases kind with _ | _ | _ | (_ | _ | _ | _ | _) | _
  case object => rfl
  case array.some.object => rfl
  all_goals cases named

theorem listed_eq {kind : Kind} (said : ofNode node path = .ok kind) : node.listed = kind.listed node := by
  rw [Json.listed, ofNode_path said]

end Kind

theorem exists_of_forall₂ {α β : Type} {related : α → β → Prop} {first : List α} {second : List β}
    (pairs : List.Forall₂ related first second) : ∀ left ∈ first, ∃ right ∈ second, related left right := by
  induction pairs with
  | nil => simp
  | @cons left right rest others own _ ih =>
    rw [List.forall_mem_cons]
    refine ⟨⟨right, List.mem_cons_self .., own⟩, fun other member => ?_⟩
    obtain ⟨partner, listed, pair⟩ := ih other member
    exact ⟨partner, List.mem_cons_of_mem _ listed, pair⟩

namespace Sketch

variable {filled : Bool}

def Reads (filled : Bool) (property : String × Json) (sketch : Sketch) : Prop :=
  ∃ path required, ofNode filled path property.1 ⟨required, none, none⟩ property.2 = .ok sketch

theorem Reads.name {property : String × Json} {sketch : Sketch} (read : Reads filled property sketch) :
    sketch.name = property.1 := by
  obtain ⟨path, required, done⟩ := read
  exact name_of_read done

theorem names_of_reads {properties : List (String × Json)} {sketches : List Sketch}
    (reads : List.Forall₂ (Reads filled) properties sketches) : sketches.map name = Keyed.keys properties := by
  induction reads with
  | nil => rfl
  | cons read _ ih => rw [List.map_cons, read.name, ih, Keyed.keys, Keyed.keys, List.map_cons]

theorem reads_of_ofProperties {path : String} {required : List String} {properties : List (String × Json)}
    {sketches : List Sketch} (done : ofProperties filled path required properties = .ok sketches) :
    List.Forall₂ (Reads filled) properties sketches := by
  induction properties generalizing sketches with
  | nil =>
    cases done
    exact .nil
  | cons property rest ih =>
    rw [ofProperties] at done
    obtain ⟨first, here, later⟩ := Except.bind_eq_ok_iff.mp done
    obtain ⟨others, there, same⟩ := Except.bind_eq_ok_iff.mp later
    cases same
    rw [ofProperty_eq] at here
    exact .cons ⟨_, _, here⟩ (ih there)

theorem reads_of_ofContainer {path : String} {required : List String} {members : List (String × Json)}
    {sketches : List Sketch} (done : ofContainer filled path required members = .ok sketches) :
    List.Forall₂ (Reads filled) (Json.object members).properties sketches := by
  rw [ofContainer_eq] at done
  rw [Json.properties, get?]
  split at done
  · rename_i absent
    cases done
    rw [absent]
    exact .nil
  · rename_i properties found
    rw [found]
    exact reads_of_ofProperties done
  · cases done

theorem reads_of_ofNodeBelow {path : String} {kind : Kind} {node : Json} {below : List Sketch}
    (done : ofNodeBelow filled path kind node = .ok below) : List.Forall₂ (Reads filled) (kind.listed node) below := by
  rcases kind with _ | _ | _ | (_ | _ | _ | _ | _) | _
  case object =>
    cases node with
    | object members => exact reads_of_ofContainer done
    | _ => cases done; exact .nil
  case array.some.object =>
    cases node with
    | object members =>
      rw [ofNodeBelow, ofItems_eq] at done
      rw [Kind.listed, get?]
      split at done
      · rename_i items found
        rw [found]
        exact reads_of_ofContainer done
      · rename_i other
        cases done
        cases found : Keyed.find? "items" members with
        | none => exact .nil
        | some items =>
          cases items with
          | object items => exact absurd found (other items)
          | _ => exact .nil
    | _ => cases done; exact .nil
  all_goals
    cases done
    exact .nil

/-- The sketches below a sketch are read from the properties that its node lists. -/
theorem reads_children {path name : String} {given : Given} {node : Json} {sketch : Sketch}
    (read : ofNode filled path name given node = .ok sketch) :
    List.Forall₂ (Reads filled) node.listed sketch.children := by
  obtain ⟨kind, said, inside⟩ := Except.bind_eq_ok_iff.mp read
  obtain ⟨below, listed, same⟩ := Except.bind_eq_ok_iff.mp inside
  cases same
  rw [Kind.listed_eq said]
  exact reads_of_ofNodeBelow listed

theorem reads_of_ofDocument {document : Json} {sketches : List Sketch} (read : ofDocument document = .ok sketches) :
    List.Forall₂ (Reads false) document.properties sketches := by
  cases document with
  | object members => exact reads_of_ofContainer read
  | _ => cases read

variable (fits : String → Prop)

mutual
theorem everyOf_children_iff {path name : String} {given : Given} {node : Json} : (sketch : Sketch) →
    ofNode filled path name given node = .ok sketch →
      (EveryOf (fun below => fits below.name) sketch.children ↔ ∀ name, node.Declares name → fits name)
  | mk attributes children, done => by
    rw [children_mk, everyOf_names_iff children (reads_children done)]
    constructor
    · intro below name declared
      obtain ⟨property, member, rfl | inside⟩ := declares_iff.mp declared
      · exact (below property member).1
      · exact (below property member).2 name inside
    · intro declared property member
      exact ⟨declared _ (.here member), fun name inside => declared name (.deeper member inside)⟩

theorem everyOf_names_iff {properties : List (String × Json)} : (sketches : List Sketch) →
    List.Forall₂ (Reads filled) properties sketches →
      (EveryOf (fun sketch => fits sketch.name) sketches ↔
        ∀ property ∈ properties, fits property.1 ∧ ∀ name, property.2.Declares name → fits name)
  | [], .nil => by simp [EveryOf]
  | .mk attributes children :: rest, reads => by
    cases reads with
    | @cons property _ others _ here later =>
      have named : attributes.name = property.1 := here.name
      obtain ⟨path, required, done⟩ := here
      have inside := everyOf_children_iff (mk attributes children) done
      rw [children_mk] at inside
      rw [EveryOf, Every, name_mk, named, inside, everyOf_names_iff rest later, List.forall_mem_cons]
end

theorem everyOf_document_iff {document : Json} {sketches : List Sketch} (done : ofDocument document = .ok sketches) :
    EveryOf (fun sketch => fits sketch.name) sketches ↔ ∀ name, document.Names name → fits name := by
  rw [everyOf_names_iff fits sketches (reads_of_ofDocument done)]
  constructor
  · rintro below name ⟨property, member, rfl | inside⟩
    · exact (below property member).1
    · exact (below property member).2 name inside
  · intro declared property member
    exact ⟨declared _ ⟨property, member, .inl rfl⟩, fun name inside => declared name ⟨property, member, .inr inside⟩⟩

end Sketch

end ConfigSchema
