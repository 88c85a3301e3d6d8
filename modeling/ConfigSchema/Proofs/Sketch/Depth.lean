import ConfigSchema.Proofs.Json.Printing
import ConfigSchema.Proofs.Sketch.OfTree
import ConfigSchema.Proofs.Sketch.Printing

/-! How deep documents are. A node names each of its members once, and every level of fields costs two levels of
objects, or three inside of arrays; default values come on top. -/

namespace ConfigSchema

namespace Json

structure Shallow (value : Json) : Prop where
  distinct : value.Distinct
  flat : depth value ≤ 1

theorem shallow_ofStrings (texts : List String) : (ofStrings texts).Shallow where
  distinct := distinctItems_iff.mpr fun item listed => by
    obtain ⟨text, _, rfl⟩ := List.mem_map.mp listed
    trivial
  flat := by
    have flat : itemsDepth (texts.map string) = 0 := by
      induction texts with
      | nil => rfl
      | cons text rest ih =>
        have leaf : depth (string text) = 0 := rfl
        rw [List.map_cons, itemsDepth, ih, leaf, Nat.max_self]
    rw [ofStrings, depth, flat]

theorem shallow_typed (word : String) : (object [("type", string word)]).Shallow where
  distinct := ⟨List.nodup_singleton _, trivial, trivial⟩
  flat := Nat.le_refl 1

theorem mem_optionalMember {α : Type} {name : String} {write : α → Json} {value : Option α} {member : String × Json} :
    member ∈ optionalMember name write value ↔ ∃ given ∈ value, member = (name, write given) := by
  cases value <;> simp [optionalMember]

theorem membersDepth_le_iff {members : List (String × Json)} {bound : Nat} :
    membersDepth members ≤ bound ↔ ∀ member ∈ members, depth member.2 ≤ bound := by
  induction members with
  | nil => simp [membersDepth]
  | cons member rest ih => rw [membersDepth, Nat.max_le, ih, List.forall_mem_cons]

theorem depth_le_membersDepth {members : List (String × Json)} {member : String × Json} (listed : member ∈ members) :
    depth member.2 ≤ membersDepth members := membersDepth_le_iff.mp (Nat.le_refl _) member listed

theorem distinct_ofMembers {members : List (String × Json)} (nodup : (Keyed.keys members).Nodup)
    (inside : DistinctMembers members) : (ofMembers members).Distinct := by
  rw [ofMembers, Keyed.ofList_of_nodup nodup]
  exact ⟨nodup, inside⟩

theorem depth_ofMembers {members : List (String × Json)} (nodup : (Keyed.keys members).Nodup) :
    depth (ofMembers members) = membersDepth members + 1 := by
  rw [ofMembers, Keyed.ofList_of_nodup nodup, depth]

end Json

open Json

namespace Kind

variable {kind : Kind} {properties : List (String × Json)} {required : List String} {member : String × Json}

def itemsNode (properties : List (String × Json)) (required : List String) : Json :=
  .object (("type", .string "object") :: containerMembers properties required)

theorem mem_containerMembers (listed : member ∈ containerMembers properties required) :
    member.2.Shallow ∨ properties ≠ [] ∧ member.2 = ofMembers properties := by
  rw [containerMembers] at listed
  split at listed
  · cases listed
  · rename_i filled
    rcases List.mem_cons.mp listed with rfl | other
    · exact .inr ⟨fun empty => filled (List.isEmpty_iff.mpr empty), rfl⟩
    · split at other
      · cases other
      · cases List.mem_singleton.mp other
        exact .inl (shallow_ofStrings required)

/-- A keyword says something about the field itself, holds the fields below, or describes the items that hold them. -/
theorem mem_keywords (listed : member ∈ kind.keywords properties required) :
    member.2.Shallow ∨ (properties ≠ [] ∧ member.2 = ofMembers properties) ∨
      member.2 = itemsNode properties required := by
  have plain : ∀ {α : Type} {name : String} {write : α → Json} {value : Option α},
      member ∈ optionalMember name write value → (∀ given, (write given).Shallow) → member.2.Shallow := by
    intro α name write value given shallow
    obtain ⟨own, _, rfl⟩ := mem_optionalMember.mp given
    exact shallow own
  cases kind with
  | text rules =>
    simp only [keywords, List.mem_append, or_assoc] at listed
    rcases listed with known | known | known | known
    · exact .inl (plain known fun _ => ⟨trivial, Nat.zero_le 1⟩)
    · exact .inl (plain known fun _ => ⟨trivial, Nat.zero_le 1⟩)
    · exact .inl (plain known fun _ => ⟨trivial, Nat.zero_le 1⟩)
    · split at known
      · cases known
      · cases List.mem_singleton.mp known
        exact .inl (shallow_ofStrings _)
  | number rules =>
    simp only [keywords, List.mem_append] at listed
    rcases listed with known | known
    · exact .inl (plain known fun _ => ⟨trivial, Nat.zero_le 1⟩)
    · exact .inl (plain known fun _ => ⟨trivial, Nat.zero_le 1⟩)
  | boolean => cases listed
  | array item =>
    rcases item with _ | _ | _ | _ | _
    case none => cases listed
    case some.object =>
      cases List.mem_singleton.mp listed
      exact .inr (.inr rfl)
    all_goals
      cases List.mem_singleton.mp listed
      exact .inl (shallow_typed _)
  | object =>
    rw [keywords] at listed
    split at listed
    · cases List.mem_singleton.mp listed
      exact .inl ⟨trivial, Nat.zero_le 1⟩
    · exact (mem_containerMembers listed).imp_right .inl

theorem nodup_keys_itemsNode (properties : List (String × Json)) (required : List String) :
    (Keyed.keys (("type", Json.string "object") :: containerMembers properties required)).Nodup := by
  unfold containerMembers
  split
  · exact List.nodup_singleton _
  · split <;> simp [Keyed.keys]

theorem distinct_of_mem_keywords (nodup : (Keyed.keys properties).Nodup) (inside : DistinctMembers properties)
    (listed : member ∈ kind.keywords properties required) : member.2.Distinct := by
  have whole := distinct_ofMembers nodup inside
  obtain shallow | ⟨_, same⟩ | same := mem_keywords listed
  · exact shallow.distinct
  · exact same ▸ whole
  · rw [same]
    refine ⟨nodup_keys_itemsNode properties required, trivial, distinctMembers_iff.mpr fun other known => ?_⟩
    obtain shallow | ⟨_, same⟩ := mem_containerMembers known
    · exact shallow.distinct
    · exact same ▸ whole

/-- The fields below take one level of objects, and two if they are the fields of items. -/
theorem depth_of_mem_keywords_le (nodup : (Keyed.keys properties).Nodup) {bound : Nat} (shallow : 1 ≤ bound)
    (deep : properties ≠ [] → membersDepth properties + 2 ≤ bound)
    (listed : member ∈ kind.keywords properties required) : depth member.2 ≤ bound := by
  have whole := depth_ofMembers nodup
  obtain plain | ⟨filled, same⟩ | same := mem_keywords listed
  · exact plain.flat.trans shallow
  · have := deep filled
    rw [same, whole]
    omega
  · have container : membersDepth (containerMembers properties required) + 1 ≤ bound := by
      by_cases filled : properties = []
      · subst filled
        exact shallow
      · have within : membersDepth (containerMembers properties required) ≤ membersDepth properties + 1 :=
          membersDepth_le_iff.mpr fun other known => by
            obtain plain | ⟨_, same⟩ := mem_containerMembers known
            · exact plain.flat.trans (Nat.le_add_left 1 _)
            · exact (same ▸ whole).le
        have := deep filled
        omega
    have flat : depth (.string "object") = 0 := rfl
    rwa [same, itemsNode, depth, membersDepth, flat, Nat.zero_max]

theorem membersDepth_keywords_ge (nodup : (Keyed.keys properties).Nodup) (holds : kind.holdsFields = true)
    (filled : properties ≠ []) : membersDepth properties + 1 ≤ membersDepth (kind.keywords properties required) := by
  have container : membersDepth properties + 1 ≤ membersDepth (containerMembers properties required) := by
    have listed : ("properties", ofMembers properties) ∈ containerMembers properties required := by
      rw [containerMembers, if_neg (by simpa using filled)]
      exact List.mem_cons_self ..
    exact (depth_ofMembers nodup).ge.trans (depth_le_membersDepth listed)
  rcases kind with _ | _ | _ | (_ | _ | _ | _ | _) | _
  case object => rwa [keywords, if_neg (by simpa using filled)]
  case array.some.object =>
    have items : membersDepth (keywords (.array (some .object)) properties required) =
        depth (itemsNode properties required) := Nat.max_zero _
    rw [items, itemsNode, depth, membersDepth]
    omega
  all_goals cases holds

end Kind

namespace Sketch

mutual
def levels : Sketch → Nat
  | mk _ children => levelsOf children + 1

def levelsOf : List Sketch → Nat
  | [] => 0
  | sketch :: rest => max sketch.levels (levelsOf rest)
end

theorem nodup_keys_members (sketch : Sketch) : (Keyed.keys sketch.members).Nodup := by
  have remarks : (Keyed.keys sketch.attributes.remarks).Nodup := by
    rw [Attributes.remarks, Keyed.keys_append]
    cases sketch.attributes.defaultValue <;> split <;> simp [Keyed.keys, optionalMember]
  have said : (Keyed.keys sketch.kindMembers).Nodup := by
    have words : ("type" :: sketch.kind.words).Nodup := by cases sketch.kind <;> simp [Kind.words]
    exact words.sublist ((sketch.kind.keys_keywords_sublist _ _).cons_cons "type")
  rw [members_eq, Keyed.keys_append]
  refine List.nodup_append.mpr ⟨said, remarks, fun word first other second same => ?_⟩
  exact sketch.not_mem_keys_kindMembers (sketch.attributes.keys_remarks_subset (same ▸ second)) first

theorem mem_members {sketch : Sketch} {member : String × Json} (listed : member ∈ sketch.members) :
    member.2.Shallow ∨ some member.2 = sketch.attributes.defaultValue ∨
      member ∈ sketch.kind.keywords (nodes sketch.children) (required sketch.children) := by
  rw [members_eq, List.mem_append, kindMembers, List.mem_cons] at listed
  obtain (rfl | keyword) | remark := listed
  · exact .inl ⟨trivial, Nat.zero_le 1⟩
  · exact .inr (.inr keyword)
  · rw [Attributes.remarks, List.mem_append] at remark
    obtain description | given := remark
    · split at description
      · cases description
      · cases List.mem_singleton.mp description
        exact .inl ⟨trivial, Nat.zero_le 1⟩
    · obtain ⟨value, own, rfl⟩ := mem_optionalMember.mp given
      exact .inr (.inl own.symm)

mutual
/-- A node names each of its members once, and so does all that is in it. -/
theorem distinct_node : (sketch : Sketch) → sketch.Distinct →
    (sketch.Every fun sketch => ∀ value ∈ sketch.attributes.defaultValue, value.Distinct) → sketch.node.Distinct
  | mk attributes children, distinct, defaults => by
    refine ⟨nodup_keys_members _, distinctMembers_iff.mpr fun member listed => ?_⟩
    have nodup : (Keyed.keys (nodes children)).Nodup := keys_nodes children ▸ distinct.here
    obtain shallow | given | keyword := mem_members listed
    · exact shallow.distinct
    · exact defaults.here member.2 given.symm
    · exact Kind.distinct_of_mem_keywords nodup
        (distinct_nodes children distinct.below (everyOf_iff.mpr defaults.below)) keyword

theorem distinct_nodes : (sketches : List Sketch) → (∀ sketch ∈ sketches, sketch.Distinct) →
    EveryOf (fun sketch => ∀ value ∈ sketch.attributes.defaultValue, value.Distinct) sketches →
      DistinctMembers (nodes sketches)
  | [], _, _ => trivial
  | sketch :: rest, distinct, defaults => by
    rw [List.forall_mem_cons] at distinct
    exact ⟨distinct_node sketch distinct.1 defaults.1, distinct_nodes rest distinct.2 defaults.2⟩
end

theorem nodes_eq_nil_iff {sketches : List Sketch} : nodes sketches = [] ↔ sketches = [] := by
  cases sketches <;> simp [nodes]

mutual
theorem two_mul_levels_le : (sketch : Sketch) → sketch.Distinct → sketch.Sound →
    2 * sketch.levels ≤ depth sketch.node + 1
  | mk attributes children, distinct, sound => by
    have node : depth (mk attributes children).node = membersDepth (mk attributes children).members + 1 := rfl
    rw [levels, node]
    by_cases filled : children = []
    · subst filled
      exact Nat.le_add_left 2 _
    · have nodup : (Keyed.keys (nodes children)).Nodup := keys_nodes children ▸ distinct.here
      have inside := two_mul_levelsOf_le children distinct.below sound.below
      have keywords : membersDepth (nodes children) + 1 ≤
          membersDepth (attributes.kind.keywords (nodes children) (required children)) :=
        Kind.membersDepth_keywords_ge nodup (sound.here filled) (mt nodes_eq_nil_iff.mp filled)
      have own : membersDepth (attributes.kind.keywords (nodes children) (required children)) ≤
          membersDepth (mk attributes children).members := membersDepth_le_iff.mpr fun member listed => by
        refine depth_le_membersDepth ?_
        rw [members_eq, kindMembers, List.cons_append]
        exact List.mem_cons_of_mem _ (List.mem_append_left _ listed)
      omega

theorem two_mul_levelsOf_le : (sketches : List Sketch) → (∀ sketch ∈ sketches, sketch.Distinct) →
    (∀ sketch ∈ sketches, sketch.Sound) → 2 * levelsOf sketches ≤ membersDepth (nodes sketches) + 1
  | [], _, _ => Nat.zero_le _
  | sketch :: rest, distinct, sound => by
    rw [List.forall_mem_cons] at distinct sound
    have first := two_mul_levels_le sketch distinct.1 sound.1
    have others := two_mul_levelsOf_le rest distinct.2 sound.2
    have own : depth sketch.node = depth (.object sketch.members) := rfl
    rw [levelsOf, nodes, membersDepth, ← own]
    omega
end

variable {bound : Nat}

mutual
theorem depth_node_le : (sketch : Sketch) → sketch.Distinct →
    (sketch.Every fun sketch => ∀ value ∈ sketch.attributes.defaultValue, depth value ≤ bound) →
      depth sketch.node + 2 ≤ 3 * sketch.levels + max 1 bound
  | mk attributes children, distinct, defaults => by
    have nodup : (Keyed.keys (nodes children)).Nodup := keys_nodes children ▸ distinct.here
    have inside := membersDepth_nodes_le children distinct.below (everyOf_iff.mpr defaults.below)
    have members : membersDepth (mk attributes children).members ≤ 3 * levelsOf children + max 1 bound := by
      refine membersDepth_le_iff.mpr fun member listed => ?_
      obtain shallow | given | keyword := mem_members listed
      · have flat := shallow.flat
        omega
      · have within := defaults.here member.2 given.symm
        omega
      · refine Kind.depth_of_mem_keywords_le nodup (by omega) (fun filled => ?_) keyword
        exact inside.resolve_right (mt nodes_eq_nil_iff.mpr filled)
    have node : depth (mk attributes children).node = membersDepth (mk attributes children).members + 1 := rfl
    rw [levels, node]
    omega

theorem membersDepth_nodes_le : (sketches : List Sketch) → (∀ sketch ∈ sketches, sketch.Distinct) →
    EveryOf (fun sketch => ∀ value ∈ sketch.attributes.defaultValue, depth value ≤ bound) sketches →
      membersDepth (nodes sketches) + 2 ≤ 3 * levelsOf sketches + max 1 bound ∨ sketches = []
  | [], _, _ => .inr rfl
  | sketch :: rest, distinct, defaults => by
    rw [List.forall_mem_cons] at distinct
    have first := depth_node_le sketch distinct.1 defaults.1
    have own : depth sketch.node = depth (.object sketch.members) := rfl
    rw [levelsOf, nodes, membersDepth, ← own]
    obtain others | rfl := membersDepth_nodes_le rest distinct.2 defaults.2
    · omega
    · have none : membersDepth (nodes []) = 0 := rfl
      omega
end

end Sketch

namespace Branch

variable {forest : Forest}

/-- Beside its properties a document says nothing that is deeper than a list of names. -/
theorem exists_document (forest : Forest) : ∃ members, document forest = .object members ∧
    (Keyed.keys members).Nodup ∧ ("properties", ofMembers (Sketch.nodes (sketches forest))) ∈ members ∧
      ∀ member ∈ members, member.2.Shallow ∨ member.2 = ofMembers (Sketch.nodes (sketches forest)) := by
  refine ⟨_, rfl, ?_, ?_, ?_⟩
  · split <;> simp [Keyed.keys]
  · simp [nodes_eq]
  · have plain : ∀ text : String, (string text).Shallow := fun _ => ⟨trivial, Nat.zero_le 1⟩
    have switch : ∀ value : Bool, (bool value).Shallow := fun _ => ⟨trivial, Nat.zero_le 1⟩
    intro member listed
    simp only [List.mem_append, List.mem_cons, List.not_mem_nil, or_false, nodes_eq] at listed
    obtain ((rfl | rfl | rfl | rfl | rfl | rfl) | needed) | rfl := listed
    · exact .inl (plain _)
    · exact .inl (plain _)
    · exact .inl (plain _)
    · exact .inl (plain _)
    · exact .inl (plain _)
    · exact .inr rfl
    · split at needed
      · cases needed
      · cases List.mem_singleton.mp needed
        exact .inl (shallow_ofStrings _)
    · exact .inl (switch _)

theorem distinct_document (differ : ((sketches forest).map Sketch.name).Nodup)
    (inside : DistinctMembers (Sketch.nodes (sketches forest))) : (document forest).Distinct := by
  obtain ⟨members, same, nodup, _, cases⟩ := exists_document forest
  rw [same]
  refine ⟨nodup, distinctMembers_iff.mpr fun member listed => ?_⟩
  obtain shallow | properties := cases member listed
  · exact shallow.distinct
  · rw [← Sketch.keys_nodes] at differ
    exact properties ▸ distinct_ofMembers differ inside

theorem depth_document (differ : ((sketches forest).map Sketch.name).Nodup) :
    depth (document forest) = membersDepth (Sketch.nodes (sketches forest)) + 2 := by
  obtain ⟨members, same, _, listed, cases⟩ := exists_document forest
  rw [← Sketch.keys_nodes] at differ
  have whole := depth_ofMembers differ
  have below : membersDepth members ≤ membersDepth (Sketch.nodes (sketches forest)) + 1 :=
    membersDepth_le_iff.mpr fun member known => by
      obtain shallow | properties := cases member known
      · exact shallow.flat.trans (Nat.le_add_left 1 _)
      · exact (properties ▸ whole).le
  have above : depth (ofMembers (Sketch.nodes (sketches forest))) ≤ membersDepth members :=
    depth_le_membersDepth listed
  rw [same, depth]
  omega

end Branch

namespace SchemaTree

variable {tree : SchemaTree}

/-- Every object that is a default value, or lies in one, names each of its members once. A text cannot bring in any
other. -/
def DefaultsDistinct (tree : SchemaTree) : Prop :=
  ∀ id field, tree.get? id = some field → ∀ value ∈ field.defaultValue, value.Distinct

theorem defaultsDistinct_of_nodes
    (every : ∀ entry ∈ tree.nodes, ∀ value ∈ entry.2.field.defaultValue, value.Distinct) : tree.DefaultsDistinct :=
  forall_fields_of_nodes every

def levels (tree : SchemaTree) : Nat := Sketch.levelsOf tree.sketches

namespace WellFormed

variable (wellFormed : tree.WellFormed)

include wellFormed

theorem everyOf_defaults {property : Json → Prop}
    (every : ∀ id field, tree.get? id = some field → ∀ value ∈ field.defaultValue, property value) :
    Sketch.EveryOf (fun sketch => ∀ value ∈ sketch.attributes.defaultValue, property value) tree.sketches :=
  (wellFormed.everyOf_sketches_iff fun attributes => ∀ value ∈ attributes.defaultValue, property value).mpr
    fun id node found => every id node.field (get?_of_node found)

variable (differ : tree.NamesDiffer)

include differ

theorem distinct_document (distinct : tree.DefaultsDistinct) : tree.document.Distinct :=
  Branch.distinct_document (wellFormed.nodup_names_sketches differ)
    (Sketch.distinct_nodes _ (wellFormed.distinct_sketches differ) (wellFormed.everyOf_defaults distinct))

theorem depth_document_eq : tree.document.depth = membersDepth (Sketch.nodes tree.sketches) + 2 :=
  Branch.depth_document (wellFormed.nodup_names_sketches differ)

theorem two_mul_levels_lt : 2 * tree.levels < tree.document.depth := by
  have inside := Sketch.two_mul_levelsOf_le _ (wellFormed.distinct_sketches differ) wellFormed.sound_sketches
  rw [wellFormed.depth_document_eq differ, levels]
  omega

theorem depth_document_le {bound : Nat}
    (shallow : ∀ id field, tree.get? id = some field → ∀ value ∈ field.defaultValue, depth value ≤ bound) :
    tree.document.depth ≤ max 2 (3 * tree.levels + max 1 bound) := by
  have inside := Sketch.membersDepth_nodes_le _ (wellFormed.distinct_sketches differ)
    (wellFormed.everyOf_defaults shallow)
  rw [wellFormed.depth_document_eq differ, levels]
  obtain filled | empty := inside
  · exact filled.trans (Nat.le_max_right ..)
  · rw [empty]
    exact Nat.le_max_left ..

end WellFormed

end SchemaTree

end ConfigSchema
