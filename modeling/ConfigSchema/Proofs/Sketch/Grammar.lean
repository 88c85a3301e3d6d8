import ConfigSchema.Proofs.Sketch.Listed

/-! The grammar of schema documents. It is told from the JSON alone: which values are containers, what their properties
may be, and which words may stand for types. Main statement: exactly the documents that follow it are read. -/

namespace ConfigSchema

open Json

namespace Json

def itemsType? (node : Json) : Option Json := (node.get? "items").bind (Json.get? "type")

structure NodeFits (node : Json) : Prop where
  type : node.get? "type" = none ∨ node.get? "type" = some .null ∨
    ∃ word ∈ ["string", "number", "boolean", "array", "object"], node.get? "type" = some (.string word)
  items : node.get? "type" = some (.string "array") → node.itemsType? = none ∨
    ∃ word ∈ ["string", "number", "boolean", "object"], node.itemsType? = some (.string word)

def container? (node : Json) : Option Json :=
  if node.get? "type" = some (.string "object") then some node
  else if node.get? "type" = some (.string "array") ∧ node.itemsType? = some (.string "object") then node.get? "items"
  else none

inductive Contains (document : Json) : Json → Prop
  | itself : Contains document document
  | inside {container node inner : Json} {name : String} (above : Contains document container)
      (member : (name, node) ∈ container.properties) (opens : node.container? = some inner) : Contains document inner

structure ContainerFits (container : Json) : Prop where
  properties : container.get? "properties" = none ∨
    ∃ members, container.get? "properties" = some (.object members)
  nodes : ∀ property ∈ container.properties, property.2.NodeFits

/-- The document is an object, and all its containers fit. -/
structure FollowsGrammar (document : Json) : Prop where
  object : ∃ members, document = .object members
  containers : ∀ container, document.Contains container → container.ContainerFits

theorem Contains.trans {document middle container : Json} (first : document.Contains middle)
    (second : middle.Contains container) : document.Contains container := by
  induction second with
  | itself => exact first
  | inside _ member opens ih => exact .inside ih member opens

theorem exists_members {node value : Json} {word : String} (said : node.get? word = some value) :
    ∃ members, node = .object members := by
  cases node with
  | object members => exact ⟨members, rfl⟩
  | _ => cases said

theorem container?_eq_object {node inner : Json} (opens : node.container? = some inner) :
    ∃ members, inner = .object members := by
  unfold container? at opens
  split at opens
  · rename_i said
    exact Option.some.inj opens ▸ exists_members said
  · split at opens
    · rename_i said
      rw [itemsType?, opens] at said
      exact exists_members said.2
    · cases opens

theorem sizeOf_lt_of_get? {node value : Json} {word : String} (said : node.get? word = some value) :
    sizeOf value < sizeOf node := by
  obtain ⟨members, rfl⟩ := exists_members said
  exact sizeOf_lt_of_find? said

theorem sizeOf_lt_of_mem {container node : Json} {name : String} (member : (name, node) ∈ container.properties) :
    sizeOf node < sizeOf container := by
  unfold properties at member
  cases said : container.get? "properties" with
  | none => simp [said] at member
  | some value =>
    have outer := sizeOf_lt_of_get? said
    cases value with
    | object members =>
      rw [said] at member
      have inner := List.sizeOf_lt_of_mem (show (name, node) ∈ members from member)
      simp only [Prod.mk.sizeOf_spec, object.sizeOf_spec] at inner outer
      omega
    | _ => simp [said, asMembers?] at member

theorem sizeOf_container_le {node inner : Json} (opens : node.container? = some inner) :
    sizeOf inner ≤ sizeOf node := by
  unfold container? at opens
  split at opens
  · exact Nat.le_of_eq (congrArg sizeOf (Option.some.inj opens).symm)
  · split at opens
    · exact Nat.le_of_lt (sizeOf_lt_of_get? opens)
    · cases opens

end Json

namespace TypeName

theorem ofText?_eq_some_iff {text : String} {type : TypeName} : ofText? text = some type ↔ text = type.text := by
  constructor
  · intro found
    rw [ofText?] at found
    have same := List.find?_some found
    exact (beq_iff_eq.mp same).symm
  · rintro rfl
    exact ofText?_text type

theorem mem_words_iff {word : String} :
    word ∈ ["string", "number", "boolean", "array", "object"] ↔ ∃ type : TypeName, word = type.text := by
  constructor
  · simp only [List.mem_cons, List.not_mem_nil, or_false]
    rintro (rfl | rfl | rfl | rfl | rfl)
    · exact ⟨.string, rfl⟩
    · exact ⟨.number, rfl⟩
    · exact ⟨.boolean, rfl⟩
    · exact ⟨.array, rfl⟩
    · exact ⟨.object, rfl⟩
  · rintro ⟨type, rfl⟩
    cases type <;> simp [text]

end TypeName

namespace ItemType

theorem ofText?_eq_some_iff {text : String} {item : ItemType} : ofText? text = some item ↔ text = item.text := by
  constructor
  · intro found
    rw [ofText?] at found
    have same := List.find?_some found
    exact (beq_iff_eq.mp same).symm
  · rintro rfl
    exact ofText?_text item

theorem mem_words_iff {word : String} :
    word ∈ ["string", "number", "boolean", "object"] ↔ ∃ item : ItemType, word = item.text := by
  constructor
  · simp only [List.mem_cons, List.not_mem_nil, or_false]
    rintro (rfl | rfl | rfl | rfl)
    · exact ⟨.string, rfl⟩
    · exact ⟨.number, rfl⟩
    · exact ⟨.boolean, rfl⟩
    · exact ⟨.object, rfl⟩
  · rintro ⟨item, rfl⟩
    cases item <;> simp [text]

end ItemType

namespace Kind

variable {node : Json} {path : String} {kind : Kind}

theorem typeOfNode_eq_ok_iff {type : TypeName} : typeOfNode node path = .ok type ↔
    node.get? "type" = some (.string type.text) ∨
      type = .string ∧ (node.get? "type" = none ∨ node.get? "type" = some .null) := by
  have known : ∀ word, TypeName.ofText? word = some type ↔ word = type.text :=
    fun word => TypeName.ofText?_eq_some_iff
  unfold typeOfNode
  rcases node.get? "type" with _ | ⟨_ | _ | _ | word | _ | _⟩
  case some.string =>
    simp only [asString?, Option.bind_some, Option.some.injEq, Json.string.injEq, reduceCtorEq, or_self, and_false,
      or_false, ← known]
    cases TypeName.ofText? word <;> simp
  all_goals simp [asString?, eq_comm]

theorem itemOfNode_eq_ok_iff {item : Option ItemType} : itemOfNode node path = .ok item ↔
    node.itemsType? = item.map fun item => Json.string item.text := by
  have known : ∀ (word : String) (item : ItemType), ItemType.ofText? word = some item ↔ word = item.text :=
    fun _ _ => ItemType.ofText?_eq_some_iff
  unfold itemOfNode itemsType?
  rcases (node.get? "items").bind (Json.get? "type") with _ | ⟨_ | _ | _ | word | _ | _⟩
  case some.string =>
    simp only [asString?, Option.bind_some]
    cases item with
    | none => cases ItemType.ofText? word <;> simp
    | some item =>
      simp only [Option.map_some, Option.some.injEq, Json.string.injEq, ← known]
      cases ItemType.ofText? word <;> simp
  all_goals cases item <;> simp [asString?]

def holding? (kind : Kind) (node : Json) : Option Json :=
  match kind with
  | .object => some node
  | .array (some .object) => node.get? "items"
  | _ => none

theorem listed_eq_of_holding (kind : Kind) (node : Json) :
    kind.listed node = ((kind.holding? node).map Json.properties).getD [] := by
  rcases kind with _ | _ | _ | (_ | _ | _ | _ | _) | _ <;> rfl

/-- A node that has a kind opens the container of the kind. -/
theorem container?_eq (said : ofNode node path = .ok kind) : node.container? = kind.holding? node := by
  unfold ofNode at said
  cases typed : typeOfNode node path with
  | error reason => simp [typed] at said
  | ok type =>
    rw [typed] at said
    have word := typeOfNode_eq_ok_iff.mp typed
    cases type with
    | array =>
      have array : node.get? "type" = some (.string "array") := by simpa [TypeName.text] using word
      obtain ⟨item, items, rfl⟩ := Except.map_eq_ok_iff.mp said
      rw [container?, array, itemOfNode_eq_ok_iff.mp items]
      rcases item with _ | _ | _ | _ | _ <;> simp [holding?, ItemType.text]
    | _ =>
      cases said
      rcases word with word | ⟨same, word | word⟩ <;> simp_all [container?, holding?, TypeName.text]

theorem nodeFits_iff (path : String) : node.NodeFits ↔ ∃ kind, ofNode node path = .ok kind := by
  constructor
  · rintro ⟨words, items⟩
    obtain ⟨type, typed⟩ : ∃ type, typeOfNode node path = .ok type := by
      rcases words with absent | null | ⟨word, known, said⟩
      · exact ⟨.string, typeOfNode_eq_ok_iff.mpr (.inr ⟨rfl, .inl absent⟩)⟩
      · exact ⟨.string, typeOfNode_eq_ok_iff.mpr (.inr ⟨rfl, .inr null⟩)⟩
      · obtain ⟨type, rfl⟩ := TypeName.mem_words_iff.mp known
        exact ⟨type, typeOfNode_eq_ok_iff.mpr (.inl said)⟩
    rw [ofNode, typed]
    cases type with
    | array =>
      have array : node.get? "type" = some (.string "array") := by
        simpa [TypeName.text] using typeOfNode_eq_ok_iff.mp typed
      obtain ⟨item, read⟩ : ∃ item, itemOfNode node path = .ok item := by
        rcases items array with absent | ⟨word, known, said⟩
        · exact ⟨none, itemOfNode_eq_ok_iff.mpr absent⟩
        · obtain ⟨item, rfl⟩ := ItemType.mem_words_iff.mp known
          exact ⟨some item, itemOfNode_eq_ok_iff.mpr said⟩
      exact ⟨.array item, by rw [read]; rfl⟩
    | _ => exact ⟨_, rfl⟩
  · rintro ⟨kind, said⟩
    unfold ofNode at said
    cases typed : typeOfNode node path with
    | error reason => simp [typed] at said
    | ok type =>
      rw [typed] at said
      have word := typeOfNode_eq_ok_iff.mp typed
      constructor
      · rcases word with word | ⟨_, absent | null⟩
        · exact .inr (.inr ⟨_, TypeName.mem_words_iff.mpr ⟨type, rfl⟩, word⟩)
        · exact .inl absent
        · exact .inr (.inl null)
      · intro array
        have same : type = .array := by
          rw [array] at word
          cases type <;> simp [TypeName.text] at word ⊢
        rw [same] at said
        obtain ⟨item, items, _⟩ := Except.map_eq_ok_iff.mp said
        rw [itemOfNode_eq_ok_iff.mp items]
        cases item with
        | none => exact .inl rfl
        | some item => exact .inr ⟨_, ItemType.mem_words_iff.mpr ⟨item, rfl⟩, rfl⟩

end Kind

namespace Sketch

variable {filled : Bool}

theorem ofNodeBelow_eq (path : String) (kind : Kind) (node : Json) :
    ofNodeBelow filled path kind node = match kind.holding? node with
      | some (.object members) => ofContainer filled path (requiredNames members) members
      | _ => .ok [] := by
  rcases kind with _ | _ | _ | (_ | _ | _ | _ | _) | _
  case object => cases node <;> rfl
  case array.some.object =>
    cases node with
    | object members => exact ofItems_eq path members
    | _ => rfl
  all_goals cases node <;> rfl

def ReadFrom (filled : Bool) (container : Json) : Prop :=
  ∃ members path required sketches, container = .object members ∧
    ofContainer filled path required members = .ok sketches

namespace ReadFrom

variable {container : Json} (read : ReadFrom filled container)

include read

theorem exists_reads {property : String × Json} (member : property ∈ container.properties) :
    ∃ sketch, Reads filled property sketch := by
  obtain ⟨members, path, required, sketches, rfl, done⟩ := read
  obtain ⟨sketch, _, reads⟩ := exists_of_forall₂ (reads_of_ofContainer done) property member
  exact ⟨sketch, reads⟩

theorem fits : container.ContainerFits := by
  constructor
  · obtain ⟨members, path, required, sketches, rfl, done⟩ := read
    rw [ofContainer_eq] at done
    rw [get?]
    split at done
    · rename_i absent
      exact .inl absent
    · rename_i properties found
      exact .inr ⟨properties, found⟩
    · cases done
  · intro property member
    obtain ⟨sketch, path, required, done⟩ := read.exists_reads member
    obtain ⟨kind, said, _⟩ := Except.bind_eq_ok_iff.mp done
    exact (Kind.nodeFits_iff path).mpr ⟨kind, said⟩

/-- What the properties of the container open is read from as well. -/
theorem inside {name : String} {node inner : Json} (member : (name, node) ∈ container.properties)
    (opens : node.container? = some inner) : ReadFrom filled inner := by
  obtain ⟨sketch, path, required, done⟩ := read.exists_reads member
  obtain ⟨kind, said, later⟩ := Except.bind_eq_ok_iff.mp done
  obtain ⟨below, listed, _⟩ := Except.bind_eq_ok_iff.mp later
  obtain ⟨members, rfl⟩ := container?_eq_object opens
  rw [ofNodeBelow_eq, ← Kind.container?_eq said, opens] at listed
  exact ⟨members, _, _, below, rfl, listed⟩

theorem of_contains {inner : Json} (contained : container.Contains inner) : ReadFrom filled inner := by
  induction contained with
  | itself => exact read
  | inside _ member opens ih => exact ih.inside member opens

end ReadFrom

theorem exists_ofProperties {properties : List (String × Json)} (path : String) (required : List String)
    (reads : ∀ property ∈ properties, ∀ path given,
      ∃ sketch, ofNode filled path property.1 given property.2 = .ok sketch) :
    ∃ sketches, ofProperties filled path required properties = .ok sketches := by
  induction properties with
  | nil => exact ⟨[], rfl⟩
  | cons property rest ih =>
    obtain ⟨name, node⟩ := property
    rw [List.forall_mem_cons] at reads
    obtain ⟨sketch, first⟩ := reads.1 (Path.join path name) ⟨required.contains name, none, none⟩
    obtain ⟨sketches, later⟩ := ih reads.2
    refine ⟨sketch :: sketches, ?_⟩
    rw [ofProperties, ofProperty_eq, first, Except.ok_bind, later]
    rfl

/-- A container is read if all containers in it fit. -/
theorem exists_ofContainer {members : List (String × Json)} (path : String) (required : List String)
    (fits : ∀ container, (Json.object members).Contains container → container.ContainerFits) :
    ∃ sketches, ofContainer filled path required members = .ok sketches := by
  induction size : sizeOf (Json.object members) using Nat.strongRecOn generalizing members path required with
  | _ bound ih =>
    obtain ⟨shape, nodes⟩ := fits _ .itself
    rw [ofContainer_eq]
    rcases shape with absent | ⟨properties, found⟩
    · rw [show Keyed.find? "properties" members = none from absent]
      exact ⟨[], rfl⟩
    · have listed : (Json.object members).properties = properties := by
        rw [Json.properties, found]
        rfl
      rw [show Keyed.find? "properties" members = some (.object properties) from found]
      refine exists_ofProperties path required fun property member place given => ?_
      rw [← listed] at member
      obtain ⟨kind, said⟩ := (Kind.nodeFits_iff place).mp (nodes property member)
      have below : ∃ below, ofNodeBelow filled place kind property.2 = .ok below := by
        rw [ofNodeBelow_eq, ← Kind.container?_eq said]
        cases opens : property.2.container? with
        | none => exact ⟨[], rfl⟩
        | some inner =>
          obtain ⟨inside, rfl⟩ := container?_eq_object opens
          have smaller := Nat.lt_of_le_of_lt (sizeOf_container_le opens) (sizeOf_lt_of_mem member)
          exact ih _ (size ▸ smaller) place _
            (fun container deeper => fits container (.trans (.inside .itself member opens) deeper)) rfl
      obtain ⟨below, read⟩ := below
      rw [ofNode, said, Except.ok_bind, read]
      exact ⟨_, rfl⟩

theorem exists_ofDocument_iff (document : Json) :
    (∃ sketches, ofDocument document = .ok sketches) ↔ document.FollowsGrammar := by
  constructor
  · rintro ⟨sketches, done⟩
    cases document with
    | object members =>
      have read : ReadFrom false (.object members) := ⟨members, _, _, sketches, rfl, done⟩
      exact ⟨⟨members, rfl⟩, fun container contained => (read.of_contains contained).fits⟩
    | _ => cases done
  · rintro ⟨⟨members, rfl⟩, fits⟩
    exact exists_ofContainer "" _ fits

end Sketch

end ConfigSchema
