import ConfigSchema.Proofs.Entries
import ConfigSchema.Proofs.Sketch.Basic
import ConfigSchema.Schema.Document

/-! Nodes of sketches. What is written of a tree depends on the sketches of its fields alone, and a node says of
its field what a reader asks for: its kind, what lies below it, a description and a default value. -/

namespace ConfigSchema

open Json

def Attributes.remarks (attributes : Attributes) : List (String × Json) :=
  (if attributes.description = "" then [] else [("description", .string attributes.description)]) ++
    optionalMember "default" id attributes.defaultValue

namespace Sketch

def required (sketches : List Sketch) : List String :=
  (sketches.filter fun sketch => sketch.attributes.required).map name

mutual
/-- The members of the node that is written for a sketch. -/
def members : Sketch → List (String × Json)
  | mk attributes children =>
    ("type", .string attributes.kind.type.text) ::
      attributes.kind.keywords (nodes children) (required children) ++ attributes.remarks

def nodes : List Sketch → List (String × Json)
  | [] => []
  | sketch :: rest => (sketch.name, .object sketch.members) :: nodes rest
end

def node (sketch : Sketch) : Json := .object sketch.members

theorem keys_nodes (sketches : List Sketch) : Keyed.keys (nodes sketches) = sketches.map name := by
  induction sketches with
  | nil => rfl
  | cons sketch rest ih => simp only [nodes, Keyed.keys, List.map_cons] at ih ⊢; rw [ih]

theorem nodes_isEmpty (sketches : List Sketch) : (nodes sketches).isEmpty = sketches.isEmpty := by
  cases sketches <;> rfl

end Sketch

namespace Branch

theorem required_eq (forest : Forest) : required forest = Sketch.required (sketches forest) := by
  induction forest with
  | nil => rfl
  | cons branch rest ih =>
    obtain ⟨field, children⟩ := branch
    rw [required, sketches, sketch, Sketch.required, List.filter_cons, ih]
    by_cases wanted : field.required = true
    · simp [wanted, Branch.field, Sketch.attributes, Field.attributes, Sketch.required]
    · simp [wanted, Branch.field, Sketch.attributes, Field.attributes, Sketch.required]

mutual
/-- Nodes are written without regard to ids. -/
theorem node_eq : (branch : Branch) → branch.node = branch.sketch.node
  | .mk field children => by
    rw [node, nodes_eq children, required_eq children]
    rfl

theorem nodes_eq : (forest : Forest) → nodes forest = Sketch.nodes (sketches forest)
  | [] => rfl
  | .mk field children :: rest => by
    rw [nodes, node_eq (.mk field children), nodes_eq rest]
    rfl
end

end Branch

theorem Keyed.find?_optionalMember {α : Type} (sought name : String) (write : α → Json) (value : Option α) :
    find? sought (optionalMember name write value) = if name = sought then value.map write else none := by
  cases value <;> simp [optionalMember, find?]

theorem Keyed.find?_texts (sought name : String) (texts : List String) :
    find? sought (if texts.isEmpty then [] else [(name, ofStrings texts)]) =
      if name = sought ∧ texts ≠ [] then some (ofStrings texts) else none := by
  cases texts <;> simp [find?]

/-- A value that is written if there is one is read back. -/
theorem Json.value_read {α : Type} {write : α → Json} {read : Json → Option α}
    (inverse : ∀ value, read (write value) = some value) (value : Option α) :
    (value.map write).bind read = value := by
  cases value with
  | none => rfl
  | some value => exact inverse value

/-- Texts are read back, those that were left out because there are none as well. -/
theorem Json.texts_read (texts : List String) :
    (((if texts ≠ [] then some (ofStrings texts) else none).bind asItems?).getD []).filterMap asString? =
      texts := by
  have read : (texts.map Json.string).filterMap asString? = texts := by
    rw [List.filterMap_map]
    exact List.filterMap_some
  cases texts with
  | nil => rfl
  | cons text rest => simpa [ofStrings, asItems?] using read

theorem Json.asUInt64?_ofLength (length : UInt64) : asUInt64? (ofLength length) = some length :=
  Integer64.toUInt64?_ofUInt64 length

/-- The kind that is read back: an empty pattern is no pattern. -/
def Kind.settled : Kind → Kind
  | .text rules => .text { rules with pattern := rules.pattern.filter fun pattern => pattern ≠ "" }
  | kind => kind

namespace Kind

@[simp] theorem holdsFields_settled (kind : Kind) : kind.settled.holdsFields = kind.holdsFields := by
  cases kind <;> rfl

theorem settled_eq_object_iff (kind : Kind) : kind.settled = .object ↔ kind = .object := by
  cases kind <;> simp [settled]

def SaidBy (kind : Kind) (properties : List (String × Json)) (required : List String)
    (members : List (String × Json)) : Prop :=
  ∀ word, word ≠ "description" → word ≠ "default" → Keyed.find? word members =
    Keyed.find? word (("type", Json.string kind.type.text) :: kind.keywords properties required)

variable {kind : Kind} {properties members : List (String × Json)} {required : List String}

theorem SaidBy.type (said : kind.SaidBy properties required members) :
    Keyed.find? "type" members = some (.string kind.type.text) := by
  rw [said "type" (by decide) (by decide), Keyed.find?_cons, if_pos rfl]

theorem SaidBy.keyword (said : kind.SaidBy properties required members) (word : String)
    (other : word ≠ "description" ∧ word ≠ "default" ∧ word ≠ "type") :
    Keyed.find? word members = Keyed.find? word (kind.keywords properties required) := by
  rw [said word other.1 other.2.1, Keyed.find?_cons, if_neg (Ne.symm other.2.2)]

theorem SaidBy.ofNode (said : kind.SaidBy properties required members) (path : String) :
    Kind.ofNode (.object members) path = .ok kind.settled := by
  have type : typeOfNode (.object members) path = .ok kind.type := by
    simp [typeOfNode, get?, said.type, asString?]
  cases kind with
  | text rules =>
    have minLength := said.keyword "minLength" (by decide)
    have maxLength := said.keyword "maxLength" (by decide)
    have pattern := said.keyword "pattern" (by decide)
    have choices := said.keyword "enum" (by decide)
    simp only [keywords, Keyed.find?_append, Keyed.find?_optionalMember, Keyed.find?_texts, String.reduceEq,
      if_false, if_true, false_and, true_and, Option.or_none, Option.none_or] at minLength maxLength pattern choices
    have text : ∀ value : Option String, (value.map Json.string).bind asString? = value :=
      value_read fun _ => rfl
    have same : textRulesOfNode (.object members) =
        { rules with pattern := rules.pattern.filter fun pattern => pattern ≠ "" } := by
      rw [textRulesOfNode, get?, get?, get?, get?, minLength, maxLength, pattern, choices, texts_read,
        value_read asUInt64?_ofLength, value_read asUInt64?_ofLength, text]
    rw [ofNode, type]
    simp only [same, Kind.type, settled]
  | number rules =>
    have minimum := said.keyword "minimum" (by decide)
    have maximum := said.keyword "maximum" (by decide)
    simp only [keywords, Keyed.find?_append, Keyed.find?_optionalMember, String.reduceEq, if_false, if_true,
      Option.or_none, Option.none_or] at minimum maximum
    have bound : ∀ value : Option Number, (value.map Json.number).bind asNumber? = value :=
      value_read fun _ => rfl
    have same : numberRulesOfNode (.object members) = rules := by
      rw [numberRulesOfNode, get?, get?, minimum, maximum, bound, bound]
    rw [ofNode, type]
    simp only [same, Kind.type, settled]
  | boolean =>
    rw [ofNode, type]
    rfl
  | array item =>
    have items := said.keyword "items" (by decide)
    have same : itemOfNode (.object members) path = .ok item := by
      rcases item with _ | _ | _ | _ | _
      all_goals
        rw [itemOfNode, get?, items]
        rfl
    rw [ofNode, type]
    simp only [same, Kind.type, settled, Except.map]
  | object =>
    rw [ofNode, type]
    rfl

theorem find?_containerMembers_properties (properties : List (String × Json)) (required : List String) :
    Keyed.find? "properties" (containerMembers properties required) =
      if properties.isEmpty then none else some (ofMembers properties) := by
  unfold containerMembers
  split <;> simp [Keyed.find?]

theorem find?_containerMembers_required (properties : List (String × Json)) (required : List String)
    (filled : properties.isEmpty = false) : Keyed.find? "required" (containerMembers properties required) =
      if required ≠ [] then some (ofStrings required) else none := by
  rw [containerMembers, filled]
  cases required <;> simp [Keyed.find?]

def words : Kind → List String
  | .text _ => ["minLength", "maxLength", "pattern", "enum"]
  | .number _ => ["minimum", "maximum"]
  | .boolean => []
  | .array _ => ["items"]
  | .object => ["additionalProperties", "properties", "required"]

theorem keys_keywords_sublist (kind : Kind) (properties : List (String × Json)) (required : List String) :
    (Keyed.keys (kind.keywords properties required)).Sublist kind.words := by
  have optional : ∀ {α : Type} (name : String) (write : α → Json) (value : Option α),
      (Keyed.keys (optionalMember name write value)).Sublist [name] := by
    intro α name write value
    cases value <;> simp [optionalMember, Keyed.keys]
  cases kind with
  | text rules =>
    simp only [keywords, Keyed.keys_append]
    apply (((optional _ _ _).append (optional _ _ _)).append (optional _ _ _)).append
    split <;> simp [Keyed.keys]
  | number rules =>
    simp only [keywords, Keyed.keys_append]
    exact (optional _ _ _).append (optional _ _ _)
  | boolean => exact .refl _
  | array item => rcases item with _ | _ | _ | _ | _ <;> simp [keywords, Keyed.keys, words]
  | object =>
    simp only [keywords, containerMembers]
    split
    · simp [Keyed.keys, words]
    · split <;> simp [Keyed.keys, words]

end Kind

namespace Attributes

theorem keys_remarks_subset (attributes : Attributes) :
    Keyed.keys attributes.remarks ⊆ ["description", "default"] := by
  rw [remarks, Keyed.keys_append]
  cases attributes.defaultValue <;> split <;> simp [Keyed.keys, optionalMember]

theorem find?_description_remarks (attributes : Attributes) : Keyed.find? "description" attributes.remarks =
    if attributes.description = "" then none else some (.string attributes.description) := by
  rw [remarks, Keyed.find?_append, Keyed.find?_optionalMember]
  split <;> simp [Keyed.find?]

theorem find?_default_remarks (attributes : Attributes) :
    Keyed.find? "default" attributes.remarks = attributes.defaultValue := by
  rw [remarks, Keyed.find?_append, Keyed.find?_optionalMember]
  split <;> simp [Keyed.find?]

end Attributes

namespace Sketch

def kindMembers (sketch : Sketch) : List (String × Json) :=
  ("type", .string sketch.kind.type.text) ::
    sketch.kind.keywords (nodes sketch.children) (required sketch.children)

theorem members_eq (sketch : Sketch) : sketch.members = sketch.kindMembers ++ sketch.attributes.remarks := by
  cases sketch
  rfl

theorem not_mem_keys_kindMembers (sketch : Sketch) {word : String} (remark : word ∈ ["description", "default"]) :
    word ∉ Keyed.keys sketch.kindMembers := by
  intro member
  have listed := ((sketch.kind.keys_keywords_sublist _ _).cons_cons "type").subset member
  have disjoint : ∀ word ∈ "type" :: sketch.kind.words, word ∉ ["description", "default"] := by
    cases sketch.kind <;> simp [Kind.words]
  exact disjoint word listed remark

theorem find?_remark (sketch : Sketch) {word : String} (remark : word ∈ ["description", "default"])
    (rest : List (String × Json)) : Keyed.find? word (sketch.kindMembers ++ rest) = Keyed.find? word rest := by
  have unsaid := (Keyed.find?_eq_none_iff word _).mpr (sketch.not_mem_keys_kindMembers remark)
  rw [Keyed.find?_append, unsaid, Option.none_or]

/-- Whatever remarks follow, the members say the kind. -/
theorem kindMembers_said (sketch : Sketch) {rest : List (String × Json)}
    (remarks : Keyed.keys rest ⊆ ["description", "default"]) :
    sketch.kind.SaidBy (nodes sketch.children) (required sketch.children) (sketch.kindMembers ++ rest) := by
  intro word other another
  have silent : Keyed.find? word rest = none := by
    rw [Keyed.find?_eq_none_iff]
    intro member
    have listed := remarks member
    simp [other, another] at listed
  rw [Keyed.find?_append, silent, Option.or_none, kindMembers]

theorem members_said (sketch : Sketch) :
    sketch.kind.SaidBy (nodes sketch.children) (required sketch.children) sketch.members := by
  rw [members_eq]
  exact sketch.kindMembers_said sketch.attributes.keys_remarks_subset

end Sketch

end ConfigSchema
