import ConfigSchema.Flat.Entry
import ConfigSchema.Forest
import ConfigSchema.Proofs.Entries
import ConfigSchema.Proofs.Sketch.Printing

/-! JSON forms of kinds, fields, flat maps and forests. A form is read back member by member, wherever in an object its
members stand. Main statements: whatever is written is read back as it was, but for a default value null, which is read
as none; and different forests have different forms. -/

namespace ConfigSchema

open Json

namespace Json

theorem optionalMember?_read {α : Type} {write : α → Json} {read : Json → Option α} {name : String}
    {members : List (String × Json)} {value : Option α} (said : Keyed.find? name members = value.map write)
    (proper : ∀ value, write value ≠ .null) (inverse : ∀ value, read (write value) = some value) :
    optionalMember? read name members = some value := by
  cases value with
  | none => rw [optionalMember?, said]; rfl
  | some value =>
    rw [optionalMember?, said, Option.map_some]
    cases written : write value with
    | null => exact absurd written (proper value)
    | _ => simp [← written, inverse]

theorem asStrings?_ofStrings (texts : List String) : asStrings? (ofStrings texts) = some texts := by
  show (texts.map Json.string).mapM asString? = some texts
  induction texts with
  | nil => rfl
  | cons text rest ih =>
    rw [List.map_cons, List.mapM_cons, ih]
    rfl

end Json

namespace Kind

def ruleWords : List String :=
  ["minLength", "maxLength", "pattern", "enumValues", "minimum", "maximum", "arrayItemType"]

theorem find?_ruleMembers_of_not_mem (kind : Kind) {word : String} (other : word ∉ ruleWords) :
    Keyed.find? word kind.ruleMembers = none := by
  have apart : ∀ known ∈ ruleWords, ¬known = word := fun known listed same => other (same ▸ listed)
  simp only [ruleWords, List.forall_mem_cons] at apart
  cases kind <;> simp only [ruleMembers, Keyed.find?_append, Keyed.find?_optionalMember, Keyed.find?_texts,
    Keyed.find?, apart, if_false, false_and, Option.or_none]

theorem ofRuleMembers?_read (kind : Kind) {members : List (String × Json)}
    (said : ∀ word ∈ ruleWords, Keyed.find? word members = Keyed.find? word kind.ruleMembers) :
    ofRuleMembers? kind.type members = some kind := by
  cases kind with
  | text rules =>
    have minLength := said "minLength" (by decide)
    have maxLength := said "maxLength" (by decide)
    have pattern := said "pattern" (by decide)
    have choices := said "enumValues" (by decide)
    simp only [ruleMembers, Keyed.find?_append, Keyed.find?_optionalMember, Keyed.find?_texts, String.reduceEq,
      if_false, if_true, false_and, true_and, Option.or_none, Option.none_or] at minLength maxLength pattern choices
    have listed : memberOr? asStrings? [] "enumValues" members = some rules.choices := by
      rw [memberOr?, choices]
      by_cases empty : rules.choices = []
      · simp [empty]
      · simpa [empty] using asStrings?_ofStrings rules.choices
    rw [type, ofRuleMembers?, optionalMember?_read minLength (fun _ same => by cases same) asUInt64?_ofLength,
      optionalMember?_read maxLength (fun _ same => by cases same) asUInt64?_ofLength,
      optionalMember?_read pattern (fun _ same => by cases same) (fun _ => rfl), listed]
    rfl
  | number rules =>
    have minimum := said "minimum" (by decide)
    have maximum := said "maximum" (by decide)
    simp only [ruleMembers, Keyed.find?_append, Keyed.find?_optionalMember, String.reduceEq, if_false, if_true,
      Option.or_none, Option.none_or] at minimum maximum
    rw [type, ofRuleMembers?, optionalMember?_read minimum (fun _ same => by cases same) (fun _ => rfl),
      optionalMember?_read maximum (fun _ same => by cases same) (fun _ => rfl)]
    rfl
  | boolean => rfl
  | array item =>
    have word := said "arrayItemType" (by decide)
    rw [ruleMembers, Keyed.find?_optionalMember, if_pos rfl] at word
    rw [type, ofRuleMembers?, optionalMember?_read word (fun _ same => by cases same) ItemType.ofText?_text]
    rfl
  | object => rfl

theorem ofJson?_toJson (kind : Kind) : ofJson? kind.toJson = some kind := by
  have type : (member? asString? "type" kind.toMembers).bind TypeName.ofText? = some kind.type :=
    TypeName.ofText?_text kind.type
  have rules : ofRuleMembers? kind.type kind.toMembers = some kind := by
    refine kind.ofRuleMembers?_read fun word listed => ?_
    have other : ∀ word ∈ ruleWords, "type" ≠ word := by decide
    rw [toMembers, Keyed.find?_cons, if_neg (other word listed)]
  rw [toJson, ofJson?, type, Option.bind_eq_bind, Option.bind_some, rules]

end Kind

namespace Attributes

variable (attributes : Attributes)

theorem find?_toMembers (word : String) : Keyed.find? word attributes.toMembers =
    if "name" = word then some (.string attributes.name)
    else if "type" = word then some (.string attributes.kind.type.text)
    else (Keyed.find? word attributes.kind.ruleMembers).or
      (if "description" = word then some (.string attributes.description)
        else if "required" = word then some (.bool attributes.required)
        else if "defaultValue" = word then attributes.defaultValue else none) := by
  simp only [toMembers, Kind.toMembers, List.cons_append, Keyed.find?_cons, Keyed.find?_append,
    Keyed.find?_optionalMember, Option.map_id, id]
  split_ifs <;> simp [Keyed.find?]

def SaidBy (members : List (String × Json)) : Prop :=
  ∀ word, word ≠ "id" → word ≠ "children" → Keyed.find? word members = Keyed.find? word attributes.toMembers

variable {attributes} {members : List (String × Json)}

theorem SaidBy.defaultValue (said : attributes.SaidBy members) :
    Keyed.find? "defaultValue" members = attributes.defaultValue := by
  rw [said "defaultValue" (by decide) (by decide), find?_toMembers,
    Kind.find?_ruleMembers_of_not_mem _ (by decide)]
  rfl

/-- Attributes are read back from whatever says them; only a default value null is read as none. -/
theorem SaidBy.ofMembers? (said : attributes.SaidBy members) : Attributes.ofMembers? members =
    some { attributes with defaultValue := attributes.defaultValue.filter fun value => !value.isNull } := by
  have rules : Kind.ofRuleMembers? attributes.kind.type members = some attributes.kind := by
    refine attributes.kind.ofRuleMembers?_read fun word listed => ?_
    have rule : ∀ word ∈ Kind.ruleWords, word ∉ ["id", "children", "name", "type", "description", "required",
      "defaultValue"] := by decide
    have other := rule word listed
    simp only [List.mem_cons, List.not_mem_nil, or_false, not_or] at other
    rw [said word other.1 other.2.1, find?_toMembers]
    simp [eq_comm, other]
  have name : member? asString? "name" members = some attributes.name := by
    rw [member?, said "name" (by decide) (by decide), find?_toMembers, if_pos rfl]
    rfl
  have type : member? TypeName.ofJson? "type" members = some attributes.kind.type := by
    rw [member?, said "type" (by decide) (by decide), find?_toMembers, if_neg (by decide), if_pos rfl]
    exact TypeName.ofText?_text attributes.kind.type
  have description : memberOr? asString? "" "description" members = some attributes.description := by
    rw [memberOr?, said "description" (by decide) (by decide), find?_toMembers,
      Kind.find?_ruleMembers_of_not_mem _ (by decide)]
    rfl
  have required : memberOr? asBool? false "required" members = some attributes.required := by
    rw [memberOr?, said "required" (by decide) (by decide), find?_toMembers,
      Kind.find?_ruleMembers_of_not_mem _ (by decide)]
    rfl
  have preset : optionalMember? some "defaultValue" members =
      some (attributes.defaultValue.filter fun value => !value.isNull) := by
    rw [optionalMember?, said.defaultValue]
    rcases attributes.defaultValue with _ | (_ | _ | _ | _ | _ | _) <;> rfl
  simp only [Attributes.ofMembers?, name, type, rules, description, required, preset, Option.bind_eq_bind,
    Option.bind_some]

theorem SaidBy.unique {others : Attributes} (said : attributes.SaidBy members) (also : others.SaidBy members) :
    attributes = others := by
  have read := Option.some.inj (said.ofMembers?.symm.trans also.ofMembers?)
  have preset := said.defaultValue.symm.trans also.defaultValue
  cases attributes
  cases others
  simp only [Attributes.mk.injEq] at read preset ⊢
  exact ⟨read.1, read.2.1, read.2.2.1, read.2.2.2.1, preset⟩

theorem ofJson?_toJson (attributes : Attributes) : ofJson? attributes.toJson =
    some { attributes with defaultValue := attributes.defaultValue.filter fun value => !value.isNull } :=
  have said : attributes.SaidBy attributes.toMembers := fun _ _ _ => rfl
  said.ofMembers?

end Attributes

namespace Field

theorem withId_attributes (field : Field) : field.attributes.withId ⟨field.id.text⟩ = field := rfl

theorem saidBy_toMembers (field : Field) : field.attributes.SaidBy field.toMembers := by
  intro word noId _
  rw [toMembers, Keyed.find?_cons, if_neg (Ne.symm noId)]

theorem ofJson?_toJson (field : Field) : ofJson? field.toJson =
    some { field with defaultValue := field.defaultValue.filter fun value => !value.isNull } := by
  have id : member? asString? "id" field.toMembers = some field.id.text := rfl
  rw [toJson, ofJson?, asMembers?, Option.bind_eq_bind, Option.bind_some, id, Option.bind_eq_bind, Option.bind_some,
    field.saidBy_toMembers.ofMembers?]
  rfl

end Field

@[simp] theorem Entry.ofJson?_toJson (entry : Entry) : Entry.ofJson? entry.toJson = some entry := rfl

namespace FlatMap

@[simp] theorem ofMembers?_toMembers (map : FlatMap) : ofMembers? map.toMembers = some map := by
  have entries : map.entries.mapM (fun entry => some (id entry)) = some map.entries :=
    List.mapM_pure.trans (congrArg some (List.map_id _))
  rw [ofMembers?, toMembers, List.mapM_map]
  exact (congrArg (Option.bind · fun entries => some (SortedMap.ofList entries)) entries).trans
    (congrArg some map.ofList_entries)

theorem ofPayload?_payload (map : FlatMap) : ofPayload? map.payload = some map := map.ofMembers?_toMembers

end FlatMap

theorem Json.filter_not_isNull_eq_self_iff {value : Option Json} :
    (value.filter fun value => !value.isNull) = value ↔ value ≠ some .null := by
  rcases value with _ | (_ | _ | _ | _ | _ | _) <;> simp [Option.filter, isNull]

/-- The form of a kind, with whatever rules, of an entry and of a payload is read back as what was written; and so is
the form of a field, with an id or without, exactly if the default value is not null. -/
theorem forms_read_back :
    (∀ kind : Kind, Kind.ofJson? kind.toJson = some kind) ∧
    (∀ attributes : Attributes,
      Attributes.ofJson? attributes.toJson = some attributes ↔ attributes.defaultValue ≠ some .null) ∧
    (∀ field : Field, Field.ofJson? field.toJson = some field ↔ field.defaultValue ≠ some .null) ∧
    (∀ entry : Entry, Entry.ofJson? entry.toJson = some entry) ∧
    ∀ map : FlatMap, FlatMap.ofPayload? map.payload = some map := by
  refine ⟨Kind.ofJson?_toJson, fun attributes => ?_, fun field => ?_, Entry.ofJson?_toJson, FlatMap.ofPayload?_payload⟩
  · rw [Attributes.ofJson?_toJson, Option.some.injEq, ← Json.filter_not_isNull_eq_self_iff]
    exact ⟨congrArg Attributes.defaultValue, fun same => by rw [same]⟩
  · rw [Field.ofJson?_toJson, Option.some.injEq, ← Json.filter_not_isNull_eq_self_iff]
    exact ⟨congrArg fun other : Field => other.defaultValue, fun same => by rw [same]⟩

namespace Branch

theorem childMember_eq (forest : Forest) : childMember forest =
    optionalMember "children" Json.array (if forest.isEmpty then none else some (forestItems forest)) := by
  cases forest <;> rfl

variable (field : Field) (children : Forest)

theorem find?_id_members :
    Keyed.find? "id" (field.toMembers ++ childMember children) = some (.string field.id.text) := rfl

/-- The forms of the fields below are read back, also if there are none. -/
theorem children_read :
    ((Keyed.find? "children" (field.toMembers ++ childMember children)).bind asItems?).getD [] =
      forestItems children := by
  rw [Keyed.find?_append, childMember_eq, Keyed.find?_optionalMember, Field.toMembers, Keyed.find?_cons,
    if_neg (by decide), Attributes.find?_toMembers, Kind.find?_ruleMembers_of_not_mem _ (by decide)]
  cases children <;> rfl

theorem saidBy_members : field.attributes.SaidBy (field.toMembers ++ childMember children) := by
  intro word noId noChildren
  rw [Keyed.find?_append, childMember_eq, Keyed.find?_optionalMember, if_neg (Ne.symm noChildren), Option.or_none,
    field.saidBy_toMembers word noId noChildren]

mutual
theorem eq_of_toJson : (first second : Branch) → first.toJson = second.toJson → first = second
  | mk field children, mk other others, same => by
    have members : field.toMembers ++ childMember children = other.toMembers ++ childMember others := by
      simpa [toJson] using same
    have attributes : field.attributes = other.attributes :=
      (saidBy_members field children).unique (members ▸ saidBy_members other others)
    have id : field.id.text = other.id.text := by
      have said := congrArg (Keyed.find? "id") members
      rwa [find?_id_members, find?_id_members, Option.some.injEq, Json.string.injEq] at said
    have items : forestItems children = forestItems others := by
      rw [← children_read field children, members, children_read]
    rw [eq_of_forestItems children others items, ← field.withId_attributes, attributes,
      congrArg FieldId.mk id, other.withId_attributes]

theorem eq_of_forestItems : (first second : Forest) → forestItems first = forestItems second → first = second
  | [], [], _ => rfl
  | [], _ :: _, same => by cases same
  | _ :: _, [], same => by cases same
  | branch :: rest, other :: others, same => by
    rw [forestItems, forestItems, List.cons.injEq] at same
    rw [eq_of_toJson branch other same.1, eq_of_forestItems rest others same.2]
end

@[simp] theorem forestJson_inj {first second : Forest} : forestJson first = forestJson second ↔ first = second := by
  rw [forestJson, forestJson, Json.array.injEq]
  exact ⟨eq_of_forestItems first second, congrArg forestItems⟩

end Branch

end ConfigSchema
