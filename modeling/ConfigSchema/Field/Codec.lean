import ConfigSchema.Field.Basic

/-! The JSON forms of kinds, attributes and fields. Rules that are absent are left out, and so is an empty
list of choices; members that a form does not know are passed over. -/

namespace ConfigSchema

namespace Json

def optionalMember? {α : Type} (read : Json → Option α) (name : String)
    (members : List (String × Json)) : Option (Option α) :=
  match Keyed.find? name members with
  | none | some .null => some none
  | some value => (read value).map some

def memberOr? {α : Type} (read : Json → Option α) (fallback : α) (name : String)
    (members : List (String × Json)) : Option α :=
  match Keyed.find? name members with
  | none => some fallback
  | some value => read value

def member? {α : Type} (read : Json → Option α) (name : String) (members : List (String × Json)) :
    Option α :=
  (Keyed.find? name members).bind read

def asBool? : Json → Option Bool
  | .bool value => some value
  | _ => none

def asStrings? (value : Json) : Option (List String) := value.asItems?.bind (·.mapM asString?)

end Json

open Json

def ItemType.toJson (item : ItemType) : Json := .string item.text

/-- An item type is a word, or an object with the word as its only member and nothing in it. -/
def ItemType.ofJson? : Json → Option ItemType
  | .string text => ItemType.ofText? text
  | .object [(text, .null)] | .object [(text, .object [])] => ItemType.ofText? text
  | _ => none

def optionalMember {α : Type} (name : String) (write : α → Json) (value : Option α) :
    List (String × Json) :=
  match value with
  | none => []
  | some value => [(name, write value)]

def Kind.ruleMembers : Kind → List (String × Json)
  | .text rules =>
    optionalMember "minLength" ofLength rules.minLength ++
      optionalMember "maxLength" ofLength rules.maxLength ++
      optionalMember "pattern" .string rules.pattern ++
      if rules.choices.isEmpty then [] else [("enumValues", ofStrings rules.choices)]
  | .number rules =>
    optionalMember "minimum" .number rules.minimum ++ optionalMember "maximum" .number rules.maximum
  | .array item => optionalMember "arrayItemType" ItemType.toJson item
  | .boolean | .object => []

def Kind.toMembers (kind : Kind) : List (String × Json) :=
  ("type", .string kind.type.text) :: kind.ruleMembers

def Kind.toJson (kind : Kind) : Json := .object kind.toMembers

def Kind.ofRuleMembers? (type : TypeName) (members : List (String × Json)) : Option Kind :=
  match type with
  | .string => do
    let minLength ← optionalMember? asUInt64? "minLength" members
    let maxLength ← optionalMember? asUInt64? "maxLength" members
    let pattern ← optionalMember? asString? "pattern" members
    let choices ← memberOr? asStrings? [] "enumValues" members
    some (.text ⟨minLength, maxLength, pattern, choices⟩)
  | .number => do
    let minimum ← optionalMember? asNumber? "minimum" members
    let maximum ← optionalMember? asNumber? "maximum" members
    some (.number ⟨minimum, maximum⟩)
  | .boolean => some .boolean
  | .array => (optionalMember? ItemType.ofJson? "arrayItemType" members).map .array
  | .object => some .object

/-- The members that a kind may also give by position, after its type. Only the choices may be missing. -/
def Kind.positions (type : TypeName) : List String × Nat :=
  match type with
  | .string => (["minLength", "maxLength", "pattern", "enumValues"], 3)
  | .number => (["minimum", "maximum"], 2)
  | .array => (["arrayItemType"], 1)
  | .boolean | .object => ([], 0)

/-- A kind stands in an object, or in an array with its members by position. -/
def Kind.ofJson? : Json → Option Kind
  | .object members => do
    let type ← (member? asString? "type" members).bind TypeName.ofText?
    ofRuleMembers? type members
  | .array (.string word :: values) => do
    let type ← TypeName.ofText? word
    let (names, needed) := positions type
    if needed ≤ values.length ∧ values.length ≤ names.length then
      ofRuleMembers? type (names.zip values)
    else none
  | _ => none

/-- Beside other members a type may also be given by its place among the types. -/
def TypeName.ofJson? : Json → Option TypeName
  | .string text => ofText? text
  | .number (.integer n) => n.toUInt64?.bind fun place => all[place.toNat]?
  | _ => none

def Attributes.toMembers (attributes : Attributes) : List (String × Json) :=
  ("name", .string attributes.name) :: attributes.kind.toMembers ++
    [("description", .string attributes.description), ("required", .bool attributes.required)] ++
    optionalMember "defaultValue" id attributes.defaultValue

def Attributes.toJson (attributes : Attributes) : Json := .object attributes.toMembers

def Attributes.ofMembers? (members : List (String × Json)) : Option Attributes := do
  let name ← member? asString? "name" members
  let type ← member? TypeName.ofJson? "type" members
  let kind ← Kind.ofRuleMembers? type members
  let description ← memberOr? asString? "" "description" members
  let required ← memberOr? asBool? false "required" members
  let defaultValue ← optionalMember? some "defaultValue" members
  some { name, kind, description, required, defaultValue }

def Attributes.ofJson? (value : Json) : Option Attributes := value.asMembers?.bind ofMembers?

def Field.toMembers (field : Field) : List (String × Json) :=
  ("id", .string field.id.text) :: field.attributes.toMembers

def Field.toJson (field : Field) : Json := .object field.toMembers

def Field.ofJson? (value : Json) : Option Field := do
  let members ← value.asMembers?
  let id ← member? asString? "id" members
  let attributes ← Attributes.ofMembers? members
  some (attributes.withId ⟨id⟩)

end ConfigSchema
