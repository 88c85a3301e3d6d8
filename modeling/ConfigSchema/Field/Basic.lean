import ConfigSchema.Field.Kind
import ConfigSchema.Json.Basic
import ConfigSchema.Text.Case
import ConfigSchema.Text.Property

/-! Fields of a schema. The attributes of a field are what an editor can set; the id is given by the tree
that holds the field. What stands in for a description or a default value that was left blank is made from the name
and the kind. Main statement: different serial numbers give different ids. -/

namespace ConfigSchema

structure FieldId where
  text : String
  deriving DecidableEq

def FieldId.ofSerial (serial : Nat) : FieldId := ⟨"field_" ++ Nat.repr serial⟩

@[simp] theorem FieldId.ofSerial_inj {first second : Nat} :
    ofSerial first = ofSerial second ↔ first = second := by
  constructor
  · intro same
    have digits : Nat.toDigits 10 first = Nat.toDigits 10 second := by
      have texts := congrArg (fun id : FieldId => id.text.toList) same
      simpa [ofSerial, Nat.repr] using texts
    have read := congrArg (fun text => Nat.ofDigitChars 10 text 0) digits
    simpa using read
  · exact congrArg ofSerial

structure Attributes where
  name : String
  kind : Kind
  description : String
  required : Bool
  defaultValue : Option Json
  deriving DecidableEq

structure Field extends Attributes where
  id : FieldId
  deriving DecidableEq

def Field.attributes (field : Field) : Attributes := field.toAttributes

def Attributes.withId (attributes : Attributes) (id : FieldId) : Field := { attributes with id }

def spaced : List Char → List Char
  | [] => []
  | c :: rest =>
    if Text.isUppercase c then ' ' :: c :: spaced rest
    else if c = '_' then ' ' :: spaced rest
    else c :: spaced rest

def capitalized : List Char → List Char
  | [] => []
  | c :: rest => Text.uppercase c ++ rest

/-- A description from a name: `maxRetryCount` gives `Max Retry Count`. Blanks are trimmed last, so a name
that begins with an underscore keeps its first word in lower case. -/
def describe (name : String) : String :=
  String.ofList (Text.trimChars (capitalized (spaced name.toList)))

/-- The first choice of a text, the least number, or the empty value of the type. -/
def Kind.defaultValue : Kind → Json
  | .text rules => .string (rules.choices.head?.getD "")
  | .number rules => .number (rules.minimum.getD .zero)
  | .boolean => .bool false
  | .array _ => .array []
  | .object => .object []

def isBlankValue : Option Json → Bool
  | none | some .null => true
  | some (.string text) => text == ""
  | some _ => false

def descriptionOr (description name : String) : String :=
  if Text.isBlankText description then describe name else description

/-- The default value itself, or the one of the kind if it is blank. -/
def defaultOr (value : Option Json) (kind : Kind) : Json :=
  if isBlankValue value then kind.defaultValue else value.getD .null

end ConfigSchema
