import ConfigSchema.Json.Number

/-! Kinds of fields. A kind carries the rules that its type allows and no others, so a boolean has no
pattern and a text no minimum. -/

namespace ConfigSchema

inductive TypeName where
  | string
  | number
  | boolean
  | array
  | object
  deriving DecidableEq

namespace TypeName

def text : TypeName → String
  | .string => "string"
  | .number => "number"
  | .boolean => "boolean"
  | .array => "array"
  | .object => "object"

def all : List TypeName := [.string, .number, .boolean, .array, .object]

def ofText? (text : String) : Option TypeName := all.find? (fun type => type.text == text)

@[simp] theorem ofText?_text (type : TypeName) : ofText? type.text = some type := by
  cases type <;> decide

end TypeName

/-- The type of the items of an array; arrays do not nest. -/
inductive ItemType where
  | string
  | number
  | boolean
  | object
  deriving DecidableEq

namespace ItemType

def text : ItemType → String
  | .string => "string"
  | .number => "number"
  | .boolean => "boolean"
  | .object => "object"

def all : List ItemType := [.string, .number, .boolean, .object]

def ofText? (text : String) : Option ItemType := all.find? (fun type => type.text == text)

@[simp] theorem ofText?_text (type : ItemType) : ofText? type.text = some type := by
  cases type <;> decide

end ItemType

structure TextRules where
  minLength : Option UInt64
  maxLength : Option UInt64
  pattern : Option String
  choices : List String
  deriving DecidableEq

structure NumberRules where
  minimum : Option Number
  maximum : Option Number
  deriving DecidableEq

def TextRules.free : TextRules := ⟨none, none, none, []⟩

def NumberRules.free : NumberRules := ⟨none, none⟩

inductive Kind where
  | text (rules : TextRules)
  | number (rules : NumberRules)
  | boolean
  | array (item : Option ItemType)
  | object
  deriving DecidableEq

namespace Kind

def type : Kind → TypeName
  | .text _ => .string
  | .number _ => .number
  | .boolean => .boolean
  | .array _ => .array
  | .object => .object

/-- Objects and arrays of objects may hold fields. -/
def holdsFields : Kind → Bool
  | .object | .array (some .object) => true
  | _ => false

/-- The kind without rules. -/
def plain : TypeName → Kind
  | .string => .text .free
  | .number => .number .free
  | .boolean => .boolean
  | .array => .array none
  | .object => .object

def label : Kind → String
  | .array (some item) => "array<" ++ item.text ++ ">"
  | kind => kind.type.text

end Kind

end ConfigSchema
