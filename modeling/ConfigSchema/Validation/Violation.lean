import ConfigSchema.Field.Basic

/-! What a value can do against the kind of its field. Patterns are matched by an engine that comes from outside:
it reads a pattern, or says in its own words why it cannot, and then tells which texts match. Of these answers nothing
is known but that the empty pattern matches every text. -/

namespace ConfigSchema

/-- An engine for regular expressions: it makes the test for a match, or tells what is wrong with the pattern. -/
class Pattern.Engine where
  compile : String → Except String (String → Bool)
  compile_empty : compile "" = .ok fun _ => true

def Json.typeText : Json → String
  | .null => "null"
  | .bool _ => "boolean"
  | .number _ => "number"
  | .string _ => "string"
  | .array _ => "array"
  | .object _ => "object"

inductive Violation where
  | wrongType (expected : TypeName) (actual : String)
  | tooShort (length : Nat) (least : UInt64)
  | tooLong (length : Nat) (most : UInt64)
  | noMatch (pattern : String)
  | invalidPattern (pattern reason : String)
  | notAChoice (text : String) (choices : List String)
  | belowMinimum (number least : Number)
  | aboveMaximum (number most : Number)
  deriving DecidableEq

def Violation.message : Violation → String
  | .wrongType expected actual => "Expected type " ++ expected.text ++ ", but got " ++ actual
  | .tooShort length least =>
    "String length " ++ toString length ++ " is less than minimum " ++ toString least.toNat
  | .tooLong length most => "String length " ++ toString length ++ " exceeds maximum " ++ toString most.toNat
  | .noMatch pattern => "String does not match pattern " ++ pattern
  | .invalidPattern pattern reason => "Invalid pattern " ++ pattern ++ ": " ++ reason
  | .notAChoice text choices =>
    "Value \"" ++ text ++ "\" is not in allowed enum values: " ++ ", ".intercalate choices
  | .belowMinimum number least => "Number " ++ number.text ++ " is less than minimum " ++ least.text
  | .aboveMaximum number most => "Number " ++ number.text ++ " exceeds maximum " ++ most.text

namespace TextRules

def minLengthViolations (rules : TextRules) (text : String) : List Violation :=
  match rules.minLength with
  | some least => if text.length < least.toNat then [.tooShort text.length least] else []
  | none => []

def maxLengthViolations (rules : TextRules) (text : String) : List Violation :=
  match rules.maxLength with
  | some most => if most.toNat < text.length then [.tooLong text.length most] else []
  | none => []

def patternViolations [Pattern.Engine] (rules : TextRules) (text : String) : List Violation :=
  match rules.pattern with
  | some pattern =>
    match Pattern.Engine.compile pattern with
    | .ok occursIn => if occursIn text then [] else [.noMatch pattern]
    | .error reason => [.invalidPattern pattern reason]
  | none => []

def choiceViolations (rules : TextRules) (text : String) : List Violation :=
  if rules.choices.isEmpty || rules.choices.contains text then [] else [.notAChoice text rules.choices]

def violations [Pattern.Engine] (rules : TextRules) (text : String) : List Violation :=
  rules.minLengthViolations text ++ rules.maxLengthViolations text ++ rules.patternViolations text ++
    rules.choiceViolations text

end TextRules

namespace NumberRules

def minimumViolations (rules : NumberRules) (number : Number) : List Violation :=
  match rules.minimum with
  | some least => if number.less least then [.belowMinimum number least] else []
  | none => []

def maximumViolations (rules : NumberRules) (number : Number) : List Violation :=
  match rules.maximum with
  | some most => if most.less number then [.aboveMaximum number most] else []
  | none => []

def violations (rules : NumberRules) (number : Number) : List Violation :=
  rules.minimumViolations number ++ rules.maximumViolations number

end NumberRules

/-- All violations of a value. Null stands for a value that is not set and violates nothing. -/
def Kind.violations [Pattern.Engine] (kind : Kind) (value : Json) : List Violation :=
  match value with
  | .null => []
  | value =>
    match kind, value with
    | .text rules, .string content => rules.violations content
    | .number rules, .number found => rules.violations found
    | _, _ => if kind.type.text = value.typeText then [] else [.wrongType kind.type value.typeText]

end ConfigSchema
