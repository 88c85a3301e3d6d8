import ConfigSchema.Forest
import ConfigSchema.Schema.Document
import ConfigSchema.Validation.Violation

/-! Reports on values: of one field, against a node of a schema, and of a whole configuration, whose values
stand under the dot paths of their fields. -/

namespace ConfigSchema

/-- The errors that were found; a report is valid when there are none. -/
structure Report where
  errors : List String
  deriving DecidableEq

namespace Report

def isValid (report : Report) : Bool := report.errors.isEmpty

def valid : Report := ⟨[]⟩

def ofViolations (violations : List Violation) : Report := ⟨violations.map Violation.message⟩

def toJson (report : Report) : Json :=
  .object [("isValid", .bool report.isValid), ("errors", .ofStrings report.errors)]

end Report

def Kind.report [Pattern.Engine] (kind : Kind) (value : Json) : Report := .ofViolations (kind.violations value)

/-- Reports on a value against a node of a schema. A node without a type accepts everything. -/
def Report.againstNode [Pattern.Engine] (value node : Json) : Report :=
  if value.isNull || (node.get? "type").isNone then .valid
  else match Kind.ofNode node "" with
    | .ok kind => kind.report value
    | .error reason => ⟨[reason.message]⟩

inductive Issue where
  | missing (path : String)
  | violation (path : String) (cause : Violation)
  deriving DecidableEq

def Issue.message : Issue → String
  | .missing path => path ++ ": Required field is missing"
  | .violation path cause => path ++ ": " ++ cause.message

variable [Pattern.Engine]

namespace Field

def issues (field : Field) (path : String) (value : Option Json) : List Issue :=
  if isBlankValue value then (if field.required then [.missing path] else [])
  else (field.kind.violations (value.getD .null)).map (.violation path)

end Field

namespace Branch

mutual
def issues (values : List (String × Json)) (above : String) : Branch → List Issue
  | mk field children =>
    let path := Path.join above field.name
    field.issues path (Keyed.find? path values) ++ forestIssues values path children

def forestIssues (values : List (String × Json)) (above : String) : Forest → List Issue
  | [] => []
  | branch :: rest => branch.issues values above ++ forestIssues values above rest
end

end Branch

def SchemaTree.report (tree : SchemaTree) (values : List (String × Json)) : Report :=
  ⟨(Branch.forestIssues values "" tree.forest).map Issue.message⟩

end ConfigSchema
