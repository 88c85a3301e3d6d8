import ConfigSchema.Proofs.Sketch.Printing
import ConfigSchema.Validation.Report

/-! What kinds accept. An empty pattern accepts every text, so a kind that was read back accepts what the kind that was
written accepts; and the default value of a kind is always one of its choices and never below its minimum, but the
other rules are not looked at when it is made. -/

namespace ConfigSchema

theorem Kind.defaultValue_settled (kind : Kind) : kind.settled.defaultValue = kind.defaultValue := by
  cases kind <;> rfl

theorem defaultOr_settled (value : Option Json) (kind : Kind) : defaultOr value kind.settled = defaultOr value kind := by
  rw [defaultOr, defaultOr, kind.defaultValue_settled]

variable [Pattern.Engine]

theorem TextRules.patternViolations_filter (rules : TextRules) (text : String) :
    ({ rules with pattern := rules.pattern.filter fun pattern => pattern ≠ "" } : TextRules).patternViolations text =
      rules.patternViolations text := by
  cases given : rules.pattern with
  | none => simp [patternViolations, given]
  | some pattern =>
    by_cases blank : pattern = ""
    · subst blank
      simp [patternViolations, given, Option.filter, Pattern.Engine.compile_empty]
    · simp [patternViolations, given, Option.filter, blank]

namespace Kind

theorem violations_settled (kind : Kind) (value : Json) : kind.settled.violations value = kind.violations value := by
  cases kind with
  | text rules =>
    cases value with
    | string content =>
      have pattern := rules.patternViolations_filter content
      simp only [settled, violations, TextRules.violations, pattern]
      rfl
    | _ => rfl
  | _ => rfl

theorem report_settled (kind : Kind) (value : Json) : kind.settled.report value = kind.report value := by
  rw [report, report, violations_settled]

/-- The value of the kind itself may break the bounds of a length, a pattern or a maximum, and nothing else. -/
theorem violations_defaultValue (kind : Kind) : kind.violations kind.defaultValue =
    match kind with
    | .text rules =>
      let text := rules.choices.head?.getD ""
      rules.minLengthViolations text ++ rules.maxLengthViolations text ++ rules.patternViolations text
    | .number rules => rules.maximumViolations (rules.minimum.getD .zero)
    | _ => [] := by
  cases kind with
  | text rules =>
    have chosen : rules.choiceViolations (rules.choices.head?.getD "") = [] := by
      cases listed : rules.choices <;> simp [TextRules.choiceViolations, listed]
    simp only [defaultValue, violations, TextRules.violations, chosen, List.append_nil]
  | number rules =>
    have least : rules.minimumViolations (rules.minimum.getD .zero) = [] := by
      cases given : rules.minimum <;> simp [NumberRules.minimumViolations, given, Number.less, Binary64.less]
    simp only [defaultValue, violations, NumberRules.violations, least, List.nil_append]
  | _ => rfl

end Kind

end ConfigSchema
