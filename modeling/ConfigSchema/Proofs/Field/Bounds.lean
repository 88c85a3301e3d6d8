import ConfigSchema.Pattern.Reader
import ConfigSchema.Proofs.Decimal.Rounding
import ConfigSchema.Validation.Report

/-! Bounds of whole numbers. A number and its bound are compared as floating point numbers, which have 53 binary digits.
Main statement: a whole number within its bounds is never refused, and one beyond a bound is let through exactly if the
two round to the same number, for which both must have more than 53 digits. -/

namespace ConfigSchema

open Binary64

theorem Integer64.log2_le (n : Integer64) : n.value.natAbs.log2 ≤ 63 := by
  have range := n.inRange
  rcases Nat.eq_zero_or_pos n.value.natAbs with nothing | positive
  · rw [nothing]
    decide
  · have digits : n.value.natAbs.log2 < 64 := (Nat.log2_lt (by omega)).mpr (by omega)
    omega

theorem Number.units_integer (n : Integer64) :
    (Number.integer n).toBinary64.units = rounded n.value * unitsOfOne := by
  have digits := n.log2_le
  obtain ⟨x, made, units⟩ := exists_ofInt? (show n.value.natAbs.log2 < 1023 by omega)
  rw [toBinary64, made, Option.getD_some, units]

theorem Number.less_integer (n m : Integer64) :
    Number.less (.integer n) (.integer m) = decide (rounded n.value < rounded m.value) := by
  rw [less, Binary64.less, units_integer, units_integer, decide_eq_decide]
  exact Int.mul_lt_mul_right (Int.natCast_pos.mpr unitsOfOne_pos)

namespace Integer64

theorem rounded_near (n : Integer64) : (n.value - rounded n.value).natAbs ≤ 1024 := by
  have near := (isNearest_rounded n.value).near
  have digits := n.log2_le
  have grid : spacing n.value.natAbs ≤ 2048 := Nat.pow_le_pow_right (by decide) (show _ ≤ 11 by omega)
  omega

theorem rounded_eq_of_not_lt {n m : Integer64} (less : n.value < m.value)
    (lost : ¬rounded n.value < rounded m.value) :
    rounded n.value = rounded m.value ∧ 2 ^ 53 ≤ n.value.natAbs ∧ 2 ^ 53 ≤ m.value.natAbs ∧
      m.value - n.value ≤ 2048 := by
  have order := rounded_mono (Int.le_of_lt less)
  have same : rounded n.value = rounded m.value := by omega
  have large : ¬(n.value.natAbs < 2 ^ 53 ∨ m.value.natAbs < 2 ^ 53) :=
    fun small => lost ((rounded_lt_iff small).mpr less)
  have first := n.rounded_near
  have second := m.rounded_near
  exact ⟨same, by omega, by omega, by omega⟩

def Within (least most : Option Integer64) (n : Integer64) : Prop :=
  (∀ bound ∈ least, bound.value ≤ n.value) ∧ ∀ bound ∈ most, n.value ≤ bound.value

end Integer64

def Integer64.noted (bound : Option Integer64) (breaks : Integer64 → Bool) (note : Integer64 → Violation) :
    List Violation := ((bound.filter breaks).map note).toList

theorem Integer64.mem_noted_iff {bound : Option Integer64} {breaks : Integer64 → Bool}
    {note : Integer64 → Violation} {violation : Violation} :
    violation ∈ noted bound breaks note ↔ ∃ m ∈ bound, violation = note m ∧ breaks m = true := by
  rw [noted, Option.mem_toList, Option.map_eq_some_iff]
  constructor
  · rintro ⟨m, kept, rfl⟩
    obtain ⟨given, broken⟩ := Option.filter_eq_some_iff.mp kept
    exact ⟨m, given, rfl, broken⟩
  · rintro ⟨m, given, rfl, broken⟩
    exact ⟨m, Option.filter_eq_some_iff.mpr ⟨given, broken⟩, rfl⟩

namespace Kind

variable (n : Integer64) (least most : Option Integer64)

def between : Kind := .number ⟨least.map .integer, most.map .integer⟩

variable [Pattern.Engine]

theorem violations_between : (between least most).violations (.number (.integer n)) =
    Integer64.noted least (fun m => rounded n.value < rounded m.value)
      (fun m => .belowMinimum (.integer n) (.integer m)) ++
    Integer64.noted most (fun m => rounded m.value < rounded n.value)
      (fun m => .aboveMaximum (.integer n) (.integer m)) := by
  show NumberRules.minimumViolations _ _ ++ NumberRules.maximumViolations _ _ = _
  congr 1
  · cases least with
    | none => rfl
    | some m =>
      by_cases less : rounded n.value < rounded m.value <;>
        simp [NumberRules.minimumViolations, Integer64.noted, Number.less_integer, Option.filter, less]
  · cases most with
    | none => rfl
    | some m =>
      by_cases less : rounded m.value < rounded n.value <;>
        simp [NumberRules.maximumViolations, Integer64.noted, Number.less_integer, Option.filter, less]

theorem isValid_between_iff : ((between least most).report (.number (.integer n))).isValid = true ↔
    (∀ m ∈ least, rounded m.value ≤ rounded n.value) ∧ ∀ m ∈ most, rounded n.value ≤ rounded m.value := by
  simp [report, Report.ofViolations, Report.isValid, violations_between, Integer64.noted, Option.filter_eq_none_iff]

/-- Whole numbers are compared with the bounds of a field as far as their first 53 binary digits go, rounded to the
nearest and half to even. So what keeps to the bounds is never refused; and what breaks a bound without a word has, as
the bound has, more than 53 digits, and lies at most 2048 beyond it. -/
theorem integer_bounds : let kind := between least most
    (∀ bound, .belowMinimum (.integer n) bound ∈ kind.violations (.number (.integer n)) ↔
      ∃ m ∈ least, bound = .integer m ∧ rounded n.value < rounded m.value) ∧
    (∀ bound, .aboveMaximum (.integer n) bound ∈ kind.violations (.number (.integer n)) ↔
      ∃ m ∈ most, bound = .integer m ∧ rounded m.value < rounded n.value) ∧
    (n.Within least most → (kind.report (.number (.integer n))).isValid = true) ∧
    ((kind.report (.number (.integer n))).isValid = true → ¬n.Within least most →
      ∃ m, (m ∈ least ∧ n.value < m.value ∨ m ∈ most ∧ m.value < n.value) ∧ rounded m.value = rounded n.value ∧
        2 ^ 53 ≤ m.value.natAbs ∧ 2 ^ 53 ≤ n.value.natAbs ∧ (m.value - n.value).natAbs ≤ 2048) ∧
    ∀ m : Integer64, IsNearest (2 ^ (m.value.natAbs.log2 - 52)) m.value (rounded m.value) := by
  intro kind
  refine ⟨fun bound => ?_, fun bound => ?_, ?_, ?_, fun m => isNearest_rounded m.value⟩
  · simp [kind, violations_between, Integer64.mem_noted_iff]
  · simp [kind, violations_between, Integer64.mem_noted_iff]
  · rintro ⟨lower, upper⟩
    exact (isValid_between_iff n least most).mpr
      ⟨fun bound given => rounded_mono (lower bound given), fun bound given => rounded_mono (upper bound given)⟩
  · intro valid broken
    obtain ⟨lower, upper⟩ := (isValid_between_iff n least most).mp valid
    rw [Integer64.Within, not_and_or] at broken
    push Not at broken
    rcases broken with ⟨m, given, less⟩ | ⟨m, given, less⟩
    · obtain ⟨same, first, second, near⟩ := Integer64.rounded_eq_of_not_lt less (Int.not_lt.mpr (lower m given))
      exact ⟨m, .inl ⟨given, less⟩, same.symm, second, first, by omega⟩
    · obtain ⟨same, first, second, near⟩ := Integer64.rounded_eq_of_not_lt less (Int.not_lt.mpr (upper m given))
      exact ⟨m, .inr ⟨given, less⟩, same, first, second, by omega⟩

end Kind

namespace Integer64

/-- The greatest whole number below which no floating point number is left out. -/
def brink : Integer64 := ⟨9007199254740992, by decide⟩

def beyond : Integer64 := ⟨9007199254740993, by decide⟩

end Integer64

theorem Kind.excess_unreported : Integer64.brink.value < Integer64.beyond.value ∧
    ((between none (some .brink)).report (.number (.integer .beyond))).errors = [] := by
  decide +kernel

theorem Kind.integer_bounds_of_beyond :
    Integer64.brink.Within (some .brink) (some .beyond) ∧
    ((between (some .brink) (some .beyond)).report (.number (.integer .brink))).isValid = true ∧
    ¬Integer64.beyond.Within none (some .brink) ∧
    ∃ m ∈ some Integer64.brink, m.value < Integer64.beyond.value ∧
      rounded m.value = rounded Integer64.beyond.value := by
  have within : Integer64.brink.Within (some .brink) (some .beyond) := by
    constructor <;> rintro bound ⟨⟩ <;> decide
  have outside : ¬Integer64.beyond.Within none (some .brink) :=
    fun kept => absurd (kept.2 .brink rfl) (by decide)
  obtain ⟨_, _, kept, _⟩ := integer_bounds .brink (some .brink) (some .beyond)
  obtain ⟨_, _, _, slipped, _⟩ := integer_bounds .beyond none (some .brink)
  obtain ⟨m, broken, same, _⟩ := slipped (by decide +kernel) outside
  rcases broken with ⟨given, _⟩ | ⟨given, less⟩
  · cases given
  · exact ⟨within, kept within, outside, m, given, less, same⟩

end ConfigSchema
