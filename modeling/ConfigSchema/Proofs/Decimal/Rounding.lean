import ConfigSchema.Decimal.Binary64
import Mathlib.Data.Nat.Log
import Mathlib.Tactic.Ring

/-! Whole numbers as floating point numbers. A whole number keeps its first 53 binary digits and is rounded to the
spacing that these leave. Main statements: rounding never turns two whole numbers around, changes none of up to 53
digits, and is what the number of 64 bits nearest to a whole number comes to. -/

namespace ConfigSchema.Binary64

/-- The rounded quotient is at most half a denominator away, and even when it is just that. -/
theorem nearest_bounds {den : Nat} (positive : 0 < den) (num : Nat) :
    2 * num ≤ 2 * (nearest num den * den) + den ∧ 2 * (nearest num den * den) ≤ 2 * num + den ∧
      (2 * num = 2 * (nearest num den * den) + den ∨ 2 * (nearest num den * den) = 2 * num + den →
        nearest num den % 2 = 0) := by
  have split : num / den * den + num % den = num := Nat.div_add_mod' num den
  have small := Nat.mod_lt num positive
  have next : (num / den + 1) * den = num / den * den + den := Nat.succ_mul _ _
  unfold nearest
  dsimp only
  split_ifs
  · omega
  · rw [next]
    omega
  · omega
  · rw [next]
    omega

theorem nearest_mono {num other : Nat} (order : num ≤ other) (den : Nat) : nearest num den ≤ nearest other den := by
  have wholes : num / den ≤ other / den := Nat.div_le_div_right order
  have first : num / den * den + num % den = num := Nat.div_add_mod' num den
  have second : other / den * den + other % den = other := Nat.div_add_mod' other den
  rcases Nat.lt_or_eq_of_le wholes with less | same
  · have above : nearest num den ≤ num / den + 1 := by
      unfold nearest
      dsimp only
      split_ifs <;> omega
    have below : other / den ≤ nearest other den := by
      unfold nearest
      dsimp only
      split_ifs <;> omega
    omega
  · rw [same] at first
    have rests : num % den ≤ other % den := by omega
    unfold nearest
    dsimp only
    rw [same]
    split_ifs <;> omega

theorem nearest_mul (num : Nat) {den : Nat} (positive : 0 < den) : nearest (num * den) den = num := by
  simp [nearest, Nat.mul_div_cancel num positive, positive]

def spacing (size : Nat) : Nat := 2 ^ (size.log2 - 52)

def roundedSize (size : Nat) : Nat := nearest size (spacing size) * spacing size

theorem spacing_pos (size : Nat) : 0 < spacing size := Nat.two_pow_pos _

/-- A multiple of the spacing is not passed. -/
theorem le_roundedSize {size bound : Nat} (grid : spacing size ∣ bound) (order : bound ≤ size) :
    bound ≤ roundedSize size := by
  obtain ⟨count, rfl⟩ := grid
  have kept := nearest_mono order (spacing size)
  rw [Nat.mul_comm, nearest_mul count (spacing_pos size)] at kept
  rw [Nat.mul_comm, roundedSize]
  exact Nat.mul_le_mul_right _ kept

theorem roundedSize_le {size bound : Nat} (grid : spacing size ∣ bound) (order : size ≤ bound) :
    roundedSize size ≤ bound := by
  obtain ⟨count, rfl⟩ := grid
  have kept := nearest_mono order (spacing size)
  rw [Nat.mul_comm, nearest_mul count (spacing_pos size)] at kept
  rw [Nat.mul_comm, roundedSize]
  exact Nat.mul_le_mul_right _ kept

theorem two_pow_log2_le_roundedSize {size : Nat} (some_size : size ≠ 0) : 2 ^ size.log2 ≤ roundedSize size :=
  le_roundedSize (Nat.pow_dvd_pow 2 (Nat.sub_le _ _)) (Nat.log2_self_le some_size)

theorem roundedSize_le_two_pow (size : Nat) : roundedSize size ≤ 2 ^ (size.log2 + 1) :=
  roundedSize_le (Nat.pow_dvd_pow 2 (by omega)) (Nat.le_of_lt Nat.lt_log2_self)

theorem roundedSize_mono {size other : Nat} (order : size ≤ other) : roundedSize size ≤ roundedSize other := by
  rcases Nat.eq_zero_or_pos size with rfl | positive
  · rw [show roundedSize 0 = 0 by rfl]
    exact Nat.zero_le _
  · have filled : other ≠ 0 := by omega
    have digits : size.log2 ≤ other.log2 := by
      rw [Nat.le_log2 filled]
      exact (Nat.log2_self_le (by omega)).trans order
    rcases Nat.lt_or_eq_of_le digits with fewer | same
    · calc roundedSize size
        _ ≤ 2 ^ (size.log2 + 1) := roundedSize_le_two_pow size
        _ ≤ 2 ^ other.log2 := Nat.pow_le_pow_right (by decide) fewer
        _ ≤ roundedSize other := two_pow_log2_le_roundedSize filled
    · have grid : spacing size = spacing other := by rw [spacing, spacing, same]
      rw [roundedSize, roundedSize, grid]
      exact Nat.mul_le_mul_right _ (nearest_mono order _)

theorem roundedSize_of_le {size : Nat} (small : size ≤ 2 ^ 53) : roundedSize size = size := by
  rcases Nat.lt_or_eq_of_le small with less | rfl
  · have digits : size.log2 ≤ 52 := by
      rcases Nat.eq_zero_or_pos size with rfl | positive
      · decide
      · have bound := (Nat.log2_lt (by omega)).mpr less
        omega
    have single : spacing size = 1 := by rw [spacing, Nat.sub_eq_zero_of_le digits, Nat.pow_zero]
    have whole := nearest_mul size Nat.one_pos
    rw [Nat.mul_one] at whole
    rw [roundedSize, single, whole, Nat.mul_one]
  · decide +kernel

def rounded (value : Int) : Int := if value < 0 then -(roundedSize value.natAbs : Int) else roundedSize value.natAbs

/-- The multiple of the spacing that is nearest to a value; of two that are equally near, the even one. -/
structure IsNearest (spacing : Nat) (value multiple : Int) : Prop where
  grid : (spacing : Int) ∣ multiple
  near : 2 * (value - multiple).natAbs ≤ spacing
  even : 2 * (value - multiple).natAbs = spacing → (2 * spacing : Int) ∣ multiple

theorem isNearest_rounded (value : Int) : IsNearest (spacing value.natAbs) value (rounded value) := by
  obtain ⟨below, above, tie⟩ := nearest_bounds (spacing_pos value.natAbs) value.natAbs
  have size : roundedSize value.natAbs = nearest value.natAbs (spacing value.natAbs) * spacing value.natAbs := rfl
  have grid : (spacing value.natAbs : Int) ∣ (roundedSize value.natAbs : Int) :=
    Int.natCast_dvd_natCast.mpr (Nat.dvd_mul_left _ _)
  have even : nearest value.natAbs (spacing value.natAbs) % 2 = 0 →
      (2 * spacing value.natAbs : Int) ∣ (roundedSize value.natAbs : Int) := by
    intro half
    have twice : 2 * spacing value.natAbs ∣ roundedSize value.natAbs :=
      Nat.mul_dvd_mul (Nat.dvd_of_mod_eq_zero half) (Nat.dvd_refl _)
    exact_mod_cast twice
  rw [← size] at below above tie
  unfold rounded
  split_ifs with negative
  · refine ⟨Int.dvd_neg.mpr grid, ?_, fun same => Int.dvd_neg.mpr (even (tie ?_))⟩ <;> omega
  · refine ⟨grid, ?_, fun same => even (tie ?_)⟩ <;> omega

theorem rounded_mono {value other : Int} (order : value ≤ other) : rounded value ≤ rounded other := by
  unfold rounded
  split_ifs with first second
  · have sizes := roundedSize_mono (show other.natAbs ≤ value.natAbs by omega)
    omega
  · omega
  · omega
  · have sizes := roundedSize_mono (show value.natAbs ≤ other.natAbs by omega)
    omega

theorem rounded_of_small {value : Int} (small : value.natAbs ≤ 2 ^ 53) : rounded value = value := by
  rw [rounded, roundedSize_of_le small]
  split_ifs <;> omega

theorem rounded_lt_iff {value other : Int} (small : value.natAbs < 2 ^ 53 ∨ other.natAbs < 2 ^ 53) :
    rounded value < rounded other ↔ value < other := by
  constructor
  · intro less
    by_contra order
    exact absurd (rounded_mono (Int.not_lt.mp order)) (Int.not_le.mpr less)
  · intro less
    rcases small with small | small
    · have same : rounded value = value := rounded_of_small (by omega)
      have next : rounded (value + 1) = value + 1 := rounded_of_small (by omega)
      have order : rounded (value + 1) ≤ rounded other := rounded_mono less
      omega
    · have same : rounded other = other := rounded_of_small (by omega)
      have next : rounded (other - 1) = other - 1 := rounded_of_small (by omega)
      have order : rounded value ≤ rounded (other - 1) := rounded_mono (by omega)
      omega

def unitsOfOne : Nat := 2 ^ 1074

theorem unitsOfOne_pos : 0 < unitsOfOne := pow_pos (by decide) 1074

theorem binade_one {size : Nat} (some_size : size ≠ 0) : binade size 1 = size.log2 := by
  have reached : 1 * Nat.pow 2 size.log2 ≤ size * Nat.pow 2 0 := by
    simpa using Nat.log2_self_le some_size
  have none_left : Nat.log2 1 = 0 := by decide
  unfold binade
  simpa [none_left] using reached

theorem ofParts?_of_canonical (negative : Bool) {significand : Nat} {exponent : Int}
    (canonical : Canonical significand exponent) :
    ofParts? negative significand exponent = some ⟨negative, significand, exponent, canonical⟩ := dif_pos canonical

def firstDigits (size : Nat) : Nat := nearest (size * 2 ^ (52 - size.log2)) (2 ^ (size.log2 - 52))

theorem le_firstDigits {size : Nat} (some_size : size ≠ 0) : 2 ^ 52 ≤ firstDigits size := by
  have least : 2 ^ size.log2 ≤ size := Nat.log2_self_le some_size
  have sum : 52 + (size.log2 - 52) = size.log2 + (52 - size.log2) := by omega
  have order : 2 ^ 52 * 2 ^ (size.log2 - 52) ≤ size * 2 ^ (52 - size.log2) := by
    calc 2 ^ 52 * 2 ^ (size.log2 - 52)
      _ = 2 ^ size.log2 * 2 ^ (52 - size.log2) := by
        rw [← pow_add, ← pow_add, sum]
      _ ≤ size * 2 ^ (52 - size.log2) := Nat.mul_le_mul_right _ least
  have kept := nearest_mono order (2 ^ (size.log2 - 52))
  rwa [nearest_mul _ (Nat.two_pow_pos _)] at kept

theorem firstDigits_le (size : Nat) : firstDigits size ≤ 2 ^ 53 := by
  have greatest : size ≤ 2 ^ (size.log2 + 1) := Nat.le_of_lt Nat.lt_log2_self
  have sum : size.log2 + 1 + (52 - size.log2) = 53 + (size.log2 - 52) := by omega
  have order : size * 2 ^ (52 - size.log2) ≤ 2 ^ 53 * 2 ^ (size.log2 - 52) := by
    calc size * 2 ^ (52 - size.log2)
      _ ≤ 2 ^ (size.log2 + 1) * 2 ^ (52 - size.log2) := Nat.mul_le_mul_right _ greatest
      _ = 2 ^ 53 * 2 ^ (size.log2 - 52) := by
        rw [← pow_add, ← pow_add, sum]
  have kept := nearest_mono order (2 ^ (size.log2 - 52))
  rwa [nearest_mul _ (Nat.two_pow_pos _)] at kept

theorem firstDigits_mul (size : Nat) : firstDigits size * 2 ^ (size.log2 + 1022) = roundedSize size * unitsOfOne := by
  rcases Nat.lt_or_ge 52 size.log2 with far | close
  · have whole : 52 - size.log2 = 0 := by omega
    have sum : size.log2 + 1022 = size.log2 - 52 + 1074 := by omega
    have places : 2 ^ (size.log2 + 1022) = 2 ^ (size.log2 - 52) * unitsOfOne := by
      rw [sum, pow_add, unitsOfOne]
    rw [firstDigits, roundedSize, spacing, whole, Nat.pow_zero, Nat.mul_one, Nat.mul_assoc, places]
  · have single : size.log2 - 52 = 0 := by omega
    have filled : nearest (size * 2 ^ (52 - size.log2)) 1 = size * 2 ^ (52 - size.log2) := by
      simpa using nearest_mul (size * 2 ^ (52 - size.log2)) Nat.one_pos
    have kept : nearest size 1 = size := by simpa using nearest_mul size Nat.one_pos
    have sum : 52 - size.log2 + (size.log2 + 1022) = 1074 := by omega
    have places : 2 ^ (52 - size.log2) * 2 ^ (size.log2 + 1022) = unitsOfOne := by
      rw [← pow_add, sum, unitsOfOne]
    rw [firstDigits, roundedSize, spacing, single, Nat.pow_zero, filled, kept, Nat.mul_one, Nat.mul_assoc, places]

theorem exists_ofRatio?_one (negative : Bool) {size : Nat} (some_size : size ≠ 0) (bound : size.log2 < 1023) :
    ∃ x, ofRatio? negative size 1 = some x ∧ x.negative = negative ∧
      x.significand * 2 ^ (x.exponent + 1074).toNat = roundedSize size * unitsOfOne := by
  have exponent : max (binade size 1 - 52) (-1074) = (size.log2 : Int) - 52 := by
    rw [binade_one some_size]
    omega
  have up : (-((size.log2 : Int) - 52)).toNat = 52 - size.log2 := by omega
  have down : ((size.log2 : Int) - 52).toNat = size.log2 - 52 := by omega
  have digits : nearest (size * Nat.pow 2 (52 - size.log2)) (1 * Nat.pow 2 (size.log2 - 52)) = firstDigits size := by
    rw [Nat.one_mul]
    rfl
  have least := le_firstDigits some_size
  have greatest := firstDigits_le size
  have value := firstDigits_mul size
  unfold ofRatio?
  simp only [if_neg some_size, exponent, up, down, digits]
  split_ifs with carry
  · -- All ones were rounded up, and the digit that came in front goes into the exponent.
    have canonical : Canonical 4503599627370496 ((size.log2 : Int) - 52 + 1) := by
      refine ⟨by decide, ?_, ?_, .inl (by decide)⟩ <;> omega
    refine ⟨_, ofParts?_of_canonical negative canonical, rfl, ?_⟩
    have places : ((size.log2 : Int) - 52 + 1 + 1074).toNat = size.log2 + 1022 + 1 := by omega
    have twice : 2 ^ (size.log2 + 1022 + 1) = 2 ^ (size.log2 + 1022) * 2 := Nat.pow_succ ..
    rw [carry] at value
    simp only [places]
    omega
  · have canonical : Canonical (firstDigits size) ((size.log2 : Int) - 52) := by
      refine ⟨?_, ?_, ?_, .inl ?_⟩ <;> omega
    refine ⟨_, ofParts?_of_canonical negative canonical, rfl, ?_⟩
    have places : ((size.log2 : Int) - 52 + 1074).toNat = size.log2 + 1022 := by omega
    simp only [places]
    exact value

/-- The number of 64 bits that a whole number becomes is the rounded whole number. -/
theorem exists_ofInt? {value : Int} (bound : value.natAbs.log2 < 1023) :
    ∃ x, ofInt? value = some x ∧ x.units = rounded value * unitsOfOne := by
  by_cases zero : value = 0
  · subst zero
    refine ⟨.zero false, rfl, ?_⟩
    rw [rounded_of_small (by decide), Int.zero_mul]
    rfl
  · have some_size : value.natAbs ≠ 0 := by omega
    obtain ⟨x, made, sign, size⟩ := exists_ofRatio?_one (decide (value < 0)) some_size bound
    refine ⟨x, made, ?_⟩
    have magnitude : ((x.significand * Nat.pow 2 (x.exponent + 1074).toNat : Nat) : Int) =
        roundedSize value.natAbs * unitsOfOne := by exact_mod_cast size
    unfold units rounded
    simp only [magnitude, sign, decide_eq_true_eq]
    split_ifs
    · rw [Int.neg_mul]
    · rfl

end ConfigSchema.Binary64
