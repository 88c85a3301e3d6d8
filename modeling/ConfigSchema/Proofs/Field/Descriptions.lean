import ConfigSchema.Field.Basic

/-! Descriptions made from names. Underscores become blanks and blanks are trimmed, so nothing may be left of a name.
Main statement: the description made from a name is blank exactly if the name has nothing but underscores and blanks in
it. That upper case makes no blanks, and takes none away, is checked for every entry of the tables of the scripts. -/

namespace ConfigSchema

namespace Text

def blankCodes : List Nat :=
  [0x09, 0x0a, 0x0b, 0x0c, 0x0d, 0x20, 0x85, 0xa0, 0x1680, 0x2000, 0x2001, 0x2002, 0x2003, 0x2004, 0x2005, 0x2006,
    0x2007, 0x2008, 0x2009, 0x200a, 0x2028, 0x2029, 0x202f, 0x205f, 0x3000]

theorem isBlank_iff (c : Char) : isBlank c = true ↔ c.toNat ∈ blankCodes := by
  simp only [isBlank, blankCodes, Bool.or_eq_true, Bool.and_eq_true, decide_eq_true_eq, beq_iff_eq, List.mem_cons,
    List.not_mem_nil, or_false]
  omega

theorem forall_blank (fits : Char → Prop) (checked : ∀ code ∈ blankCodes, fits (Char.ofNat code)) {c : Char}
    (blank : isBlank c = true) : fits c := by
  have fit := checked c.toNat ((isBlank_iff c).mp blank)
  rwa [Char.ofNat_toNat] at fit

theorem not_isBlank_of_isUppercase {c : Char} (upper : isUppercase c = true) : isBlank c = false := by
  have checked : ∀ code ∈ blankCodes, isUppercase (Char.ofNat code) = false := by decide +kernel
  cases blank : isBlank c with
  | false => rfl
  | true =>
    have lower := forall_blank (fun c => isUppercase c = false) checked blank
    exact absurd upper (Bool.eq_false_iff.mp lower)

theorem uppercase_of_isBlank {c : Char} (blank : isBlank c = true) : uppercase c = [c] := by
  have checked : ∀ code ∈ blankCodes, uppercase (Char.ofNat code) = [Char.ofNat code] := by decide +kernel
  exact forall_blank (fun c => uppercase c = [c]) checked blank

theorem not_isBlank_toUpper {c : Char} (small : c.toNat < 128) (filled : isBlank c = false) :
    isBlank c.toUpper = false := by
  have checked : ∀ code < 128, isBlank (Char.ofNat code) = false → isBlank (Char.ofNat code).toUpper = false := by
    decide +kernel
  have own := checked c.toNat small
  rw [Char.ofNat_toNat] at own
  exact own filled

/-- A code that no character has stands for the first character of all. -/
theorem toNat_ofNat_cases (code : Nat) : (Char.ofNat code).toNat = code ∨ (Char.ofNat code).toNat = 0 := by
  by_cases valid : code.isValidChar
  · exact .inl (by rw [Char.ofNat, dif_pos valid]; rfl)
  · exact .inr (by rw [Char.ofNat, dif_neg valid]; rfl)

theorem not_isBlank_shifted {c : Char} (filled : isBlank c = false) :
    isBlank (Char.ofNat (CodePoints.shifted upperTable c.toNat)) = false := by
  have checked : ∀ shift ∈ upperTable, ∀ code ∈ blankCodes,
      shift.run.covers (code - shift.distance : Int).toNat = false := by decide +kernel
  have positive : ∀ code ∈ blankCodes, 0 < code := by decide
  refine Bool.eq_false_iff.mpr fun blank => ?_
  rw [isBlank_iff] at blank
  rcases toNat_ofNat_cases (CodePoints.shifted upperTable c.toNat) with same | first
  · rw [same, CodePoints.shifted, CodePoints.distance] at blank
    split at blank
    · rename_i shift found
      have covered := List.find?_some found
      have back := checked shift (List.mem_of_find?_eq_some found) _ blank
      have above := positive _ blank
      rw [show (((c.toNat + shift.distance : Int).toNat : Int) - shift.distance).toNat = c.toNat by omega,
        covered] at back
      cases back
    · rw [Int.add_zero, Int.toNat_natCast, ← isBlank_iff, filled] at blank
      cases blank
  · exact absurd (positive _ blank) (by omega)

theorem all_isBlank_uppercase (c : Char) : (uppercase c).all isBlank = isBlank c := by
  have many : ∀ entry ∈ upperManyTable, (entry.2.map Char.ofNat).all isBlank = false := by decide +kernel
  cases blank : isBlank c with
  | true => rw [uppercase_of_isBlank blank, List.all_cons, blank, List.all_nil, Bool.and_true]
  | false =>
    unfold uppercase
    split
    · rename_i small
      rw [List.all_cons, not_isBlank_toUpper small blank, Bool.false_and]
    · split
      · rename_i found
        exact many _ (List.mem_of_find?_eq_some found)
      · rw [List.all_cons, not_isBlank_shifted blank, Bool.false_and]

/-- A character that leaves nothing in a description. -/
def isFilling (c : Char) : Bool := c == '_' || isBlank c

def isHollow (name : String) : Bool := name.toList.all isFilling

theorem all_isBlank_dropWhile (text : List Char) : (text.dropWhile isBlank).all isBlank = text.all isBlank := by
  induction text with
  | nil => rfl
  | cons c rest ih =>
    cases blank : isBlank c with
    | true => rw [List.dropWhile_cons_of_pos blank, ih, List.all_cons, blank, Bool.true_and]
    | false => rw [List.dropWhile_cons_of_neg (by simp [blank])]

theorem all_isBlank_trimChars (text : List Char) : (trimChars text).all isBlank = text.all isBlank := by
  rw [trimChars, List.all_reverse, all_isBlank_dropWhile, List.all_reverse, all_isBlank_dropWhile]

end Text

open Text

theorem all_isBlank_spaced (name : List Char) : (spaced name).all isBlank = name.all isFilling := by
  have space : isBlank ' ' = true := by decide
  induction name with
  | nil => rfl
  | cons c rest ih =>
    rw [spaced, List.all_cons, isFilling]
    split
    · rename_i upper
      have other : (c == '_') = false := by
        rw [beq_eq_false_iff_ne]
        rintro rfl
        exact absurd upper (by decide)
      rw [List.all_cons, List.all_cons, not_isBlank_of_isUppercase upper, other, space]
      rfl
    · split
      · rename_i same
        rw [List.all_cons, ih, space, same]
        rfl
      · rename_i other
        rw [List.all_cons, ih, beq_eq_false_iff_ne.mpr other, Bool.false_or]

theorem all_isBlank_capitalized (text : List Char) : (capitalized text).all isBlank = text.all isBlank := by
  cases text with
  | nil => rfl
  | cons c rest => rw [capitalized, List.all_append, all_isBlank_uppercase, List.all_cons]

/-- Something is left of a name unless it has nothing but underscores and blanks in it. -/
theorem isBlankText_describe (name : String) : isBlankText (describe name) = isHollow name := by
  rw [isBlankText, describe, String.toList_ofList, all_isBlank_trimChars, all_isBlank_capitalized,
    all_isBlank_spaced, isHollow]

theorem isBlankText_descriptionOr (description name : String) :
    isBlankText (descriptionOr description name) = (isBlankText description && isHollow name) := by
  unfold descriptionOr
  split
  · rename_i blank
    rw [isBlankText_describe, blank, Bool.true_and]
  · rename_i filled
    rw [Bool.not_eq_true] at filled
    rw [filled, Bool.false_and]

end ConfigSchema
