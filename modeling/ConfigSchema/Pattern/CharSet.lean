import ConfigSchema.Text.Property
import ConfigSchema.Text.Script

/-! Sets of characters, as the brackets and the classes of a pattern describe them, with an estimate of the
room that they take. -/

namespace ConfigSchema.Pattern

inductive CharProperty where
  | alphabetic
  | uppercase
  | lowercase
  | blank
  | digit
  | word
  | emoji
  | ideographic
  | math
  | dash
  | hexDigit
  | categories (letters : List String)
  | script (name : String)
  deriving DecidableEq

namespace CharProperty

def holds : CharProperty → Char → Bool
  | alphabetic, c => Text.isAlphabetic c
  | uppercase, c => Text.isUppercase c
  | lowercase, c => Text.isLowercase c
  | blank, c => Text.isBlank c
  | digit, c => Text.isDigit c
  | word, c => Text.isWordChar c
  | emoji, c => CodePoints.covered Text.emojiTable c
  | ideographic, c => CodePoints.covered Text.ideographicTable c
  | math, c => CodePoints.covered Text.mathTable c
  | dash, c => CodePoints.covered Text.dashTable c
  | hexDigit, c => CodePoints.covered Text.hexDigitTable c
  | categories letters, c => letters.contains (Text.category c)
  | script name, c => Text.script c == name

/-- The number of runs of code points that have the property. The marks and digits of words mostly stand beside
letters. -/
def parts : CharProperty → Nat
  | alphabetic | word => CodePoints.parts Text.alphabeticTable
  | uppercase => CodePoints.parts Text.uppercaseTable
  | lowercase => CodePoints.parts Text.lowercaseTable
  | blank => 10
  | digit => CodePoints.partsNamed Text.categoryTable ["Nd"]
  | emoji => CodePoints.parts Text.emojiTable
  | ideographic => CodePoints.parts Text.ideographicTable
  | math => CodePoints.parts Text.mathTable
  | dash => CodePoints.parts Text.dashTable
  | hexDigit => CodePoints.parts Text.hexDigitTable
  | categories letters => CodePoints.partsNamed Text.categoryTable letters
  | script name => CodePoints.partsNamed Text.scriptTable [name]

end CharProperty

inductive CharSet where
  | none
  | range (first last : Char)
  | property (p : CharProperty)
  | complement (set : CharSet)
  | union (first second : CharSet)
  | intersection (first second : CharSet)
  | difference (first second : CharSet)
  | symmetricDifference (first second : CharSet)
  /-- The set with all characters that differ from one of its own in case only. -/
  | caseless (set : CharSet)
  /-- The same for the unaccented Latin letters alone. -/
  | caselessAscii (set : CharSet)
  deriving DecidableEq

namespace CharSet

def any : CharSet := complement none

def single (c : Char) : CharSet := range c c

def ofRanges (ranges : List (Char × Char)) : CharSet :=
  ranges.foldr (fun ends others => union (range ends.1 ends.2) others) none

def unions (sets : List CharSet) : CharSet := sets.foldr union none

def contains : CharSet → Char → Bool
  | none, _ => false
  | range first last, c => decide (first ≤ c ∧ c ≤ last)
  | property p, c => p.holds c
  | complement set, c => !set.contains c
  | union first second, c => first.contains c || second.contains c
  | intersection first second, c => first.contains c && second.contains c
  | difference first second, c => first.contains c && !second.contains c
  | symmetricDifference first second, c => first.contains c != second.contains c
  | caseless set, c => set.contains c || (Text.sameFold c).any set.contains
  | caselessAscii set, c => set.contains c || set.contains c.toLower || set.contains c.toUpper

/-- The room, in bytes, that a run of code points takes, so that the characters of words take about 20000. -/
def roomOfPart : Nat := 26

def room : CharSet → Nat
  | none => 0
  | range _ last => if last.toNat < 128 then 40 else 280
  | property p => p.parts * roomOfPart
  | complement set => 560 + set.room
  | caseless set => 2 * set.room + 100
  | caselessAscii set => set.room
  | union first second | intersection first second | difference first second
  | symmetricDifference first second => first.room + second.room

end CharSet

end ConfigSchema.Pattern
