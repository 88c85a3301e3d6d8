import ConfigSchema.Pattern.CharSet

/-! Regular expressions over characters with tests of the surroundings, and the search for a match anywhere
in a text. The search keeps what is left to match of every match that has begun, one character at a time,
so that its time does not depend on choices. -/

namespace ConfigSchema.Pattern

/-- A test of the two characters around a place, either of which may be missing. -/
inductive Look where
  | textStart
  | textEnd
  | lineStart
  | lineEnd
  /-- Lines may also end in a carriage return, with a line feed or without. -/
  | anyLineStart
  | anyLineEnd
  | wordBoundary (word : CharSet)
  | noWordBoundary (word : CharSet)
  | wordStart (word : CharSet)
  | wordEnd (word : CharSet)
  | wordStartHalf (word : CharSet)
  | wordEndHalf (word : CharSet)
  deriving DecidableEq

namespace Look

def within (set : CharSet) (c : Option Char) : Bool := c.any set.contains

def holds (before after : Option Char) : Look → Bool
  | textStart => before.isNone
  | textEnd => after.isNone
  | lineStart => before.all (· == '\n')
  | lineEnd => after.all (· == '\n')
  | anyLineStart =>
    match before with
    | none | some '\n' => true
    | some '\r' => after != some '\n'
    | some _ => false
  | anyLineEnd =>
    match after with
    | none | some '\r' => true
    | some '\n' => before != some '\r'
    | some _ => false
  | wordBoundary word => within word before != within word after
  | noWordBoundary word => within word before == within word after
  | wordStart word => !within word before && within word after
  | wordEnd word => within word before && !within word after
  | wordStartHalf word => !within word before
  | wordEndHalf word => !within word after

end Look

inductive Regex where
  | never
  | empty
  | oneOf (set : CharSet)
  | test (look : Look)
  | seq (first second : Regex)
  | choice (first second : Regex)
  /-- At least `least` times, and at most `most` times if there is a limit. -/
  | repeated (body : Regex) (least : Nat) (most : Option Nat)
  deriving DecidableEq

namespace Regex

def followedBy : Regex → Regex → Regex
  | empty, second => second
  | first, empty => first
  | first, second => seq first second

def sequence (pieces : List Regex) : Regex := pieces.foldr followedBy empty

def choices : List Regex → Regex
  | [] => never
  | [only] => only
  | first :: rest => choice first (choices rest)

def nullable (before after : Option Char) : Regex → Bool
  | never | oneOf _ => false
  | empty => true
  | test look => look.holds before after
  | seq first second => first.nullable before after && second.nullable before after
  | choice first second => first.nullable before after || second.nullable before after
  | repeated body least _ => least == 0 || body.nullable before after

/-- What may be left to match once a character has been read. A repetition whose body matches the empty
text here may count any number of rounds as done. -/
def derivatives (before : Option Char) (c : Char) : Regex → List Regex
  | never | empty | test _ => []
  | oneOf set => if set.contains c then [empty] else []
  | seq first second =>
    let through := (first.derivatives before c).map (followedBy · second)
    if first.nullable before (some c) then through ++ second.derivatives before c else through
  | choice first second => first.derivatives before c ++ second.derivatives before c
  | repeated body least most =>
    if most = some 0 then []
    else
      let left := if body.nullable before (some c) then 0 else least - 1
      (body.derivatives before c).map (followedBy · (repeated body left (most.map (· - 1))))

def searchFrom (whole : Regex) (before : Option Char) (begun : List Regex) : List Char → Bool
  | [] => (whole :: begun).any (·.nullable before none)
  | c :: rest =>
    (whole :: begun).any (·.nullable before (some c)) ||
      searchFrom whole (some c) ((whole :: begun).flatMap (·.derivatives before c)).eraseDups rest

def occursIn (whole : Regex) (text : String) : Bool := whole.searchFrom none [] text.toList

def room : Regex → Nat
  | never | empty | test _ => 32
  | oneOf set => set.room
  | seq first second => first.room + second.room
  | choice first second => first.room + second.room + 72
  | repeated body least most =>
    match most with
    | none => body.room * max least 1 + 72
    | some most => body.room * most + 72 * (most - least)

end Regex

end ConfigSchema.Pattern
