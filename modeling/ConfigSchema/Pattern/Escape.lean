import ConfigSchema.Pattern.Property
import ConfigSchema.Pattern.Regex

/-! What a backslash in a pattern introduces. -/

namespace ConfigSchema.Pattern

structure Flags where
  caseless : Bool
  multiline : Bool
  dotAll : Bool
  anyLineEnd : Bool
  unicode : Bool
  verbose : Bool
  deriving DecidableEq

def Flags.initial : Flags := ⟨false, false, false, false, true, false⟩

def skipBlanks (inComment : Bool) : List Char → List Char
  | [] => []
  | c :: rest =>
    if inComment then skipBlanks (c != '\n') rest
    else if Text.isBlank c then skipBlanks false rest
    else if c = '#' then skipBlanks true rest
    else c :: rest

def Flags.skip (flags : Flags) (text : List Char) : List Char :=
  if flags.verbose then skipBlanks false text else text

def Flags.uptoBrace? (flags : Flags) (inComment : Bool) : List Char → Option (List Char × List Char)
  | [] => none
  | c :: rest =>
    if inComment then flags.uptoBrace? (c != '\n') rest
    else if flags.verbose && Text.isBlank c then flags.uptoBrace? false rest
    else if flags.verbose && c == '#' then flags.uptoBrace? true rest
    else if c = '}' then some ([], rest)
    else (flags.uptoBrace? false rest).map fun (inside, after) => (c :: inside, after)

/-- One element of a pattern: a character, a set of characters, or a test. A character written in two
hexadecimal digits stands for a byte if characters are not Unicode. -/
inductive Atom where
  | char (c : Char) (asByte : Bool)
  | set (set : CharSet)
  | test (look : Look)

namespace Atom

def isHexDigit (c : Char) : Bool := c.isDigit || ('a' ≤ c && c ≤ 'f') || ('A' ≤ c && c ≤ 'F')

def hexValue (digits : List Char) : Nat :=
  digits.foldl (fun n c => n * 16 +
    (if c.isDigit then c.toNat - 48 else if c.toNat < 97 then c.toNat - 55 else c.toNat - 87)) 0

/-- The character of a code point; surrogates and what lies beyond the last plane are refused. -/
def ofHex? (digits : List Char) (asByte : Bool) : Option Atom :=
  let code := hexValue digits
  if digits.isEmpty || !digits.all isHexDigit then none
  else if code.isValidChar then some (char (Char.ofNat code) asByte) else none

def hexDigits? (flags : Flags) : Nat → List Char → Option (List Char × List Char)
  | 0, text => some ([], text)
  | count + 1, text =>
    match flags.skip text with
    | [] => none
    | c :: rest =>
      if isHexDigit c then (hexDigits? flags count rest).map fun (digits, after) => (c :: digits, after)
      else none

def hexadecimal? (flags : Flags) (count : Nat) (text : List Char) : Option (Atom × List Char) := do
  match flags.skip text with
  | '{' :: rest =>
    let (digits, after) ← flags.uptoBrace? false rest
    some (← ofHex? digits false, after)
  | digits =>
    let (digits, after) ← hexDigits? flags count digits
    some (← ofHex? digits (count == 2), after)

/-- The parts of a text before and after the first place where a separator stands. -/
def cutAt? (separator : List Char) : List Char → Option (List Char × List Char)
  | [] => none
  | c :: rest =>
    if separator.isPrefixOf (c :: rest) then some ([], (c :: rest).drop separator.length)
    else (cutAt? separator rest).map fun (before, after) => (c :: before, after)

def query? (name : List Char) : Option (CharSet × Bool) :=
  let valued (parts : List Char × List Char) :=
    Property.ofNameValue? (String.ofList parts.1) (String.ofList parts.2)
  match cutAt? ['!', '='] name with
  | some parts => (valued parts).map (·, true)
  | none =>
    match (cutAt? [':'] name).or (cutAt? ['='] name) with
    | some parts => (valued parts).map (·, false)
    | none => (Property.ofName? (String.ofList name)).map (·, false)

def property? (flags : Flags) (negated : Bool) (text : List Char) : Option (Atom × List Char) := do
  let (name, after) ← match flags.skip text with
    | [] | '\\' :: _ => none
    | '{' :: rest => flags.uptoBrace? false rest
    | c :: rest => some ([c], rest)
  let (plain, opposite) ← query? name
  let folded := if flags.caseless then CharSet.caseless plain else plain
  if flags.unicode then some (.set (if negated != opposite then .complement folded else folded), after)
  else none

def asciiDigit : CharSet := .range '0' '9'
def asciiSpace : CharSet := .ofRanges [('\t', '\r'), (' ', ' ')]
def asciiWord : CharSet := .ofRanges [('0', '9'), ('A', 'Z'), ('_', '_'), ('a', 'z')]

def wordSet (flags : Flags) : CharSet := if flags.unicode then .property .word else asciiWord

def orComplement? (flags : Flags) (negated : Bool) (wide plain : CharSet) : Option Atom :=
  if flags.unicode then some (.set (if negated then .complement wide else wide))
  else if negated then none else some (.set plain)

/-- The name in braces after a boundary, if one is meant: a brace that no letter follows belongs to a
repetition. -/
def boundaryName? (flags : Flags) (text : List Char) : Option (Option (List Char × List Char)) :=
  let isNameChar (c : Char) : Bool := c.isAlpha || c == '-'
  match text with
  | '{' :: rest =>
    match flags.skip rest with
    | [] => none
    | c :: _ => if isNameChar c then (flags.uptoBrace? false rest).map some else some none
  | _ => some none

def boundary? (flags : Flags) (text : List Char) : Option (Atom × List Char) := do
  let word := wordSet flags
  match ← boundaryName? flags text with
  | none => some (.test (.wordBoundary word), text)
  | some (name, after) =>
    match String.ofList name with
    | "start" => some (.test (.wordStart word), after)
    | "end" => some (.test (.wordEnd word), after)
    | "start-half" => some (.test (.wordStartHalf word), after)
    | "end-half" => some (.test (.wordEndHalf word), after)
    | _ => none

def escaped? (flags : Flags) : List Char → Option (Atom × List Char)
  | [] => none
  | c :: rest =>
    match c with
    | 'x' => hexadecimal? flags 2 rest
    | 'u' => hexadecimal? flags 4 rest
    | 'U' => hexadecimal? flags 8 rest
    | 'p' => property? flags false rest
    | 'P' => property? flags true rest
    | 'd' => (orComplement? flags false (.property .digit) asciiDigit).map (·, rest)
    | 'D' => (orComplement? flags true (.property .digit) asciiDigit).map (·, rest)
    | 's' => (orComplement? flags false (.property .blank) asciiSpace).map (·, rest)
    | 'S' => (orComplement? flags true (.property .blank) asciiSpace).map (·, rest)
    | 'w' => (orComplement? flags false (.property .word) asciiWord).map (·, rest)
    | 'W' => (orComplement? flags true (.property .word) asciiWord).map (·, rest)
    | 'a' => some (.char '\x07' false, rest)
    | 'f' => some (.char '\x0c' false, rest)
    | 't' => some (.char '\t' false, rest)
    | 'n' => some (.char '\n' false, rest)
    | 'r' => some (.char '\r' false, rest)
    | 'v' => some (.char '\x0b' false, rest)
    | 'A' => some (.test .textStart, rest)
    | 'z' => some (.test .textEnd, rest)
    | 'b' => boundary? flags rest
    | 'B' => some (.test (.noWordBoundary (wordSet flags)), rest)
    | '<' => some (.test (.wordStart (wordSet flags)), rest)
    | '>' => some (.test (.wordEnd (wordSet flags)), rest)
    | _ => if c.toNat < 128 && !c.isAlphanum then some (.char c false, rest) else none

end Atom

end ConfigSchema.Pattern
