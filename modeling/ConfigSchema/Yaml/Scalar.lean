import ConfigSchema.Json.Basic

/-! Places in a YAML text, and the scalars that stand there: plain ones, which end where the text around them
goes on, and quoted ones. -/

namespace ConfigSchema.Yaml

/-- What is left of a text, and how far into its line it begins. -/
structure Place where
  rest : List Char
  column : Nat

namespace Place

def advance (place : Place) (count : Nat) : Place :=
  ⟨place.rest.drop count, place.column + count⟩

end Place

def isSpace (c : Char) : Bool := c == ' ' || c == '\t'

def isBreak (c : Char) : Bool := c == '\n' || c == '\r'

def endsWord : List Char → Bool
  | [] => true
  | c :: _ => isSpace c || isBreak c

/-- Goes on to the next character that is no blank and in no comment, and tells whether a line ended on the
way. A tab may not indent a line outside brackets. -/
def skip (inFlow fresh crossed inComment : Bool) (column : Nat) : List Char → Option (Bool × Place)
  | [] => some (crossed, ⟨[], 0⟩)
  | c :: rest =>
    if isBreak c then skip inFlow true true false 0 rest
    else if inComment then skip inFlow fresh crossed true (column + 1) rest
    else if c = ' ' then skip inFlow fresh crossed false (column + 1) rest
    else if c = '\t' then
      if fresh && !inFlow then none else skip inFlow fresh crossed false (column + 1) rest
    else if c = '#' then skip inFlow fresh crossed true (column + 1) rest
    else some (crossed, ⟨c :: rest, column⟩)

def Place.toContent (place : Place) (inFlow : Bool) : Option (Bool × Place) :=
  skip inFlow false false false place.column place.rest

def Place.skipSpaces (place : Place) : Place :=
  place.advance (place.rest.takeWhile isSpace).length

def isFlowMark (c : Char) : Bool := c == ',' || c == '[' || c == ']' || c == '{' || c == '}'

def beginsPlain : List Char → Bool
  | [] => false
  | c :: rest =>
    if c == '-' || c == '?' || c == ':' then !endsWord rest
    else !(isFlowMark c || isSpace c || isBreak c || "#&*!|>'\"%@`".toList.contains c)

def plainLine? (inFlow afterSpace : Bool) : List Char → Option (List Char)
  | [] => some []
  | c :: rest =>
    if isBreak c then some []
    else if c = '#' && afterSpace then some []
    else if c = ':' && endsWord rest then some []
    else if inFlow && isFlowMark c then some []
    else if inFlow && c = ':' && (rest.head?.any fun next => isFlowMark next || next == '?') then none
    else (plainLine? inFlow (isSpace c) rest).map (c :: ·)

def dropLastSpaces (text : List Char) : List Char := (text.reverse.dropWhile isSpace).reverse

/-- Over line breaks and the blanks that begin lines: how many lines end, and the place where text goes on.
Tabs count only from the given column on. -/
def nextLine? (indent breaks column : Nat) : List Char → Option (Nat × Place)
  | [] => some (breaks, ⟨[], 0⟩)
  | c :: rest =>
    if c = '\n' then nextLine? indent (breaks + 1) 0 rest
    else if c = '\r' then
      if rest.head? = some '\n' then nextLine? indent breaks 0 rest else nextLine? indent (breaks + 1) 0 rest
    else if c = '\t' && 0 < breaks && column < indent then none
    else if isSpace c then nextLine? indent breaks (column + 1) rest
    else some (breaks, ⟨c :: rest, column⟩)

def fold (breaks : Nat) : List Char := if breaks ≤ 1 then [' '] else List.replicate (breaks - 1) '\n'

def isMark (place : Place) : Bool :=
  place.column == 0 && (match place.rest with
    | '-' :: '-' :: '-' :: rest | '.' :: '.' :: '.' :: rest => endsWord rest
    | _ => false)

def plainLines? (inFlow : Bool) (indent : Nat) : Nat → Place → Option (List Char × Place)
  | 0, _ => none
  | fuel + 1, place => do
    let (breaks, next) ← nextLine? indent 0 place.column place.rest
    if breaks = 0 || next.rest.isEmpty || (!inFlow && next.column < indent) || isMark next then
      some ([], place)
    else
      let line ← plainLine? inFlow true next.rest
      if line.isEmpty then some ([], place)
      else
        let (others, after) ← plainLines? inFlow indent fuel (next.advance line.length)
        some (fold breaks ++ dropLastSpaces line ++ others, after)

def plain? (inFlow : Bool) (indent : Nat) (place : Place) : Option (String × Bool × Place) := do
  let line ← plainLine? inFlow false place.rest
  let stop := place.advance line.length
  let (others, after) ← plainLines? inFlow indent (place.rest.length + 1) stop
  some (String.ofList (dropLastSpaces line ++ others), !others.isEmpty, after)

def quotedBreaks (breaks column : Nat) : List Char → Nat × Place
  | [] => (breaks, ⟨[], column⟩)
  | c :: rest =>
    if c = '\n' then quotedBreaks (breaks + 1) 0 rest
    else if c = '\r' then
      if rest.head? = some '\n' then quotedBreaks breaks 0 rest else quotedBreaks (breaks + 1) 0 rest
    else if isSpace c then quotedBreaks breaks (column + 1) rest
    else (breaks, ⟨c :: rest, column⟩)

def hexValue? (digits : List Char) : Option Nat :=
  digits.foldl (fun value c => value.bind fun n =>
    if c.isDigit then some (n * 16 + (c.toNat - 48))
    else if 'a' ≤ c ∧ c ≤ 'f' then some (n * 16 + (c.toNat - 87))
    else if 'A' ≤ c ∧ c ≤ 'F' then some (n * 16 + (c.toNat - 55))
    else none) (some 0)

def hexChar? (count : Nat) (text : List Char) : Option (Char × Nat) :=
  if text.length < count then none
  else (hexValue? (text.take count)).bind fun code =>
    if code.isValidChar then some (Char.ofNat code, count + 1) else none

def escape? : List Char → Option (Char × Nat)
  | [] => none
  | c :: rest =>
    match c with
    | '0' => some ('\x00', 1)
    | 'a' => some ('\x07', 1)
    | 'b' => some ('\x08', 1)
    | 't' | '\t' => some ('\t', 1)
    | 'n' => some ('\n', 1)
    | 'v' => some ('\x0b', 1)
    | 'f' => some ('\x0c', 1)
    | 'r' => some ('\r', 1)
    | 'e' => some ('\x1b', 1)
    | ' ' => some (' ', 1)
    | '"' => some ('"', 1)
    | '/' => some ('/', 1)
    | '\\' => some ('\\', 1)
    | 'N' => some ('\u0085', 1)
    | '_' => some ('\u00a0', 1)
    | 'L' => some ('\u2028', 1)
    | 'P' => some ('\u2029', 1)
    | 'x' => hexChar? 2 rest
    | 'u' => hexChar? 4 rest
    | 'U' => hexChar? 8 rest
    | _ => none

/-- What follows an opening quote, up to the closing one. Two single quotes stand for one; in double quotes a
backslash escapes. The text read so far is given in reverse. -/
def quoted? (double : Bool) : Nat → List Char → Place → Option (String × Place)
  | 0, _, _ => none
  | fuel + 1, before, place =>
    match place.rest with
    | [] => none
    | c :: rest =>
      if isMark place then none
      else if double && c = '"' then some (String.ofList before.reverse, place.advance 1)
      else if !double && c = '\'' then
        if rest.head? = some '\'' then quoted? double fuel ('\'' :: before) (place.advance 2)
        else some (String.ofList before.reverse, place.advance 1)
      else if double && c = '\\' then
        if rest.head?.any isBreak then
          let (breaks, next) := quotedBreaks 0 0 rest
          quoted? double fuel (List.replicate (breaks - 1) '\n' ++ before) next
        else match escape? rest with
          | none => none
          | some (value, length) => quoted? double fuel (value :: before) (place.advance (length + 1))
      else if isSpace c || isBreak c then
        let (breaks, next) := quotedBreaks 0 place.column place.rest
        if breaks = 0 then
          let spaces := place.rest.takeWhile isSpace
          quoted? double fuel (spaces.reverse ++ before) (place.advance spaces.length)
        else quoted? double fuel ((fold breaks).reverse ++ before) next
      else quoted? double fuel (c :: before) (place.advance 1)

end ConfigSchema.Yaml
