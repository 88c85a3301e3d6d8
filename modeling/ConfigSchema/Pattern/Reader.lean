import ConfigSchema.Pattern.Bracket
import ConfigSchema.Validation.Violation

/-! Reading a pattern: groups, flags, branches and repetitions. The reader is a machine with a stack of the
groups that are still open; each step takes at least one character. With the search for a match it makes an engine by
which the program can run. The engine knows a part of what a full one knows: few of the properties that characters have
or have not, scripts without their extensions, no ages, and one text for all patterns that it cannot read. -/

namespace ConfigSchema.Pattern

inductive PatternError where
  | malformed
  | tooLarge
  deriving DecidableEq

def PatternError.message : PatternError → String
  | .malformed => "regex parse error"
  | .tooLarge => "Compiled regex exceeds size limit of 10485760 bytes."

def roomLimit : Nat := 10485760

def nestLimit : Nat := 250

namespace Reader

structure Piece where
  regex : Regex
  depth : Nat

def deepest (pieces : List Piece) : Nat := pieces.foldl (fun depth piece => max depth piece.depth) 0

/-- What stands in a row: a piece, or a change of flags, which nothing can repeat. The list is in reverse. -/
abbrev Row := List (Option Piece)

def rowPiece (row : Row) : Piece :=
  let pieces := row.reverse.filterMap id
  ⟨.sequence (pieces.map Piece.regex), if row.length ≤ 1 then deepest pieces else deepest pieces + 1⟩

def branchPiece (branches : List Piece) (last : Piece) : Piece :=
  match branches with
  | [] => last
  | _ => ⟨.choices ((last :: branches).reverse.map Piece.regex), deepest (last :: branches) + 1⟩

structure Level where
  branches : List Piece
  row : Row
  flags : Flags

structure State where
  levels : List Level
  branches : List Piece
  row : Row
  flags : Flags
  /-- The names of groups so far; each may be used once. -/
  names : List (List Char)
  rest : List Char

def State.push (state : State) (regex : Regex) (depth : Nat) (rest : List Char) : State :=
  { state with row := some ⟨regex, depth⟩ :: state.row, rest }

/-- A character by itself; without Unicode a byte beyond 127 is no character. -/
def charRegex? (flags : Flags) (c : Char) (asByte : Bool) : Option Regex :=
  if asByte && !flags.unicode && 128 ≤ c.toNat then none
  else if flags.caseless then
    some (.oneOf (if flags.unicode then .caseless (.single c)
      else if c.isAlpha then .caselessAscii (.single c) else .single c))
  else some (.oneOf (.single c))

def atomRegex? (flags : Flags) : Atom → Option Regex
  | .char c asByte => charRegex? flags c asByte
  | .set set => some (.oneOf set)
  | .test look => some (.test look)

def dotRegex? (flags : Flags) : Option Regex :=
  if !flags.unicode then none
  else if flags.dotAll then some (.oneOf .any)
  else if flags.anyLineEnd then some (.oneOf (.complement (.ofRanges [('\n', '\n'), ('\r', '\r')])))
  else some (.oneOf (.complement (.single '\n')))

def startTest (flags : Flags) : Look :=
  if flags.multiline then (if flags.anyLineEnd then .anyLineStart else .lineStart) else .textStart

def endTest (flags : Flags) : Look :=
  if flags.multiline then (if flags.anyLineEnd then .anyLineEnd else .lineEnd) else .textEnd

def Flags.set? (flags : Flags) (letter : Char) (value : Bool) : Option Flags :=
  match letter with
  | 'i' => some { flags with caseless := value }
  | 'm' => some { flags with multiline := value }
  | 's' => some { flags with dotAll := value }
  | 'U' => some flags
  | 'u' => some { flags with unicode := value }
  | 'R' => some { flags with anyLineEnd := value }
  | 'x' => some { flags with verbose := value }
  | _ => none

/-- Reads flags up to a colon or a closing parenthesis. No letter and no hyphen comes twice, and a hyphen is
not the last. The letters read so far are given. -/
def readFlags? (flags : Flags) (seen : List Char) : List Char → Option (Flags × List Char × List Char)
  | [] => none
  | c :: rest =>
    if c = ':' ∨ c = ')' then
      if seen.head? = some '-' then none else some (flags, seen, c :: rest)
    else if seen.contains c then none
    else if c = '-' then readFlags? flags (c :: seen) rest
    else (Flags.set? flags c (!seen.contains '-')).bind fun flags => readFlags? flags (c :: seen) rest

def isNumeric (c : Char) : Bool := ["Nd", "Nl", "No"].contains (Text.category c)

def isNameChar (isFirst : Bool) (c : Char) : Bool :=
  c == '_' || Text.isAlphabetic c ||
    (!isFirst && (c == '.' || c == '[' || c == ']' || isNumeric c))

def groupName? (text : List Char) : Option (List Char × List Char) :=
  let name := text.takeWhile (· != '>')
  match name, text.dropWhile (· != '>') with
  | first :: others, '>' :: rest =>
    if isNameChar true first && others.all (isNameChar false) then some (name, rest) else none
  | _, _ => none

def State.enter (state : State) (flags : Flags) (rest : List Char) : State :=
  { state with levels := ⟨state.branches, state.row, state.flags⟩ :: state.levels
               branches := [], row := [], flags, rest }

def State.enterNamed? (state : State) (text : List Char) : Option State :=
  (groupName? text).bind fun (name, rest) =>
    if state.names.contains name then none
    else some { state.enter state.flags rest with names := name :: state.names }

def State.openGroup? (state : State) (text : List Char) : Option State :=
  match state.flags.skip text with
  | '?' :: 'P' :: '<' :: rest => state.enterNamed? rest
  | '?' :: '<' :: rest =>
    match rest with
    | '=' :: _ | '!' :: _ => none
    | _ => state.enterNamed? rest
  | '?' :: rest =>
    match readFlags? state.flags [] rest with
    | some (flags, seen, ')' :: after) =>
      if seen.isEmpty then none else some { state with row := none :: state.row, flags, rest := after }
    | some (flags, _, ':' :: after) => some (state.enter flags after)
    | _ => none
  | rest => some (state.enter state.flags rest)

def State.closeGroup? (state : State) (rest : List Char) : Option State :=
  match state.levels with
  | [] => none
  | level :: levels =>
    let inner := branchPiece state.branches (rowPiece state.row)
    some { state with levels
                      branches := level.branches
                      row := some ⟨inner.regex, inner.depth + 1⟩ :: level.row
                      flags := level.flags
                      rest }

def State.nextBranch (state : State) (rest : List Char) : State :=
  { state with branches := rowPiece state.row :: state.branches, row := [], rest }

/-- Repeats the last piece. A question mark behind it would only change which match is preferred. -/
def State.repeat? (state : State) (least : Nat) (most : Option Nat) (rest : List Char) : Option State :=
  match state.row with
  | some piece :: row =>
    let after := match rest with
      | '?' :: after => after
      | _ => rest
    some { state with row := some ⟨.repeated piece.regex least most, piece.depth + 1⟩ :: row, rest := after }
  | _ => none

def digitsOf (verbose inComment : Bool) : List Char → List Char × List Char
  | [] => ([], [])
  | c :: rest =>
    if inComment then digitsOf verbose (c != '\n') rest
    else if c.isDigit then
      let (digits, after) := digitsOf verbose false rest
      (c :: digits, after)
    else if verbose && Text.isBlank c then digitsOf verbose false rest
    else if verbose && c == '#' then digitsOf verbose true rest
    else ([], c :: rest)

def count? (flags : Flags) (text : List Char) : Option (Nat × List Char) :=
  let (digits, rest) := digitsOf flags.verbose false (text.dropWhile Text.isBlank)
  let count := digits.foldl (fun n c => n * 10 + (c.toNat - 48)) 0
  if digits.isEmpty || 4294967296 ≤ count then none else some (count, rest.dropWhile Text.isBlank)

def State.counted? (state : State) (text : List Char) : Option State := do
  let (least, rest) ← count? state.flags (state.flags.skip text)
  match rest with
  | '}' :: rest => state.repeat? least (some least) (state.flags.skip rest)
  | ',' :: rest =>
    match state.flags.skip rest with
    | '}' :: rest => state.repeat? least none (state.flags.skip rest)
    | rest =>
      let (most, rest) ← count? state.flags rest
      match rest with
      | '}' :: rest => if least ≤ most then state.repeat? least (some most) (state.flags.skip rest) else none
      | _ => none
  | _ => none

def State.step? (state : State) (c : Char) (rest : List Char) : Option State :=
  match c with
  | '(' => state.openGroup? rest
  | ')' => state.closeGroup? rest
  | '|' => some (state.nextBranch rest)
  | '[' => (Bracket.read? state.flags rest).map fun (part, after) =>
      state.push (.oneOf part.set) (part.depth) after
  | '?' => state.repeat? 0 (some 1) rest
  | '*' => state.repeat? 0 none rest
  | '+' => state.repeat? 1 none rest
  | '{' => state.counted? rest
  | '.' => (dotRegex? state.flags).map (state.push · 0 rest)
  | '^' => some (state.push (.test (startTest state.flags)) 0 rest)
  | '$' => some (state.push (.test (endTest state.flags)) 0 rest)
  | '\\' => do
    let (atom, after) ← Atom.escaped? state.flags rest
    let regex ← atomRegex? state.flags atom
    some (state.push regex 0 after)
  | _ => (charRegex? state.flags c false).map (state.push · 0 rest)

def run : Nat → State → Option Piece
  | 0, _ => none
  | fuel + 1, state =>
    match state.flags.skip state.rest with
    | [] =>
      match state.levels with
      | [] => some (branchPiece state.branches (rowPiece state.row))
      | _ => none
    | c :: rest => (state.step? c rest).bind (run fuel)

end Reader

/-- The expression that a pattern stands for. -/
def read (pattern : String) : Except PatternError Regex :=
  let text := pattern.toList
  match Reader.run (text.length + 1) ⟨[], [], [], .initial, [], text⟩ with
  | none => .error .malformed
  | some piece =>
    if nestLimit < piece.depth then .error .malformed
    else if roomLimit < piece.regex.room then .error .tooLarge
    else .ok piece.regex

theorem read_empty : read "" = .ok .empty := by rfl

theorem Regex.occursIn_empty (text : String) : Regex.empty.occursIn text = true := by
  rw [occursIn]
  cases text.toList <;> simp [searchFrom, nullable]

/-- The engine that the program runs with. -/
instance engine : Engine where
  compile pattern := (read pattern).map Regex.occursIn |>.mapError PatternError.message
  compile_empty := by
    rw [read_empty]
    exact congrArg Except.ok (funext Regex.occursIn_empty)

end ConfigSchema.Pattern
