import ConfigSchema.Pattern.Escape

/-! Classes in brackets: ranges, escapes, nested brackets, named ASCII classes, and the set operations `&&`,
`--` and `~~`, which bind from the left and more loosely than standing side by side. -/

namespace ConfigSchema.Pattern.Bracket

structure Part where
  set : CharSet
  depth : Nat

def leaf (set : CharSet) : Part := ⟨set, 0⟩

def joined : List Part → Part
  | [] => leaf .none
  | [only] => only
  | parts => ⟨.unions (parts.map Part.set), parts.foldl (fun depth part => max depth part.depth) 0 + 1⟩

inductive Operation where
  | intersection
  | difference
  | symmetricDifference

def Operation.apply : Operation → CharSet → CharSet → CharSet
  | intersection => .intersection
  | difference => .difference
  | symmetricDifference => .symmetricDifference

/-- The parts before an opening bracket, and the operation whose right side is being read inside it. -/
structure Frame where
  outer : List Part
  negated : Bool
  pending : Option (Operation × Part)

structure State where
  frames : List Frame
  parts : List Part
  rest : List Char

inductive Step where
  | more (state : State)
  | done (part : Part) (rest : List Char)

def folded (flags : Flags) (set : CharSet) : CharSet :=
  if flags.caseless then (if flags.unicode then .caseless set else .caselessAscii set) else set

/-- The complement of a set; without Unicode it would hold bytes that are no characters. -/
def complemented? (flags : Flags) (negated : Bool) (set : CharSet) : Option CharSet :=
  let set := folded flags set
  if negated then (if flags.unicode then some (.complement set) else none) else some set

def finish (flags : Flags) (pending : Option (Operation × Part)) (right : Part) : Part :=
  match pending with
  | none => right
  | some (operation, left) =>
    ⟨operation.apply (folded flags left.set) (folded flags right.set), max left.depth right.depth + 1⟩

def asciiClasses : List (String × List (Char × Char)) := [
  ("alnum", [('0', '9'), ('A', 'Z'), ('a', 'z')]), ("alpha", [('A', 'Z'), ('a', 'z')]),
  ("ascii", [('\x00', '\x7f')]), ("blank", [('\t', '\t'), (' ', ' ')]),
  ("cntrl", [('\x00', '\x1f'), ('\x7f', '\x7f')]), ("digit", [('0', '9')]), ("graph", [('!', '~')]),
  ("lower", [('a', 'z')]), ("print", [(' ', '~')]),
  ("punct", [('!', '/'), (':', '@'), ('[', '`'), ('\x7b', '~')]), ("space", [('\t', '\r'), (' ', ' ')]),
  ("upper", [('A', 'Z')]), ("word", [('0', '9'), ('A', 'Z'), ('_', '_'), ('a', 'z')]),
  ("xdigit", [('0', '9'), ('A', 'F'), ('a', 'f')])]

/-- A named class behind an opening bracket, such as `:alpha:]`. What does not have this form is an ordinary
nested bracket. -/
def asciiClass? (text : List Char) : Option (CharSet × Bool × List Char) :=
  match text with
  | ':' :: rest =>
    let (negated, rest) := match rest with
      | '^' :: rest => (true, rest)
      | _ => (false, rest)
    match rest.dropWhile (· != ':') with
    | ':' :: ']' :: after =>
      let name := String.ofList (rest.takeWhile (· != ':'))
      (asciiClasses.find? (·.1 == name)).map fun entry => (.ofRanges entry.2, negated, after)
    | _ => none
  | _ => none

def leading (flags : Flags) : Nat → List Part → List Char → List Part × List Char
  | 0, parts, text => (parts, text)
  | count + 1, parts, text =>
    match text with
    | '-' :: rest => leading flags count (leaf (.single '-') :: parts) (flags.skip rest)
    | ']' :: rest => if parts.isEmpty then ([leaf (.single ']')], flags.skip rest) else (parts, text)
    | _ => (parts, text)

/-- Opens a bracket, of which the first character has been read. -/
def opened (flags : Flags) (frames : List Frame) (outer : List Part) (text : List Char) : State :=
  let (negated, inside) := match flags.skip text with
    | '^' :: rest => (true, flags.skip rest)
    | rest => (false, rest)
  let (parts, rest) := leading flags inside.length [] inside
  ⟨⟨outer, negated, none⟩ :: frames, parts, rest⟩

def item? (flags : Flags) : List Char → Option (Atom × List Char)
  | [] => none
  | '\\' :: rest => Atom.escaped? flags rest
  | c :: rest => some (.char c false, rest)

/-- A character that may stand in a class; without Unicode only ASCII has one byte a character. -/
def char? (flags : Flags) : Atom → Option Char
  | .char c _ => if flags.unicode || c.toNat < 128 then some c else none
  | _ => none

def set? (flags : Flags) : Atom → Option CharSet
  | .set set => some set
  | atom => (char? flags atom).map .single

def following (flags : Flags) (text : List Char) : Option Char :=
  let after := text.drop 1
  if flags.verbose then
    match after.dropWhile Text.isBlank with
    | '#' :: rest => (rest.dropWhile Text.isBlank).head?
    | rest => rest.head?
  else after.head?

def range? (flags : Flags) (text : List Char) : Option (CharSet × List Char) := do
  let (first, rest) ← item? flags text
  match flags.skip rest with
  | [] => none
  | '-' :: after =>
    if following flags ('-' :: after) = some ']' ∨ following flags ('-' :: after) = some '-' then
      some (← set? flags first, '-' :: after)
    else
      let (last, rest) ← item? flags (flags.skip after)
      let first ← char? flags first
      let last ← char? flags last
      if first ≤ last then some (.range first last, rest) else none
  | rest => some (← set? flags first, rest)

def operate (flags : Flags) (operation : Operation) (state : State) (rest : List Char) : Option Step :=
  match state.frames with
  | [] => none
  | frame :: frames =>
    let left := finish flags frame.pending (joined state.parts)
    some (.more ⟨{ frame with pending := some (operation, left) } :: frames, [], rest⟩)

def close (flags : Flags) (state : State) (rest : List Char) : Option Step :=
  match state.frames with
  | [] => none
  | frame :: frames =>
    let inner := finish flags frame.pending (joined state.parts)
    (complemented? flags frame.negated inner.set).map fun set =>
      let part : Part := ⟨set, inner.depth + 1⟩
      match frames with
      | [] => .done part rest
      | _ => .more ⟨frames, part :: frame.outer, rest⟩

def other (flags : Flags) (state : State) (text : List Char) : Option Step :=
  (range? flags text).map fun (set, rest) => .more { state with parts := leaf set :: state.parts, rest }

def step (flags : Flags) (state : State) : Option Step :=
  match flags.skip state.rest with
  | [] => none
  | '[' :: rest =>
    match asciiClass? rest with
    | some (set, negated, after) =>
      (complemented? flags negated set).map fun set =>
        .more { state with parts := leaf set :: state.parts, rest := after }
    | none => some (.more (opened flags state.frames state.parts rest))
  | ']' :: rest => close flags state rest
  | '&' :: '&' :: rest => operate flags .intersection state rest
  | '-' :: '-' :: rest => operate flags .difference state rest
  | '~' :: '~' :: rest => operate flags .symmetricDifference state rest
  | text => other flags state text

def run (flags : Flags) : Nat → State → Option (Part × List Char)
  | 0, _ => none
  | fuel + 1, state =>
    match step flags state with
    | none => none
    | some (.done part rest) => some (part, rest)
    | some (.more next) => run flags fuel next

def read? (flags : Flags) (text : List Char) : Option (Part × List Char) :=
  run flags (text.length + 1) (opened flags [] [] text)

end ConfigSchema.Pattern.Bracket
