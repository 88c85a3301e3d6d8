import ConfigSchema.Yaml.Scalar

/-! Reading a YAML text of one document: block and flow collections, plain and quoted scalars, comments. In block
collections the columns tell what belongs together. Anchors, aliases, tags and block scalars are refused. -/

namespace ConfigSchema

inductive Yaml where
  | plain (text : String)
  | quoted (text : String)
  | sequence (items : List Yaml)
  | mapping (entries : List (Yaml × Yaml))

namespace Yaml

def absent : Yaml := plain ""

def Place.hasIndicator (place : Place) (mark : Char) : Bool :=
  match place.rest with
  | c :: rest => c == mark && endsWord rest
  | [] => false

def Place.startsWith (place : Place) (c : Char) : Bool := place.rest.head? == some c

def crossesLine (first last : Place) : Bool :=
  (first.rest.take (first.rest.length - last.rest.length)).any isBreak

mutual
def flowNode? (fuel : Nat) (place : Place) : Option (Yaml × Place) :=
  match fuel with
  | 0 => none
  | fuel + 1 =>
    match place.rest with
    | '[' :: _ => (flowItems? fuel (place.advance 1) []).map fun (items, after) => (sequence items, after)
    | '{' :: _ => (flowEntries? fuel (place.advance 1) []).map fun (entries, after) => (mapping entries, after)
    | '"' :: _ => (quoted? true place.rest.length [] (place.advance 1)).map fun (text, after) =>
        (quoted text, after)
    | '\'' :: _ => (quoted? false place.rest.length [] (place.advance 1)).map fun (text, after) =>
        (quoted text, after)
    | _ =>
      if beginsPlain place.rest then (plain? true 0 place).map fun (text, _, after) => (plain text, after)
      else none

/-- A node that may be a key, with its value if a colon follows. -/
def flowPair? (fuel : Nat) (place : Place) : Option (Yaml × Option Yaml × Place) :=
  match fuel with
  | 0 => none
  | fuel + 1 => do
    let (key, afterKey) ←
      if place.startsWith ':' then some (absent, place) else flowNode? fuel place
    let (_, colon) ← afterKey.toContent true
    if colon.startsWith ':' then
      let (_, start) ← (colon.advance 1).toContent true
      if start.startsWith ',' || start.startsWith ']' || start.startsWith '}' then
        some (key, some absent, start)
      else
        let (value, after) ← flowNode? fuel start
        some (key, some value, after)
    else some (key, none, afterKey)

def flowItems? (fuel : Nat) (place : Place) (before : List Yaml) : Option (List Yaml × Place) :=
  match fuel with
  | 0 => none
  | fuel + 1 => do
    let (_, start) ← place.toContent true
    if start.startsWith ']' then some (before.reverse, start.advance 1)
    else
      let (key, value, after) ← flowPair? fuel start
      let item := match value with
        | none => key
        | some value => mapping [(key, value)]
      let (_, next) ← after.toContent true
      if next.startsWith ',' then flowItems? fuel (next.advance 1) (item :: before)
      else if next.startsWith ']' then some ((item :: before).reverse, next.advance 1)
      else none

def flowEntries? (fuel : Nat) (place : Place) (before : List (Yaml × Yaml)) :
    Option (List (Yaml × Yaml) × Place) :=
  match fuel with
  | 0 => none
  | fuel + 1 => do
    let (_, start) ← place.toContent true
    if start.startsWith '}' then some (before.reverse, start.advance 1)
    else
      let (key, value, after) ← flowPair? fuel start
      let entry := (key, value.getD absent)
      let (_, next) ← after.toContent true
      if next.startsWith ',' then flowEntries? fuel (next.advance 1) (entry :: before)
      else if next.startsWith '}' then some ((entry :: before).reverse, next.advance 1)
      else none
end

def inline? (indent : Nat) (place : Place) : Option (Yaml × Place) :=
  if beginsPlain place.rest then (plain? false indent place).map fun (text, _, after) => (plain text, after)
  else flowNode? (2 * place.rest.length + 2) place

def endsKey (start after : Place) : Bool :=
  after.skipSpaces.hasIndicator ':' && !crossesLine start after

mutual
/-- A node outside brackets. Lines that go on with a scalar lie at the indentation or beyond it. -/
def block? (fuel indent : Nat) (place : Place) : Option (Yaml × Place) :=
  match fuel with
  | 0 => none
  | fuel + 1 =>
    if place.hasIndicator '-' then blockSequence? fuel false place []
    else if place.hasIndicator '?' || place.hasIndicator ':' then blockMapping? fuel place []
    else do
      let (node, after) ← inline? indent place
      if endsKey place after then blockMapping? fuel place [] else some (node, after)

def afterIndicator? (fuel column : Nat) (place : Place) : Option (Yaml × Place) :=
  match fuel with
  | 0 => none
  | fuel + 1 => do
    let (crossed, next) ← skip false true false false place.column place.rest
    if next.rest.isEmpty || (crossed && (next.column ≤ column || isMark next)) then some (absent, place)
    else block? fuel (column + 1) next

/-- The value of a key: a scalar or a collection in brackets in the same line, or a node in later lines. A
sequence may lie at the column of its key. -/
def value? (fuel column : Nat) (place : Place) : Option (Yaml × Place) :=
  match fuel with
  | 0 => none
  | fuel + 1 => do
    let (crossed, next) ← place.toContent false
    if next.rest.isEmpty || (crossed && (next.column < column || isMark next)) then some (absent, place)
    else if !crossed then inline? (column + 1) next
    else if column < next.column then block? fuel (column + 1) next
    else if next.hasIndicator '-' then blockSequence? fuel true next []
    else some (absent, place)

def blockSequence? (fuel : Nat) (atKey : Bool) (place : Place) (before : List Yaml) :
    Option (Yaml × Place) :=
  match fuel with
  | 0 => none
  | fuel + 1 => do
    let (item, after) ← afterIndicator? fuel place.column (place.advance 1)
    let items := item :: before
    let (crossed, next) ← after.toContent false
    if next.rest.isEmpty || (crossed && (next.column < place.column || isMark next)) then
      some (sequence items.reverse, after)
    else if !crossed || place.column < next.column then none
    else if next.hasIndicator '-' then blockSequence? fuel atKey next items
    else if atKey then some (sequence items.reverse, after)
    else none

def blockMapping? (fuel : Nat) (place : Place) (before : List (Yaml × Yaml)) : Option (Yaml × Place) :=
  match fuel with
  | 0 => none
  | fuel + 1 => do
    let (entry, after) ← blockEntry? fuel place
    let entries := entry :: before
    let (crossed, next) ← after.toContent false
    if next.rest.isEmpty || (crossed && (next.column < place.column || isMark next)) then
      some (mapping entries.reverse, after)
    else if !crossed || place.column < next.column then none
    else blockMapping? fuel next entries

def blockEntry? (fuel : Nat) (place : Place) : Option ((Yaml × Yaml) × Place) :=
  match fuel with
  | 0 => none
  | fuel + 1 =>
    if place.hasIndicator '?' then do
      let (key, after) ← afterIndicator? fuel place.column (place.advance 1)
      let (crossed, next) ← after.toContent false
      if crossed && next.column == place.column && next.hasIndicator ':' then
        let (value, after) ← afterIndicator? fuel place.column (next.advance 1)
        some ((key, value), after)
      else some ((key, absent), after)
    else if place.hasIndicator ':' then do
      let (value, after) ← afterIndicator? fuel place.column (place.advance 1)
      some ((absent, value), after)
    else do
      let (key, after) ← inline? (place.column + 1) place
      if endsKey place after then
        let (value, after) ← value? fuel place.column (after.skipSpaces.advance 1)
        some ((key, value), after)
      else none
end

def isAllowed (c : Char) : Bool :=
  let code := c.toNat
  code == 0x09 || code == 0x0a || code == 0x0d || (0x20 ≤ code && code ≤ 0x7e) || code == 0x85 ||
    (0xa0 ≤ code && code != 0xfeff && code != 0xfffe && code != 0xffff)

/-- Whether nothing follows a document but its end. -/
def endsDocument (place : Place) : Bool :=
  match place.toContent false with
  | none => false
  | some (crossed, next) =>
    next.rest.isEmpty || (crossed && isMark next && next.startsWith '.' &&
      (match (next.advance 3).toContent false with
        | some (_, rest) => rest.rest.isEmpty
        | none => false))

def document? (fuel : Nat) (start : Place) : Option (Yaml × Place) :=
  if isMark start && start.startsWith '-' then do
    let (crossed, next) ← (start.advance 3).toContent false
    if next.rest.isEmpty then some (absent, next)
    else if crossed then (if isMark next then none else block? fuel 0 next)
    else inline? 0 next
  else block? fuel 0 start

def read (text : String) : Option Yaml := do
  let chars := match text.toList with
    | '\ufeff' :: rest => rest
    | chars => chars
  if !chars.all isAllowed then none
  else
    let (_, start) ← skip false true false false 0 chars
    if start.rest.isEmpty then some absent
    else
      let (node, after) ← document? (8 * chars.length + 8) start
      if endsDocument after then some node else none

end Yaml

end ConfigSchema
