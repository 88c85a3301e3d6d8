import ConfigSchema.Settings.Value

/-! Settings files in TOML. A file is a row of statements: entries, and headers that say in which table the
entries that follow belong. -/

namespace ConfigSchema.Toml

def isSpace (c : Char) : Bool := c == ' ' || c == '\t'

def skipSpaces (text : List Char) : List Char := text.dropWhile isSpace

def isTextChar (c : Char) : Bool := c == '\t' || (0x20 ≤ c.toNat && c.toNat != 0x7f)

def lineBreak? : List Char → Option (List Char)
  | '\n' :: rest => some rest
  | '\r' :: '\n' :: rest => some rest
  | _ => none

def lineEnd? (text : List Char) : Option (List Char) :=
  let rest := match skipSpaces text with
    | '#' :: rest => rest.dropWhile isTextChar
    | rest => rest
  if rest.isEmpty then some [] else lineBreak? rest

def skipLines (inComment : Bool) : List Char → List Char
  | [] => []
  | c :: rest =>
    if c = '\n' then skipLines false rest
    else if inComment || isSpace c || c == '\r' then skipLines inComment rest
    else if c = '#' then skipLines true rest
    else c :: rest

def escape? : List Char → Option (Char × List Char)
  | 'b' :: rest => some ('\x08', rest)
  | 't' :: rest => some ('\t', rest)
  | 'n' :: rest => some ('\n', rest)
  | 'f' :: rest => some ('\x0c', rest)
  | 'r' :: rest => some ('\r', rest)
  | '"' :: rest => some ('"', rest)
  | '\\' :: rest => some ('\\', rest)
  | 'u' :: rest => (Yaml.hexChar? 4 rest).map fun (c, _) => (c, rest.drop 4)
  | 'U' :: rest => (Yaml.hexChar? 8 rest).map fun (c, _) => (c, rest.drop 8)
  | _ => none

def line? (double : Bool) : Nat → List Char → List Char → Option (String × List Char)
  | 0, _, _ => none
  | fuel + 1, before, text =>
    match text with
    | [] => none
    | c :: rest =>
      if c = (if double then '"' else '\'') then some (String.ofList before.reverse, rest)
      else if double && c = '\\' then
        (escape? rest).bind fun (value, after) => line? double fuel (value :: before) after
      else if isTextChar c then line? double fuel (c :: before) rest
      else none

/-- A string of several lines up to its three closing quotes. A backslash at the end of a line takes away
the blanks and line breaks that follow. -/
def lines? (double : Bool) : Nat → List Char → List Char → Option (String × List Char)
  | 0, _, _ => none
  | fuel + 1, before, text =>
    let quote := if double then '"' else '\''
    match text with
    | [] => none
    | c :: rest =>
      if [quote, quote, quote].isPrefixOf text then some (String.ofList before.reverse, text.drop 3)
      else if double && c = '\\' then
        match lineBreak? (skipSpaces rest) with
        | some after => lines? double fuel before (after.dropWhile fun c => isSpace c || c == '\n' || c == '\r')
        | none => (escape? rest).bind fun (value, after) => lines? double fuel (value :: before) after
      else match lineBreak? text with
        | some after => lines? double fuel ('\n' :: before) after
        | none => if isTextChar c then lines? double fuel (c :: before) rest else none

def string? (double : Bool) (text : List Char) : Option (String × List Char) :=
  let quote := if double then '"' else '\''
  if [quote, quote, quote].isPrefixOf text then
    let inside := text.drop 3
    lines? double text.length [] ((lineBreak? inside).getD inside)
  else line? double text.length [] (text.drop 1)

def isBare (c : Char) : Bool := c.isAlphanum || c == '_' || c == '-'

def name? (text : List Char) : Option (String × List Char) :=
  match text with
  | '"' :: rest => line? true text.length [] rest
  | '\'' :: rest => line? false text.length [] rest
  | _ =>
    let name := text.takeWhile isBare
    if name.isEmpty then none else some (String.ofList name, text.dropWhile isBare)

def key? : Nat → List Char → Option (List String × List Char)
  | 0, _ => none
  | fuel + 1, text => do
    let (name, rest) ← name? (skipSpaces text)
    match skipSpaces rest with
    | '.' :: rest =>
      let (others, after) ← key? fuel rest
      some (name :: others, after)
    | after => some ([name], after)

def digits? (isDigit : Char → Bool) (text : List Char) : Option (List Char) :=
  let rec spaced : Bool → List Char → Bool
    | last, [] => last
    | last, c :: rest => if c = '_' then last && spaced false rest else isDigit c && spaced true rest
  if spaced false text then some (text.filter (· != '_')) else none

def decimal? (text : List Char) : Option (List Char) :=
  (digits? Char.isDigit text).filter fun digits => digits.head? != some '0' || digits.length == 1

def based? (base : Nat) (isDigit : Char → Bool) (text : List Char) : Option Int :=
  (digits? isDigit text).bind fun digits =>
    let value := digits.foldl (fun n c => n * base +
      (if c.isDigit then c.toNat - 48 else if c.toNat < 97 then c.toNat - 55 else c.toNat - 87)) 0
    if value < 9223372036854775808 then some (value : Int) else none

def integer? (text : List Char) : Option Int :=
  match text with
  | '0' :: 'x' :: rest =>
    based? 16 (fun c => c.isDigit || ('a' ≤ c && c ≤ 'f') || ('A' ≤ c && c ≤ 'F')) rest
  | '0' :: 'o' :: rest => based? 8 (fun c => '0' ≤ c && c ≤ '7') rest
  | '0' :: 'b' :: rest => based? 2 (fun c => c == '0' || c == '1') rest
  | '-' :: rest => (decimal? rest).bind fun digits => Real.signedWord? ('-' :: digits)
  | '+' :: rest => (decimal? rest).bind Real.signedWord?
  | _ => (decimal? text).bind Real.signedWord?

/-- A number with a point or an exponent, with digits on both sides of the point. One that is too great is
refused, but infinity has a word of its own. -/
def real? (text : List Char) : Option Real := do
  let (sign, size) := match text with
    | '-' :: rest => (['-'], rest)
    | '+' :: rest => ([], rest)
    | _ => ([], text)
  match String.ofList size with
  | "inf" | "nan" => Real.ofLiteral? (sign ++ size)
  | _ =>
    let isMark (c : Char) : Bool := c == '.' || c == 'e' || c == 'E'
    let whole ← decimal? (size.takeWhile (!isMark ·))
    let tail := size.dropWhile (!isMark ·)
    let (fraction, tail) ← match tail with
      | '.' :: rest =>
        (digits? Char.isDigit (rest.takeWhile (!isMark ·))).map fun digits =>
          ('.' :: digits, rest.dropWhile (!isMark ·))
      | _ => some ([], tail)
    let power ← match tail with
      | [] => some []
      | '.' :: _ => none
      | _ :: rest =>
        let (sign, digits) := match rest with
          | '-' :: digits => (['-'], digits)
          | '+' :: digits => ([], digits)
          | _ => ([], rest)
        (digits? Char.isDigit digits).map fun digits => 'e' :: sign ++ digits
    if fraction.isEmpty && power.isEmpty then none
    else match Real.ofLiteral? (sign ++ whole ++ fraction ++ power) with
      | some (.finite value) => some (.finite value)
      | _ => none

/-- Whether a word is a date, a time or both: the places of its digits and marks are looked at. -/
def isMoment (word : List Char) : Bool :=
  let shape := word.map fun c => if c.isDigit then '0' else c
  let startsLike (pattern : String) : Bool := pattern.toList.isPrefixOf shape
  let isTime (text : List Char) : Bool :=
    "00:00:00".toList.isPrefixOf text && (text.drop 8).all fun c =>
      c == '0' || c == '.' || c == 'Z' || c == 'z' || c == '+' || c == '-' || c == ':'
  if startsLike "0000-00-00" then
    match shape.drop 10 with
    | [] => true
    | c :: rest => (c == 'T' || c == 't' || c == ' ') && isTime rest
  else isTime shape

def isWordChar (c : Char) : Bool := isBare c || c == '+' || c == '.' || c == ':'

def word? (word : List Char) : Option Setting :=
  match String.ofList word with
  | "true" => some (.bool true)
  | "false" => some (.bool false)
  | content =>
    match integer? word with
    | some n => some (.integer n)
    | none =>
      match real? word with
      | some x => some (.real x)
      | none => if isMoment word then some (.text content) else none

def takeWord (text : List Char) : List Char × List Char :=
  let word := text.takeWhile isWordChar
  match text.dropWhile isWordChar with
  | ' ' :: a :: b :: ':' :: rest =>
    if word.length = 10 && isMoment word && a.isDigit && b.isDigit then
      let time := (a :: b :: ':' :: rest).takeWhile isWordChar
      (word ++ ' ' :: time, (a :: b :: ':' :: rest).dropWhile isWordChar)
    else (word, ' ' :: a :: b :: ':' :: rest)
  | rest => (word, rest)

mutual
/-- Puts a value at the end of a path. Names on the way are tables, or lists of which the last table counts.
What is there already stays as it is, and nothing is put. -/
def put? (value : Setting) (path : List String) (entries : List (String × Setting)) :
    Option (List (String × Setting)) :=
  match path with
  | [] => none
  | [name] => if (Keyed.find? name entries).isSome then none else some (entries ++ [(name, value)])
  | name :: rest => do
    let below ← putBelow? value rest ((Keyed.find? name entries).getD (.table []))
    some (Keyed.put name below entries)

def putBelow? (value : Setting) (path : List String) (holder : Setting) : Option Setting :=
  match holder with
  | .table entries => (put? value path entries).map .table
  | .list items =>
    match items.getLast? with
    | some (.table entries) => (put? value path entries).map fun entries => .list (items.dropLast ++ [.table entries])
    | _ => none
  | _ => none
end

/-- What stands at the end of a path. -/
def find? (entries : List (String × Setting)) : List String → Option Setting
  | [] => some (.table entries)
  | name :: rest =>
    match Keyed.find? name entries with
    | some (.table below) => find? below rest
    | some (.list items) =>
      match rest, items.getLast? with
      | [], _ => some (.list items)
      | _, some (.table below) => find? below rest
      | _, _ => none
    | some value => if rest.isEmpty then some value else none
    | none => none

def append? (path : List String) (entries : List (String × Setting)) : Option (List (String × Setting)) :=
  match path with
  | [] => none
  | [name] =>
    match Keyed.find? name entries with
    | none => some (entries ++ [(name, .list [.table []])])
    | some (.list items) => some (Keyed.put name (.list (items ++ [.table []])) entries)
    | some _ => none
  | name :: rest =>
    match (Keyed.find? name entries).getD (.table []) with
    | .table below => (append? rest below).map fun below => Keyed.put name (.table below) entries
    | _ => none

mutual
def value? (fuel : Nat) (text : List Char) : Option (Setting × List Char) :=
  match fuel with
  | 0 => none
  | fuel + 1 =>
    match text with
    | '"' :: _ => (string? true text).map fun (value, after) => (.text value, after)
    | '\'' :: _ => (string? false text).map fun (value, after) => (.text value, after)
    | '[' :: rest => (items? fuel rest).map fun (items, after) => (.list items, after)
    | '{' :: rest =>
      match skipSpaces rest with
      | '}' :: after => some (.table [], after)
      | rest => (inlineEntries? fuel [] rest).map fun (entries, after) => (.table entries, after)
    | _ =>
      let (word, after) := takeWord text
      (word? word).map (·, after)

def items? (fuel : Nat) (text : List Char) : Option (List Setting × List Char) :=
  match fuel with
  | 0 => none
  | fuel + 1 =>
    match skipLines false text with
    | ']' :: after => some ([], after)
    | start => do
      let (item, rest) ← value? fuel start
      match skipLines false rest with
      | ',' :: rest =>
        let (others, after) ← items? fuel rest
        some (item :: others, after)
      | ']' :: after => some ([item], after)
      | _ => none

def inlineEntries? (fuel : Nat) (entries : List (String × Setting)) (text : List Char) :
    Option (List (String × Setting) × List Char) :=
  match fuel with
  | 0 => none
  | fuel + 1 => do
    let (path, value, rest) ← entry? fuel text
    let entries ← put? value path entries
    match skipSpaces rest with
    | ',' :: rest => inlineEntries? fuel entries rest
    | '}' :: after => some (entries, after)
    | _ => none

def entry? (fuel : Nat) (text : List Char) : Option (List String × Setting × List Char) :=
  match fuel with
  | 0 => none
  | fuel + 1 => do
    let (path, rest) ← key? text.length text
    match skipSpaces rest with
    | '=' :: rest =>
      let (value, after) ← value? fuel (skipSpaces rest)
      some (path, value, after)
    | _ => none
end

structure State where
  entries : List (String × Setting)
  /-- The table to which entries belong. -/
  current : List String
  /-- The headers so far that still count; of those of single tables none comes twice. -/
  headers : List (List String)

/-- A table may have been begun by a header below it, but not by a key. -/
def header? (state : State) (path : List String) : Option State := do
  if state.headers.contains path then none
  else
    let headers := path :: state.headers
    match find? state.entries path with
    | some (.table _) =>
      if state.headers.any path.isPrefixOf then some { state with current := path, headers } else none
    | some _ => none
    | none => (put? (.table []) path state.entries).map fun entries => ⟨entries, path, headers⟩

/-- A header of a list begins a new table in it. What the headers below it say of the last table does not
count for the new one. -/
def listHeader? (state : State) (path : List String) : Option State :=
  (append? path state.entries).map fun entries =>
    ⟨entries, path, path :: state.headers.filter (!path.isPrefixOf ·)⟩

def statement? (state : State) (text : List Char) : Option (State × List Char) :=
  match text with
  | '[' :: '[' :: rest => do
    let (path, rest) ← key? rest.length rest
    match rest with
    | ']' :: ']' :: rest => (listHeader? state path).map (·, rest)
    | _ => none
  | '[' :: rest => do
    let (path, rest) ← key? rest.length rest
    match rest with
    | ']' :: rest => (header? state path).map (·, rest)
    | _ => none
  | _ => do
    let (path, value, rest) ← entry? (2 * text.length + 2) text
    let entries ← put? value (state.current ++ path) state.entries
    some ({ state with entries }, rest)

def run? : Nat → State → List Char → Option State
  | 0, _, _ => none
  | fuel + 1, state, text =>
    match skipLines false text with
    | [] => some state
    | start => do
      let (next, rest) ← statement? state start
      run? fuel next (← lineEnd? rest)

def read (text : String) : Option (List (String × Setting)) :=
  (run? (text.length + 1) ⟨[], [], []⟩ text.toList).map State.entries

end ConfigSchema.Toml
