import ConfigSchema.Json.Number

/-! The words of a JSON text. The scanner is a machine that takes one character at a time: `scan` fails at
the first character that cannot continue any text. -/

namespace ConfigSchema.Json

inductive Token where
  | openObject
  | closeObject
  | openArray
  | closeArray
  | colon
  | comma
  | null
  | bool (value : Bool)
  | number (value : Number)
  | string (value : String)
  deriving DecidableEq

namespace Token

def hexValue? (c : Char) : Option Nat :=
  if c.isDigit then some (c.toNat - 48)
  else if 'a' ≤ c ∧ c ≤ 'f' then some (c.toNat - 87)
  else if 'A' ≤ c ∧ c ≤ 'F' then some (c.toNat - 55)
  else none

def hexUnit? (a b c d : Char) : Option Nat := do
  let first ← hexValue? a
  let second ← hexValue? b
  let third ← hexValue? c
  let fourth ← hexValue? d
  some (((first * 16 + second) * 16 + third) * 16 + fourth)

/-- The character that a letter stands for after a backslash. -/
def escaped? (c : Char) : Option Char :=
  match c with
  | '"' => some '"'
  | '\\' => some '\\'
  | '/' => some '/'
  | 'b' => some '\x08'
  | 'f' => some '\x0c'
  | 'n' => some '\n'
  | 'r' => some '\r'
  | 't' => some '\t'
  | _ => none

/-- The text between two quotes. Halves of a surrogate pair occur only together, in order. -/
def unescape? : List Char → Option (List Char)
  | [] => some []
  | '\\' :: 'u' :: a :: b :: c :: d :: rest =>
    match hexUnit? a b c d with
    | none => none
    | some unit =>
      if 0xDC00 ≤ unit ∧ unit ≤ 0xDFFF then none
      else if 0xD800 ≤ unit ∧ unit ≤ 0xDBFF then
        match rest with
        | '\\' :: 'u' :: e :: f :: g :: h :: rest =>
          match hexUnit? e f g h with
          | none => none
          | some low =>
            if 0xDC00 ≤ low ∧ low ≤ 0xDFFF then
              (unescape? rest).map (Char.ofNat (0x10000 + (unit - 0xD800) * 0x400 + (low - 0xDC00)) :: ·)
            else none
        | _ => none
      else (unescape? rest).map (Char.ofNat unit :: ·)
  | '\\' :: c :: rest =>
    match escaped? c with
    | none => none
    | some plain => (unescape? rest).map (plain :: ·)
  | c :: rest => if c.toNat < 0x20 ∨ c = '\\' then none else (unescape? rest).map (c :: ·)

/-- Where the scanner stands; what it has read of a word is kept in reverse. -/
inductive Mode where
  | between
  | word (read : List Char)
  | digits (read : List Char)
  | quoted (read : List Char)
  | escape (read : List Char)

def isBlank (c : Char) : Bool := c == ' ' || c == '\n' || c == '\t' || c == '\r'

def isNumeric (c : Char) : Bool :=
  c.isDigit || c == '-' || c == '+' || c == '.' || c == 'e' || c == 'E'

def ofWord? (read : List Char) : Option Token :=
  match read.reverse with
  | ['n', 'u', 'l', 'l'] => some .null
  | ['t', 'r', 'u', 'e'] => some (.bool true)
  | ['f', 'a', 'l', 's', 'e'] => some (.bool false)
  | _ => none

def ofDigits? (read : List Char) : Option Token := (Number.ofLiteral? read.reverse).map .number

def ofQuoted? (read : List Char) : Option Token :=
  (unescape? read.reverse).map fun text => .string (String.ofList text)

def start? (c : Char) : Option (List Token × Mode) :=
  if isBlank c then some ([], .between)
  else if c.isDigit || c == '-' then some ([], .digits [c])
  else if c.isLower then some ([], .word [c])
  else match c with
    | '{' => some ([.openObject], .between)
    | '}' => some ([.closeObject], .between)
    | '[' => some ([.openArray], .between)
    | ']' => some ([.closeArray], .between)
    | ':' => some ([.colon], .between)
    | ',' => some ([.comma], .between)
    | '"' => some ([], .quoted [])
    | _ => none

def startAfter? (token : Option Token) (c : Char) : Option (List Token × Mode) := do
  let done ← token
  let (tokens, mode) ← start? c
  some (done :: tokens, mode)

def step? : Mode → Char → Option (List Token × Mode)
  | .between, c => start? c
  | .word read, c => if c.isLower then some ([], .word (c :: read)) else startAfter? (ofWord? read) c
  | .digits read, c =>
    if isNumeric c then some ([], .digits (c :: read)) else startAfter? (ofDigits? read) c
  | .quoted read, c =>
    if c = '"' then (ofQuoted? read).map fun token => ([token], .between)
    else if c = '\\' then some ([], .escape read)
    else some ([], .quoted (c :: read))
  | .escape read, c => some ([], .quoted (c :: '\\' :: read))

def finish? : Mode → Option (List Token)
  | .between => some []
  | .word read => (ofWord? read).map ([·])
  | .digits read => (ofDigits? read).map ([·])
  | .quoted _ | .escape _ => none

def scanFrom (mode : Mode) : List Char → Option (List Token)
  | [] => finish? mode
  | c :: rest => do
    let (tokens, next) ← step? mode c
    let later ← scanFrom next rest
    some (tokens ++ later)

def scan (text : List Char) : Option (List Token) := scanFrom .between text

end Token

end ConfigSchema.Json
