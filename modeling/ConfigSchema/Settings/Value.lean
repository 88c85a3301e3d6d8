import ConfigSchema.Decimal.Real
import ConfigSchema.Json.Basic
import ConfigSchema.Path
import ConfigSchema.Yaml.Reader

/-! Values of settings before they have a type. They come from files of several formats and from the
environment, are laid over one another, and are converted when they are asked for. -/

namespace ConfigSchema

inductive Setting where
  | absent
  | bool (value : Bool)
  | integer (value : Int)
  | real (value : Real)
  | text (value : String)
  | list (items : List Setting)
  | table (entries : List (String × Setting))

namespace Setting

def entries : Setting → List (String × Setting)
  | table entries => entries
  | _ => []

def asTable? : Setting → Option (List (String × Setting))
  | table entries => some entries
  | _ => none

def asText? : Setting → Option String
  | bool value => some (if value then "true" else "false")
  | integer value => some (toString value)
  | real value => some value.text
  | text value => some value
  | absent | list _ | table _ => none

def wordOfText? (text : String) : Option UInt64 :=
  let digits := match text.toList with
    | '+' :: rest => rest
    | chars => chars
  if digits.isEmpty || !digits.all Char.isDigit then none
  else
    let value := Real.digitsValue digits
    if value < 18446744073709551616 then some (UInt64.ofNat value) else none

def asWord? : Setting → Option UInt64
  | bool value => some (if value then 1 else 0)
  | integer value => if 0 ≤ value ∧ value < 18446744073709551616 then some (UInt64.ofNat value.toNat) else none
  | real value => some value.toWord
  | text value =>
    match String.ofList (value.toList.map Char.toLower) with
    | "true" | "on" | "yes" => some 1
    | "false" | "off" | "no" => some 0
    | _ => wordOfText? value
  | absent | list _ | table _ => none

mutual
/-- Lays a value over an old one under a name. A table goes into what is there entry by entry; everything
else replaces it. -/
def overlay (name : String) (below : List (String × Setting)) : Setting → List (String × Setting)
  | table entries =>
    let old := ((Keyed.find? name below).map Setting.entries).getD []
    let merged := overlayAll old entries
    let kept : Setting := match Keyed.find? name below, entries with
      | some value, [] => value
      | _, _ => table merged
    Keyed.put name kept below
  | absent => Keyed.put name absent below
  | bool value => Keyed.put name (bool value) below
  | integer value => Keyed.put name (integer value) below
  | real value => Keyed.put name (real value) below
  | text value => Keyed.put name (text value) below
  | list items => Keyed.put name (list items) below

def overlayAll (below : List (String × Setting)) : List (String × Setting) → List (String × Setting)
  | [] => below
  | (name, value) :: rest => overlayAll (overlay name below value) rest
end

/-- Lays a value over what is at the end of a path; what is in the way becomes a table. -/
def overlayAt (value : Setting) : List String → List (String × Setting) → List (String × Setting)
  | [], below => below
  | [name], below => overlay name below value
  | name :: rest, below =>
    Keyed.put name (table (overlayAt value rest (((Keyed.find? name below).map Setting.entries).getD [])))
      below

def isNameChar (c : Char) : Bool := c.isAlphanum || c == '_' || c == '-' || c == ' '

/-- The names in a key: those between its dots if they are plain, else the key itself. Places in lists, as in `a[0]`,
are not read as such. -/
def keyPath (key : String) : List String :=
  let names := Path.segments key
  if names.all fun name => !name.isEmpty && name.toList.all isNameChar then names else [key]

def overlayEntries (below entries : List (String × Setting)) : List (String × Setting) :=
  entries.foldl (fun below entry => overlayAt entry.2 (keyPath entry.1) below) below

def ofNumber (n : Number) : Setting :=
  match n with
  | .integer n => if n.value < 9223372036854775808 then integer n.value else real (.finite (Number.integer n).toBinary64)
  | .real value => real (.finite value)

mutual
def ofJson : Json → Setting
  | .null => absent
  | .bool value => bool value
  | .number n => ofNumber n
  | .string value => text value
  | .array items => list (ofJsonItems items)
  | .object members => table (ofJsonMembers members)

def ofJsonItems : List Json → List Setting
  | [] => []
  | item :: rest => ofJson item :: ofJsonItems rest

def ofJsonMembers : List (String × Json) → List (String × Setting)
  | [] => []
  | (name, value) :: rest => (name, ofJson value) :: ofJsonMembers rest
end

/-- Digits in a base with its mark before them, within 64 bits with a sign. -/
def marked? (value : String) : Option Int :=
  let digits (base : Nat) (text : List Char) : Option Int :=
    if text.isEmpty then none
    else (text.foldl (fun value c => value.bind fun n =>
      let digit := if c.isDigit then c.toNat - 48 else if 'a' ≤ c ∧ c ≤ 'f' then c.toNat - 87
        else if 'A' ≤ c ∧ c ≤ 'F' then c.toNat - 55 else base
      if digit < base then some (n * base + digit) else none) (some 0)).bind fun n =>
        if n < 9223372036854775808 then some (n : Int) else none
  match value.toList with
  | '0' :: 'x' :: rest => digits 16 rest
  | '0' :: 'o' :: rest => digits 8 rest
  | _ => none

def ofPlain? (value : String) : Option Setting :=
  match value with
  | "" | "~" | "null" => some absent
  | "true" => some (bool true)
  | "false" => some (bool false)
  | ".inf" | ".Inf" | ".INF" | "+.inf" | "+.Inf" | "+.INF" | "-.inf" | "-.Inf" | "-.INF" | ".nan"
  | ".NAN" => none
  | _ =>
    match (marked? value).or (Real.signedWord? value.toList) with
    | some n => some (integer n)
    | none =>
      match Real.ofLiteral? value.toList with
      | some x => some (real x)
      | none => some (text value)

mutual
def ofYaml? : Yaml → Option Setting
  | .plain value => ofPlain? value
  | .quoted value => some (text value)
  | .sequence items => (ofYamlItems? items).map list
  | .mapping entries => (ofYamlEntries? entries).map fun entries => table (Keyed.ofList entries)

def ofYamlItems? : List Yaml → Option (List Setting)
  | [] => some []
  | item :: rest => do
    let value ← ofYaml? item
    let others ← ofYamlItems? rest
    some (value :: others)

def ofYamlEntries? : List (Yaml × Yaml) → Option (List (String × Setting))
  | [] => some []
  | (key, node) :: rest => do
    let name := match key with
      | .quoted name => some name
      | .plain name =>
        match ofPlain? name with
        | some (text name) => some name
        | _ => none
      | _ => none
    match name with
    | none => ofYamlEntries? rest
    | some name => do
      let value ← ofYaml? node
      let others ← ofYamlEntries? rest
      some ((name, value) :: others)
end

end Setting

end ConfigSchema
