import ConfigSchema.Decimal.Real
import ConfigSchema.Yaml.Reader

/-! YAML texts as JSON values: what plain scalars stand for. -/

namespace ConfigSchema.Yaml

def digits? (base : Nat) (digits : List Char) : Option Nat :=
  if digits.isEmpty then none
  else digits.foldl (fun value c => value.bind fun n =>
    let digit := if c.isDigit then c.toNat - 48 else if 'a' ≤ c ∧ c ≤ 'f' then c.toNat - 87
      else if 'A' ≤ c ∧ c ≤ 'F' then c.toNat - 55 else base
    if digit < base then some (n * base + digit) else none) (some 0)

def marked? : List Char → Option Nat
  | '0' :: 'x' :: rest => digits? 16 rest
  | '0' :: 'o' :: rest => digits? 8 rest
  | '0' :: 'b' :: rest => digits? 2 rest
  | _ => none

def isZeroLed (text : List Char) : Bool :=
  let size := match text with
    | '-' :: rest | '+' :: rest => rest
    | _ => text
  match size with
  | '0' :: rest => !rest.isEmpty && rest.all Char.isDigit
  | _ => false

def integer? (text : List Char) : Option Int :=
  let (negative, size) := match text with
    | '-' :: rest => (true, rest)
    | '+' :: rest => (false, rest)
    | _ => (false, text)
  let value := (marked? size).or (if isZeroLed text then none else digits? 10 size)
  value.map fun n => if negative then -(n : Int) else n

/-- The floating point number that a scalar stands for. Infinities and the undefined number have words of
their own; there is none for a number that is too great. -/
def real? (text : List Char) : Option Real :=
  match String.ofList text with
  | ".inf" | ".Inf" | ".INF" | "+.inf" | "+.Inf" | "+.INF" => some (.infinite false)
  | "-.inf" | "-.Inf" | "-.INF" => some (.infinite true)
  | ".nan" | ".NaN" | ".NAN" => some .undefined
  | _ =>
    if isZeroLed text then none
    else match Real.ofLiteral? text with
      | some (.finite value) => some (.finite value)
      | _ => none

/-- The value of a plain scalar. Whole numbers beyond 64 bits are refused up to 128 bits, and are floating
point numbers beyond. Numbers that are not finite become null. -/
def plainJson? (text : String) : Option Json :=
  match text with
  | "" | "null" | "Null" | "NULL" | "~" => some .null
  | "true" | "True" | "TRUE" => some (.bool true)
  | "false" | "False" | "FALSE" => some (.bool false)
  | _ =>
    let chars := text.toList
    let whole := (integer? chars).filter fun value => -(Nat.pow 2 127 : Int) ≤ value ∧ value < Nat.pow 2 128
    match whole with
    | some value => (Integer64.ofInt? value).map fun n => .number (.integer n)
    | none =>
      match real? chars with
      | some (.finite value) => some (.number (.real value))
      | some _ => some .null
      | none => some (.string text)

def keyText? : Yaml → Option String
  | plain text | quoted text => some text
  | sequence _ | mapping _ => none

mutual
def jsonWithin? (depth : Nat) : Yaml → Option Json
  | plain text => plainJson? text
  | quoted text => some (.string text)
  | sequence items =>
    if depth = 0 then none else (itemsWithin? (depth - 1) items).map .array
  | mapping entries =>
    if depth = 0 then none else (entriesWithin? (depth - 1) entries).map Json.ofMembers

def itemsWithin? (depth : Nat) : List Yaml → Option (List Json)
  | [] => some []
  | item :: rest => do
    let value ← jsonWithin? depth item
    let others ← itemsWithin? depth rest
    some (value :: others)

def entriesWithin? (depth : Nat) : List (Yaml × Yaml) → Option (List (String × Json))
  | [] => some []
  | (key, node) :: rest => do
    let name ← keyText? key
    let value ← jsonWithin? depth node
    let others ← entriesWithin? depth rest
    some ((name, value) :: others)
end

def readJson (text : String) : Option Json := (read text).bind (jsonWithin? 128)

end ConfigSchema.Yaml
