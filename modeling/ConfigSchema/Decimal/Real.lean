import ConfigSchema.Decimal.Shortest

/-! Floating point numbers with the infinities and the undefined number, and the decimal literals that stand
for them. Reading a literal rounds correctly. -/

namespace ConfigSchema

inductive Real where
  | finite (value : Binary64)
  | infinite (negative : Bool)
  | undefined
  deriving DecidableEq

namespace Real

def layout : Layout := ⟨none, none, false⟩

def text : Real → String
  | finite value => value.text layout
  | infinite true => "-inf"
  | infinite false => "inf"
  | undefined => "NaN"

def toWord : Real → UInt64
  | finite value => UInt64.ofNat (min value.toNearestInt.toNat 18446744073709551615)
  | infinite false => UInt64.ofNat 18446744073709551615
  | infinite true | undefined => 0

def digitsValue (digits : List Char) : Nat := digits.foldl (fun n c => n * 10 + (c.toNat - 48)) 0

def signedDigits? (text : List Char) : Option Int :=
  let (negative, digits) := match text with
    | '-' :: rest => (true, rest)
    | '+' :: rest => (false, rest)
    | _ => (false, text)
  if digits.isEmpty || !digits.all Char.isDigit then none
  else some (if negative then -(digitsValue digits : Int) else digitsValue digits)

def ofDecimal (negative : Bool) (digits : Nat) (power : Int) : Real :=
  match Binary64.ofDecimal? negative digits power with
  | some value => finite value
  | none => infinite negative

def ofUnsigned? (negative : Bool) (text : List Char) : Option Real := do
  let whole := text.takeWhile Char.isDigit
  let afterWhole := text.dropWhile Char.isDigit
  let (fraction, tail) := match afterWhole with
    | '.' :: rest => (rest.takeWhile Char.isDigit, rest.dropWhile Char.isDigit)
    | _ => ([], afterWhole)
  if whole.isEmpty && fraction.isEmpty then none
  else
    let power ← match tail with
      | [] => some 0
      | e :: rest => if e = 'e' ∨ e = 'E' then signedDigits? rest else none
    some (ofDecimal negative (digitsValue (whole ++ fraction)) (power - fraction.length))

/-- A literal, or a word for an infinity or the undefined number, with a sign before it or none. -/
def ofLiteral? (text : List Char) : Option Real :=
  let (negative, size) := match text with
    | '-' :: rest => (true, rest)
    | '+' :: rest => (false, rest)
    | _ => (false, text)
  match String.ofList (size.map Char.toLower) with
  | "inf" | "infinity" => some (infinite negative)
  | "nan" => some undefined
  | _ => ofUnsigned? negative size

end Real

/-- A whole number in decimal digits that fits 64 bits with a sign. -/
def Real.signedWord? (text : List Char) : Option Int :=
  (Real.signedDigits? text).filter fun value => -9223372036854775808 ≤ value ∧ value < 9223372036854775808

end ConfigSchema
