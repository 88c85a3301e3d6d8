import ConfigSchema.Decimal.Shortest

/-! Numbers of JSON texts. An integer literal within 64 bits stays the exact integer; every other literal
is a floating point number, so `1` and `1.0` are different numbers. -/

namespace ConfigSchema

structure Integer64 where
  value : Int
  inRange : -9223372036854775808 ≤ value ∧ value < 18446744073709551616
  deriving DecidableEq

namespace Integer64

def ofInt? (value : Int) : Option Integer64 :=
  if inRange : -9223372036854775808 ≤ value ∧ value < 18446744073709551616 then some ⟨value, inRange⟩ else none

def ofUInt64 (value : UInt64) : Integer64 :=
  ⟨value.toNat, by have := value.toNat_lt; omega⟩

def toUInt64? (n : Integer64) : Option UInt64 :=
  if 0 ≤ n.value then some (UInt64.ofNat n.value.toNat) else none

@[simp] theorem toUInt64?_ofUInt64 (value : UInt64) : (ofUInt64 value).toUInt64? = some value := by
  simp [toUInt64?, ofUInt64]

end Integer64

inductive Number where
  | integer (value : Integer64)
  | real (value : Binary64)
  deriving DecidableEq

namespace Number

def zero : Number := .integer ⟨0, by decide⟩

instance : Inhabited Number := ⟨zero⟩

/-- Floating point numbers always show a point or an exponent. Plain notation is kept for first digits
between the fifth place after the point and the sixteenth before it. -/
def layout : Layout := ⟨some (-5), some 15, true⟩

def text : Number → String
  | .integer n => toString n.value
  | .real x => x.text layout

def toBinary64 : Number → Binary64
  | .integer n => (Binary64.ofInt? n.value).getD (Binary64.zero false)
  | .real x => x

def less (x y : Number) : Bool := x.toBinary64.less y.toBinary64

/-- Equality of numbers: an integer never equals a floating point number, the two zeros are equal. -/
def sameValue : Number → Number → Bool
  | .integer n, .integer m => n == m
  | .real x, .real y => x.sameValue y
  | _, _ => false

def digitValue (c : Char) : Nat := c.toNat - 48

/-- Appends digits to a number of 64 bits. From the first digit that does not fit, the digits are left
out; the count tells how many were taken in. -/
def gather (digits : List Char) (significand count : Nat) : Nat × Nat :=
  match digits with
  | [] => (significand, count)
  | c :: rest =>
    let longer := significand * 10 + digitValue c
    if longer < 18446744073709551616 then gather rest longer (count + 1) else (significand, count)

def powerOfTen (power : Nat) : Binary64 :=
  (Binary64.ofRatio? false (Nat.pow 10 power) 1).getD (Binary64.zero false)

def scaleUp? (x : Binary64) (power : Nat) : Option Binary64 :=
  if power ≤ 308 then x.mul? (powerOfTen power) else if x.isZero then some x else none

def scaleDown? (x : Binary64) (power : Nat) : Option Binary64 :=
  if power ≤ 308 then x.div? (powerOfTen power)
  else if x.isZero then some x
  else (x.div? (powerOfTen 308)).bind fun smaller => scaleDown? smaller (power - 308)
termination_by power
decreasing_by omega

def real? (negative : Bool) (whole fraction : List Char) (power : Int) : Option Number := do
  let (leading, taken) := gather whole 0 0
  let (significand, places) := gather fraction leading 0
  let power := power + (whole.length - taken : Nat) - places
  let start ← Binary64.ofInt? significand
  let size ← if 0 ≤ power then scaleUp? start power.toNat else scaleDown? start (-power).toNat
  some (.real (if negative then size.negate else size))

def integer? (negative : Bool) (whole : List Char) : Option Number :=
  let size := whole.foldl (fun n c => n * 10 + digitValue c) 0
  if negative then
    if size = 0 then real? true whole [] 0
    else match Integer64.ofInt? (-size) with
      | some n => some (.integer n)
      | none => real? true whole [] 0
  else match Integer64.ofInt? size with
    | some n => some (.integer n)
    | none => real? false whole [] 0

def power? (text : List Char) : Option Int :=
  let (negative, digits) := match text with
    | '-' :: rest => (true, rest)
    | '+' :: rest => (false, rest)
    | _ => (false, text)
  if digits.isEmpty || !digits.all Char.isDigit then none
  else
    let size : Int := digits.foldl (fun n c => n * 10 + digitValue c) 0
    some (if negative then -size else size)

def ofTail? (negative : Bool) (whole : List Char) : List Char → Option Number
  | [] => integer? negative whole
  | c :: rest =>
    if c = '.' then
      let fraction := rest.takeWhile Char.isDigit
      match fraction, rest.dropWhile Char.isDigit with
      | [], _ => none
      | _, [] => real? negative whole fraction 0
      | _, e :: tail => if e = 'e' ∨ e = 'E' then (power? tail).bind (real? negative whole fraction) else none
    else if c = 'e' ∨ c = 'E' then (power? rest).bind (real? negative whole [])
    else none

/-- Reads a whole literal. A leading zero stands alone, and a number too great to hold is refused. -/
def ofLiteral? (text : List Char) : Option Number :=
  let (negative, size) := match text with
    | '-' :: rest => (true, rest)
    | _ => (false, text)
  let whole := size.takeWhile Char.isDigit
  match whole with
  | [] => none
  | '0' :: _ :: _ => none
  | _ => ofTail? negative whole (size.dropWhile Char.isDigit)

end Number

end ConfigSchema
