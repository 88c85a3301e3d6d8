import ConfigSchema.Decimal.Binary64

/-! The shortest decimal of a floating point number: the fewest digits that read back as the number,
and of those the nearest to it. -/

namespace ConfigSchema

/-- The decimal `digits / 10 ^ (count - 1) * 10 ^ exponent`, where `count` is the number of digits: the
exponent is that of the first digit. -/
structure Shortest where
  digits : Nat
  exponent : Int
  deriving DecidableEq

namespace Shortest

def decade (num den : Nat) : Int :=
  let guess : Int := ((num.log2 : Int) - (den.log2 : Int)) * 30103 / 100000
  let reaches (e : Int) : Bool := decide (den * Nat.pow 10 e.toNat ≤ num * Nat.pow 10 (-e).toNat)
  if reaches (guess + 1) then guess + 1
  else if reaches guess then guess
  else guess - 1

structure Interval where
  low : Nat
  value : Nat
  high : Nat
  den : Nat
  closed : Bool

/-- Quarters of the last place. Just above a power of two the gap below is half of the gap above. -/
def interval (x : Binary64) : Interval :=
  let below := if x.significand = 4503599627370496 ∧ -1074 < x.exponent then 1 else 2
  let scale := Nat.pow 2 x.exponent.toNat
  { low := (4 * x.significand - below) * scale
    value := 4 * x.significand * scale
    high := (4 * x.significand + 2) * scale
    den := 4 * Nat.pow 2 (-x.exponent).toNat
    closed := x.significand % 2 == 0 }

def Interval.holds (range : Interval) (count : Nat) (power : Int) : Bool :=
  let point := count * Nat.pow 10 power.toNat * range.den
  let scale := Nat.pow 10 (-power).toNat
  if range.closed then decide (range.low * scale ≤ point ∧ point ≤ range.high * scale)
  else decide (range.low * scale < point ∧ point < range.high * scale)

def Interval.onGrid? (range : Interval) (power : Int) : Option Nat :=
  let num := range.value * Nat.pow 10 (-power).toNat
  let den := range.den * Nat.pow 10 power.toNat
  let down := num / den
  let rest := num % den
  let nearer := if 2 * rest < den then down
    else if den < 2 * rest then down + 1
    else if down % 2 = 0 then down else down + 1
  if range.holds nearer power then some nearer
  else if range.holds down power then some down
  else if range.holds (down + 1) power then some (down + 1)
  else none

def Interval.search (range : Interval) : Nat → Int → Nat × Int
  | 0, power => (range.value / range.den, power)
  | tries + 1, power =>
    match range.onGrid? power with
    | some count => (count, power)
    | none => range.search tries (power - 1)

def stripZeros : Nat → Nat → Int → Nat × Int
  | 0, count, power => (count, power)
  | tries + 1, count, power =>
    if count % 10 = 0 ∧ count ≠ 0 then stripZeros tries (count / 10) (power + 1) else (count, power)

def ofBinary64 (x : Binary64) : Shortest :=
  if x.isZero then ⟨0, 0⟩
  else
    let range := interval x
    let (count, power) := range.search 18 (decade range.value range.den)
    let (digits, least) := stripZeros 20 count power
    ⟨digits, least + (Nat.repr digits).length - 1⟩

end Shortest

/-- How a decimal is laid out. Within the limits it is written plainly, beyond them with a power of ten. -/
structure Layout where
  leastPlain : Option Int
  greatestPlain : Option Int
  /-- Whole numbers keep a zero after the point. -/
  pointZero : Bool

namespace Shortest

def zeros (count : Int) : List Char := List.replicate count.toNat '0'

def layPlain (style : Layout) (digits : List Char) (exponent : Int) : List Char :=
  if exponent < 0 then '0' :: '.' :: zeros (-exponent - 1) ++ digits
  else
    let whole := digits.take (exponent + 1).toNat ++ zeros (exponent + 1 - digits.length)
    match digits.drop (exponent + 1).toNat with
    | [] => if style.pointZero then whole ++ ['.', '0'] else whole
    | rest => whole ++ '.' :: rest

def layPower (digits : List Char) (exponent : Int) : List Char :=
  let mark : List Char := 'e' :: (if exponent < 0 then '-' else '+') :: (Nat.repr exponent.natAbs).toList
  match digits with
  | [] => mark
  | [first] => first :: mark
  | first :: rest => first :: '.' :: rest ++ mark

def lay (style : Layout) (decimal : Shortest) : List Char :=
  let digits := (Nat.repr decimal.digits).toList
  let plain := style.leastPlain.all (fun least => decide (least ≤ decimal.exponent)) &&
    style.greatestPlain.all (fun greatest => decide (decimal.exponent ≤ greatest))
  if plain then layPlain style digits decimal.exponent else layPower digits decimal.exponent

end Shortest

def Binary64.text (x : Binary64) (style : Layout) : String :=
  let size := (Shortest.ofBinary64 x).lay style
  String.ofList (if x.negative then '-' :: size else size)

end ConfigSchema
