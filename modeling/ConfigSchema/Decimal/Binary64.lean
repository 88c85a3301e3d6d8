/-! Finite binary floating point numbers of 64 bits, held as sign, significand and exponent of two.
All arithmetic is exact on natural numbers and rounds once, to the nearest number, a tie going to the
even significand. A result beyond the greatest finite number is no number at all. -/

namespace ConfigSchema

/-- The significands and exponents that occur, each number having one pair only. -/
def Binary64.Canonical (significand : Nat) (exponent : Int) : Prop :=
  significand < 9007199254740992 ∧ -1074 ≤ exponent ∧ exponent ≤ 971 ∧
    (4503599627370496 ≤ significand ∨ exponent = -1074)

instance (significand : Nat) (exponent : Int) : Decidable (Binary64.Canonical significand exponent) :=
  inferInstanceAs (Decidable (_ ∧ _ ∧ _ ∧ _))

/-- The number `± significand * 2 ^ exponent`. Zero has a sign too. -/
structure Binary64 where
  negative : Bool
  significand : Nat
  exponent : Int
  canonical : Binary64.Canonical significand exponent
  deriving DecidableEq

namespace Binary64

def zero (negative : Bool) : Binary64 := ⟨negative, 0, -1074, by decide⟩

instance : Inhabited Binary64 := ⟨zero false⟩

def isZero (x : Binary64) : Bool := x.significand == 0

def negate (x : Binary64) : Binary64 := { x with negative := !x.negative }

def units (x : Binary64) : Int :=
  let magnitude := x.significand * Nat.pow 2 (x.exponent + 1074).toNat
  if x.negative then -magnitude else magnitude

def ratio (x : Binary64) : Nat × Nat :=
  (x.significand * Nat.pow 2 x.exponent.toNat, Nat.pow 2 (-x.exponent).toNat)

/-- The quotient rounded to a whole number, a half going to the even neighbour. -/
def nearest (num den : Nat) : Nat :=
  let whole := num / den
  let rest := num % den
  if 2 * rest < den then whole
  else if den < 2 * rest then whole + 1
  else if whole % 2 = 0 then whole else whole + 1

def binade (num den : Nat) : Int :=
  let guess : Int := (num.log2 : Int) - (den.log2 : Int)
  if den * Nat.pow 2 guess.toNat ≤ num * Nat.pow 2 (-guess).toNat then guess else guess - 1

def ofParts? (negative : Bool) (significand : Nat) (exponent : Int) : Option Binary64 :=
  if canonical : Canonical significand exponent then some ⟨negative, significand, exponent, canonical⟩
  else none

def ofRatio? (negative : Bool) (num den : Nat) : Option Binary64 :=
  if num = 0 then some (zero negative)
  else
    let exponent := max (binade num den - 52) (-1074)
    let significand := nearest (num * Nat.pow 2 (-exponent).toNat) (den * Nat.pow 2 exponent.toNat)
    if significand = 9007199254740992 then ofParts? negative 4503599627370496 (exponent + 1)
    else ofParts? negative significand exponent

def ofInt? (value : Int) : Option Binary64 := ofRatio? (decide (value < 0)) value.natAbs 1

def mul? (x y : Binary64) : Option Binary64 :=
  let (a, b) := x.ratio
  let (c, d) := y.ratio
  ofRatio? (x.negative != y.negative) (a * c) (b * d)

def div? (x y : Binary64) : Option Binary64 :=
  let (a, b) := x.ratio
  let (c, d) := y.ratio
  ofRatio? (x.negative != y.negative) (a * d) (b * c)

def less (x y : Binary64) : Bool := decide (x.units < y.units)

def sameValue (x y : Binary64) : Bool := decide (x.units = y.units)

def toNearestInt (x : Binary64) : Int :=
  let (num, den) := x.ratio
  let size : Int := ((2 * num + den) / (2 * den) : Nat)
  if x.negative then -size else size

/-- The number nearest to `digits * 10 ^ power`. The digits decide alone where the power is so far out
that the result is zero or none. -/
def ofDecimal? (negative : Bool) (digits : Nat) (power : Int) : Option Binary64 :=
  let top : Int := (Nat.repr digits).length + power
  if digits = 0 ∨ top < -400 then some (zero negative)
  else if 400 < top then none
  else ofRatio? negative (digits * Nat.pow 10 power.toNat) (Nat.pow 10 (-power).toNat)

end Binary64

end ConfigSchema
