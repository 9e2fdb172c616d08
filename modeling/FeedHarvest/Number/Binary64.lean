/-!
# Binary floating point with 64 bits

A finite value is a sign, a significand below `2^53` and an exponent: the value is
`± significand * 2^exponent`. Every operation here is exact arithmetic on `Nat` followed by one
rounding to the nearest value, ties to the even significand, so nothing about it is hidden from a
proof. Infinities and NaN are left out: an operation whose result is too large gives `none`.
-/

namespace FeedHarvest.Number

/-- A finite value of IEEE 754's binary64. -/
structure Binary64 where
  /-- Whether the sign bit is set; zero has two signs. -/
  negative : Bool
  /-- The significand, below `2^53`. -/
  significand : Nat
  /-- The exponent of the last significand bit, from `-1074` to `971`. -/
  exponent : Int
deriving DecidableEq, Repr, Inhabited

namespace Binary64

/-- The smallest exponent, that of the subnormal values. -/
def minExponent : Int := -1074

/-- The largest exponent of a finite value. -/
def maxExponent : Int := 971

/-- The significand bits of a normal value. -/
def precision : Nat := 53

def zero (negative : Bool) : Binary64 := ⟨negative, 0, minExponent⟩

/-- A value is canonical when it has the form that decoding 64 bits gives: either the exponent is
the smallest one, or the significand has all its bits. -/
def Canonical (x : Binary64) : Prop :=
  minExponent ≤ x.exponent ∧ x.exponent ≤ maxExponent ∧ x.significand < Nat.pow 2 precision ∧
    (Nat.pow 2 (precision - 1) ≤ x.significand ∨ x.exponent = minExponent)

instance (x : Binary64) : Decidable x.Canonical := by unfold Canonical; infer_instance

/-- The quotient of two numbers, to the nearest whole number, a half to the even neighbour. -/
def roundDiv (num den : Nat) : Nat :=
  let q := num / den
  let r := num % den
  if 2 * r < den then q
  else if den < 2 * r then q + 1
  else if q % 2 == 0 then q else q + 1

/-- The largest `e` with `2^e ≤ num / den`. -/
def floorLog2 (num den : Nat) : Int :=
  let e : Int := (num.log2 : Int) - (den.log2 : Int)
  let atLeast : Bool :=
    if 0 ≤ e then den * Nat.pow 2 e.toNat ≤ num else den ≤ num * Nat.pow 2 (-e).toNat
  if atLeast then e else e - 1

/-- The value nearest to `± num / den`, or `none` when that is too large to be finite. -/
def ofRatio? (negative : Bool) (num den : Nat) : Option Binary64 :=
  if num = 0 then some (zero negative)
  else
    let e := max (floorLog2 num den - (precision - 1 : Nat)) minExponent
    let n :=
      if 0 ≤ e then roundDiv num (den * Nat.pow 2 e.toNat)
      else roundDiv (num * Nat.pow 2 (-e).toNat) den
    let (n, e) := if n = Nat.pow 2 precision then (Nat.pow 2 (precision - 1), e + 1) else (n, e)
    if maxExponent < e then none else some ⟨negative, n, e⟩

/-- The magnitude as a fraction. -/
def ratio (x : Binary64) : Nat × Nat :=
  if 0 ≤ x.exponent then (x.significand * Nat.pow 2 x.exponent.toNat, 1)
  else (x.significand, Nat.pow 2 (-x.exponent).toNat)

/-- Whether the value is a zero of either sign. -/
def isZero (x : Binary64) : Bool := x.significand == 0

def ofNat? (n : Nat) : Option Binary64 := ofRatio? false n 1

def mul? (x y : Binary64) : Option Binary64 :=
  ofRatio? (x.negative != y.negative) (x.ratio.1 * y.ratio.1) (x.ratio.2 * y.ratio.2)

/-- The rounded quotient by a value that is not zero. -/
def div? (x y : Binary64) : Option Binary64 :=
  ofRatio? (x.negative != y.negative) (x.ratio.1 * y.ratio.2) (x.ratio.2 * y.ratio.1)

/-- The nearest value to a decimal `± digits * 10^exponent`, or `none` when it is too large.
Exponents so small that the value rounds to zero are not worked out. -/
def ofDecimal? (negative : Bool) (digits : Nat) (exponent : Int) : Option Binary64 :=
  if digits = 0 then some (zero negative)
  else if 0 ≤ exponent then
    if 310 < exponent then none else ofRatio? negative (digits * Nat.pow 10 exponent.toNat) 1
  else
    if exponent + (digits.log2 + 1 : Nat) < -330 then some (zero negative)
    else ofRatio? negative digits (Nat.pow 10 (-exponent).toNat)

end Binary64

end FeedHarvest.Number
