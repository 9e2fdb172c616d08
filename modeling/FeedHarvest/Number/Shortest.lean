import FeedHarvest.Number.Binary64
import FeedHarvest.Text.Digits

/-!
# The shortest decimal that reads back

Every real number in an interval around a binary64 value reads back as that value: the interval
reaches half way to the neighbours, and its ends belong to it when the significand is even. Among
the decimals in the interval, the ones with the fewest digits are wanted, and of those the one
nearest to the value. If any point of a decimal grid lies in the interval then so does one of the
value's two neighbours on that grid, so only those two are tried, for one digit, two digits and so
on; seventeen digits always suffice.

How the digits are laid out is a `Layout`: which exponents are written in positional notation and
whether a positive exponent has a sign.
-/

namespace FeedHarvest.Number

/-- A positive decimal `digits * 10^exponent`. -/
structure Decimal where
  /-- The digits read as one number. -/
  digits : Nat
  /-- The power of ten of the last digit. -/
  exponent : Int
deriving DecidableEq, Repr, Inhabited

namespace Binary64

/-- The value and the ends of its interval, over the common denominator that comes last. -/
def interval (x : Binary64) : Nat × Nat × Nat × Nat :=
  let (num, den) := x.ratio
  let ulp := if 0 ≤ x.exponent then Nat.pow 2 x.exponent.toNat else 1
  let narrow := x.significand == Nat.pow 2 (precision - 1) && minExponent < x.exponent
  if narrow then (4 * num, 4 * num - ulp, 4 * num + 2 * ulp, 4 * den)
  else (4 * num, 4 * num - 2 * ulp, 4 * num + 2 * ulp, 4 * den)

/-- The points of the grid `10^k` that lie next to the value and in its interval, nearest first. -/
def gridPoint? (x : Binary64) (k : Int) : Option Nat :=
  let (v, lo, hi, den) := x.interval
  let up := if 0 ≤ k then Nat.pow 10 k.toNat else 1
  let down := if 0 ≤ k then 1 else Nat.pow 10 (-k).toNat
  -- the point `n` of the grid is `n * up / down`
  let unit := up * den
  let below := v * down / unit
  let closed := x.significand % 2 == 0
  let inside (n : Nat) : Bool :=
    let p := n * unit
    if closed then lo * down ≤ p && p ≤ hi * down else lo * down < p && p < hi * down
  let above := below + 1
  let toBelow := v * down - below * unit
  let toAbove := above * unit - v * down
  let belowFits := 0 < below && inside below
  if belowFits && inside above then
    some (if toBelow < toAbove || (toBelow == toAbove && below % 2 == 0) then below else above)
  else if belowFits then some below
  else if inside above then some above
  else none

/-- The largest `e` with `10^e ≤ x`, for `x` above zero, found from the binary logarithm: the first
guess is too small by at most one. -/
def floorLog10 (x : Binary64) : Int :=
  let (num, den) := x.ratio
  let guess : Int := (floorLog2 num den * 30103) / 100000 - 1
  let atLeast (e : Int) : Bool :=
    if 0 ≤ e then den * Nat.pow 10 e.toNat ≤ num else den ≤ num * Nat.pow 10 (-e).toNat
  if atLeast (guess + 2) then guess + 2 else if atLeast (guess + 1) then guess + 1 else guess

/-- Tries grids from `10^k` downwards, at most `n` of them. -/
def searchGrid (x : Binary64) (k : Int) : Nat → Decimal
  | 0 => ⟨0, 0⟩
  | n + 1 =>
    match x.gridPoint? k with
    | some d => ⟨d, k⟩
    | none => searchGrid x (k - 1) n

/-- A decimal without trailing zeros in its digits. -/
def strip (d : Decimal) : Nat → Decimal
  | 0 => d
  | n + 1 => if d.digits ≠ 0 ∧ d.digits % 10 = 0 then strip ⟨d.digits / 10, d.exponent + 1⟩ n else d

/-- The shortest decimal that reads back as `x`, the nearest of those; `x` is not zero. -/
def shortest (x : Binary64) : Decimal :=
  strip (searchGrid x (floorLog10 x + 1) 20) 20

end Binary64

/-- How a decimal is laid out as text. -/
structure Layout where
  /-- The smallest exponent of the first digit that is written in positional notation. -/
  least : Int
  /-- The largest such exponent. -/
  greatest : Int
  /-- Whether a positive exponent is written with a plus sign. -/
  plusSign : Bool

/-- The text of a value: positional notation with at least one digit on each side of the point, or
scientific notation with no point after a single digit. -/
def Layout.text (layout : Layout) (x : Binary64) : List Char :=
  let sign := if x.negative then ['-'] else []
  if x.isZero then sign ++ ['0', '.', '0']
  else
    let d := x.shortest
    let ds := Text.decimal d.digits
    let lead : Int := d.exponent + ds.length - 1
    let body :=
      if layout.least ≤ lead ∧ lead ≤ layout.greatest then
        if 0 ≤ d.exponent then ds ++ List.replicate d.exponent.toNat '0' ++ ['.', '0']
        else if 0 ≤ lead then ds.take (lead.toNat + 1) ++ '.' :: ds.drop (lead.toNat + 1)
        else '0' :: '.' :: List.replicate (-lead - 1).toNat '0' ++ ds
      else
        let mantissa := if ds.length ≤ 1 then ds else ds.take 1 ++ '.' :: ds.drop 1
        let expSign := if lead < 0 then ['-'] else if layout.plusSign then ['+'] else []
        mantissa ++ 'e' :: expSign ++ Text.decimal lead.natAbs
    sign ++ body

end FeedHarvest.Number
