import FeedHarvest.Json.Basic
import FeedHarvest.Json.Source

/-!
# Reading JSON

What a text means: `Json.parse?` is the grammar of `Source` followed by `Source.value?`, which can
still refuse a text for three reasons. Containers may nest `maxDepth` deep; a `\u` escape of half a
surrogate pair is no character; a number too large for floating point has no value.

A number with neither point nor exponent is an integer if it fits 64 bits and is not `-0`. Any other
number is floating point and is worked out in two roundings, not one: the leading digits, as many as
fit 64 bits, are a significand that is rounded, and the product with a power of ten, itself rounded,
is rounded again. So the last bit may differ from the nearest value.
-/

namespace FeedHarvest.Json

/-- How many containers may stand inside one another. -/
def maxDepth : Nat := 127

/-! ## Strings -/

/-- The characters of a string as written: a pair of surrogate units is one character. -/
def characters? : List StringPart → Option (List Char)
  | [] => some []
  | .char c :: rest => (characters? rest).map (c :: ·)
  | .unit u :: rest =>
    if 0xD800 ≤ u ∧ u ≤ 0xDBFF then
      match rest with
      | .unit l :: rest =>
        if 0xDC00 ≤ l ∧ l ≤ 0xDFFF then
          (characters? rest).map
            (Char.ofNat (0x10000 + (u - 0xD800) * 0x400 + (l - 0xDC00)) :: ·)
        else none
      | _ => none
    else if 0xDC00 ≤ u ∧ u ≤ 0xDFFF then none
    else (characters? rest).map (Char.ofNat u :: ·)

def text? (parts : List StringPart) : Option String := (characters? parts).map String.ofList

/-! ## Numbers -/

/-- Digits taken into a significand as long as it fits 64 bits, and the digits left over. -/
def significand (acc : Nat) : List Char → Nat × List Char
  | [] => (acc, [])
  | c :: cs =>
    let next := acc * 10 + (Text.digitValue? c).getD 0
    if next ≤ Text.maxCount then significand next cs else (acc, c :: cs)

/-- A value times a power of ten, powers past `10^308` taken in several steps. -/
def scaled? (x : Number.Binary64) (exponent : Int) : Option Number.Binary64 :=
  if h : exponent.natAbs ≤ 308 then do
    let power ← Number.Binary64.ofNat? (Nat.pow 10 exponent.natAbs)
    if 0 ≤ exponent then x.mul? power else x.div? power
  else if x.isZero then some x
  else if 0 ≤ exponent then none
  else do
    let power ← Number.Binary64.ofNat? (Nat.pow 10 308)
    let y ← x.div? power
    scaled? y (exponent + 308)
termination_by exponent.natAbs
decreasing_by omega

/-- The value of a number, or `none` when it is too large for floating point. -/
def NumberText.value? (n : NumberText) : Option Json.Number :=
  let (wholeDigits, dropped) := significand 0 n.whole
  let isWhole := n.fraction.isNone && n.exponent.isNone && dropped.isEmpty
  if isWhole && (!n.negative || (0 < wholeDigits && wholeDigits ≤ Nat.pow 2 63)) then
    some (.int (if n.negative then -(wholeDigits : Int) else wholeDigits))
  else do
    let fraction := n.fraction.getD []
    let (digits, unused) := significand wholeDigits fraction
    let shift : Int := (dropped.length : Int) - ((fraction.length - unused.length : Nat) : Int)
    let written : Int := match n.exponent with
      | none => 0
      | some (negative, ds) =>
        let e : Int := Text.ofDigits 10 0 ds
        if negative then -e else e
    let x ← scaled? (← Number.Binary64.ofNat? digits) (shift + written)
    return .float { x with negative := n.negative }

/-! ## Values -/

mutual

/-- The value of a text in which containers may nest `depth` deep. -/
def Source.value? (depth : Nat) : Source → Option Json
  | .null => some .null
  | .bool b => some (.bool b)
  | .number n => n.value?.map .number
  | .string s => (text? s).map .string
  | .array items =>
    match depth with
    | 0 => none
    | d + 1 => (Source.values? d items).map .array
  | .object ms =>
    match depth with
    | 0 => none
    | d + 1 => (Source.memberValues? d ms).map fun ms ↦ .object (Members.ofList ms)

def Source.values? (depth : Nat) : List Source → Option (List Json)
  | [] => some []
  | v :: vs => do
    let x ← Source.value? depth v
    let xs ← Source.values? depth vs
    return x :: xs

/-- The names and values of members, repeated names included. -/
def Source.memberValues? (depth : Nat) : List (List StringPart × Source) → Option Members
  | [] => some []
  | (name, v) :: ms => do
    let k ← text? name
    let x ← Source.value? depth v
    let xs ← Source.memberValues? depth ms
    return (k, x) :: xs

end

def parse? (text : List Char) : Option Json := do
  (← Source.parse? text).value? maxDepth

end FeedHarvest.Json
