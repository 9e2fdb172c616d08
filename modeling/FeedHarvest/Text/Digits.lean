/-!
# Digits

Reading and writing of whole numbers in base ten and sixteen. A text is a number only when every
character of it is an ASCII digit of the base; there is no sign, no separator and no empty number.
-/

namespace FeedHarvest.Text

/-- The value of an ASCII digit in any base up to sixteen. -/
def digitValue? (c : Char) : Option Nat :=
  if '0' ≤ c ∧ c ≤ '9' then some (c.toNat - '0'.toNat)
  else if 'a' ≤ c ∧ c ≤ 'f' then some (c.toNat - 'a'.toNat + 10)
  else if 'A' ≤ c ∧ c ≤ 'F' then some (c.toNat - 'A'.toNat + 10)
  else none

/-- The characters `0` to `9`. -/
def isDigit (c : Char) : Bool := '0' ≤ c && c ≤ '9'

/-- The characters `0` to `9`, `a` to `f` and `A` to `F`. -/
def isHexDigit (c : Char) : Bool := (digitValue? c).isSome

/-- The digit of value `n` below sixteen, in lower case. -/
def digitChar (n : Nat) : Char := Nat.digitChar n

/-- Digits of base `b` continued from `acc`. Characters that are no digits count as zero; callers
pass digits only. -/
def ofDigits (b : Nat) (acc : Nat) (cs : List Char) : Nat :=
  cs.foldl (fun n c ↦ b * n + (digitValue? c).getD 0) acc

/-- A non-empty run of decimal digits as a number. -/
def natOfDecimal? (cs : List Char) : Option Nat :=
  if !cs.isEmpty && cs.all isDigit then some (ofDigits 10 0 cs) else none

/-- A non-empty run of hexadecimal digits as a number. -/
def natOfHex? (cs : List Char) : Option Nat :=
  if !cs.isEmpty && cs.all isHexDigit then some (ofDigits 16 0 cs) else none

def decimal (n : Nat) : List Char := Nat.toDigits 10 n

/-- A number in decimal, filled with zeros on the left to at least `width` digits. -/
def padded (width n : Nat) : List Char :=
  let ds := decimal n
  List.replicate (width - ds.length) '0' ++ ds

/-- A byte as two lower-case hexadecimal digits. -/
def hexByte (b : UInt8) : List Char := [digitChar (b.toNat / 16), digitChar (b.toNat % 16)]

/-- The most a 64-bit count can be. -/
def maxCount : Nat := Nat.pow 2 64 - 1

/-- A 64-bit count: an optional plus sign, then decimal digits of a number that fits. -/
def count? (cs : List Char) : Option Nat := do
  let digits := match cs with
    | '+' :: rest => rest
    | _ => cs
  let n ← natOfDecimal? digits
  if n ≤ maxCount then some n else none

end FeedHarvest.Text
