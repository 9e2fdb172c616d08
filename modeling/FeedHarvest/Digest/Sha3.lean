import FeedHarvest.Text.Digits
import FeedHarvest.Text.Utf8

/-!
# SHA3-256

The sponge of FIPS 202 over the permutation Keccak-f[1600]: lanes of 64 bits in a square of five by
five, lane `(x, y)` at index `x + 5 * y`. Blocks of 136 bytes are absorbed, and one squeeze gives
the 32 bytes of the digest.
-/

namespace FeedHarvest.Digest

/-- The 25 lanes. -/
abbrev Lanes := Vector UInt64 25

/-- The lane at `(x, y)`, both taken modulo five. -/
def lane (a : Lanes) (x y : Nat) : UInt64 := a.get ⟨x % 5 + 5 * (y % 5), by omega⟩

/-- Rotation to the left by fewer than 64 places. -/
def rotate (w : UInt64) (n : Nat) : UInt64 :=
  if n = 0 then w else (w <<< n.toUInt64) ||| (w >>> (64 - n).toUInt64)

/-- A square of lanes from its lanes. -/
def tabulate (f : Nat → Nat → UInt64) : Lanes := Vector.ofFn fun i : Fin 25 ↦ f (i % 5) (i / 5)

/-- The rotation of each lane, at its index. -/
def offsets : Vector Nat 25 :=
  #v[0, 1, 62, 28, 27, 36, 44, 6, 55, 20, 3, 10, 43, 25, 39, 41, 45, 15, 21, 8, 18, 2, 61, 56, 14]

def roundConstants : List UInt64 :=
  [0x0000000000000001, 0x0000000000008082, 0x800000000000808A, 0x8000000080008000,
    0x000000000000808B, 0x0000000080000001, 0x8000000080008081, 0x8000000000008009,
    0x000000000000008A, 0x0000000000000088, 0x0000000080008009, 0x000000008000000A,
    0x000000008000808B, 0x800000000000008B, 0x8000000000008089, 0x8000000000008003,
    0x8000000000008002, 0x8000000000000080, 0x000000000000800A, 0x800000008000000A,
    0x8000000080008081, 0x8000000000008080, 0x0000000080000001, 0x8000000080008008]

/-- Adds to each lane the parities of two columns beside it. -/
def theta (a : Lanes) : Lanes :=
  let parity : Vector UInt64 5 := Vector.ofFn fun x : Fin 5 ↦
    lane a x 0 ^^^ lane a x 1 ^^^ lane a x 2 ^^^ lane a x 3 ^^^ lane a x 4
  let column (x : Nat) : UInt64 := parity.get ⟨x % 5, by omega⟩
  tabulate fun x y ↦ lane a x y ^^^ column (x + 4) ^^^ rotate (column (x + 1)) 1

/-- Rotates every lane by its offset. -/
def rho (a : Lanes) : Lanes := Vector.ofFn fun i : Fin 25 ↦ rotate a[i] offsets[i]

/-- Moves lane `(x, y)` to `(y, 2x + 3y)`. -/
def pi (a : Lanes) : Lanes := tabulate fun x y ↦ lane a (x + 3 * y) x

/-- Combines the lanes of each row. -/
def chi (a : Lanes) : Lanes :=
  tabulate fun x y ↦ lane a x y ^^^ (~~~(lane a (x + 1) y) &&& lane a (x + 2) y)

/-- Adds a constant to the first lane. -/
def iota (c : UInt64) (a : Lanes) : Lanes := a.set 0 (a[0] ^^^ c)

/-- All rounds. -/
def permute (a : Lanes) : Lanes :=
  roundConstants.foldl (fun a c ↦ iota c (chi (pi (rho (theta a))))) a

/-- The bytes of a block. -/
def rate : Nat := 136

/-- The message with the bits `01`, then a one, zeros and a one up to a whole number of blocks. -/
def padding (length : Nat) : List UInt8 :=
  let gap := rate - length % rate
  if gap = 1 then [0x86] else 0x06 :: List.replicate (gap - 2) 0 ++ [0x80]

/-- Eight bytes, the lowest first, as one word. -/
def word (bytes : List UInt8) : UInt64 :=
  bytes.foldr (fun b w ↦ (w <<< 8) ||| b.toUInt64) 0

/-- Adds a block to the first lanes and permutes. -/
def absorb (a : Lanes) (block : List UInt8) : Lanes :=
  permute (Vector.ofFn fun i : Fin 25 ↦ a[i] ^^^ word ((block.drop (8 * i)).take 8))

/-- Absorbs a padded message block by block. -/
def absorbAll (a : Lanes) (bytes : List UInt8) : Lanes :=
  if bytes = [] then a
  else absorbAll (absorb a (bytes.take rate)) (bytes.drop rate)
termination_by bytes.length
decreasing_by
  have : 0 < bytes.length := List.length_pos_iff.2 (by assumption)
  simp only [List.length_drop, rate]; omega

/-- The eight bytes of a word, the lowest first. -/
def wordBytes (w : UInt64) : List UInt8 :=
  (List.range 8).map fun i ↦ (w >>> (8 * i).toUInt64).toUInt8

def sha3 (bytes : List UInt8) : List UInt8 :=
  let a := absorbAll (Vector.replicate 25 0) (bytes ++ padding bytes.length)
  ((a.toList.take 4).map wordBytes).flatten

/-- The digest of a text's UTF-8 bytes, in lower-case hexadecimal. -/
def ofText (s : String) : String :=
  String.ofList ((sha3 (Text.Utf8.encode s)).flatMap Text.hexByte)

end FeedHarvest.Digest
