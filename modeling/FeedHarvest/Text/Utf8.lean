/-!
# UTF-8

Text on disk and on the wire is bytes. `decode` reads bytes as UTF-8 and puts one U+FFFD for each
maximal part that begins a character and cannot be continued, as the Unicode standard recommends;
`decode?` refuses such bytes instead.
-/

namespace FeedHarvest.Text.Utf8

def replacement : Char := '\uFFFD'

/-- The bytes that may follow a leading byte: how many, and the range of the first of them, which
keeps out overlong forms, surrogates and code points past U+10FFFF. -/
def follow? (lead : UInt8) : Option (Nat × UInt8 × UInt8) :=
  if lead < 0xC2 then none
  else if lead < 0xE0 then some (1, 0x80, 0xBF)
  else if lead == 0xE0 then some (2, 0xA0, 0xBF)
  else if lead == 0xED then some (2, 0x80, 0x9F)
  else if lead < 0xF0 then some (2, 0x80, 0xBF)
  else if lead == 0xF0 then some (3, 0x90, 0xBF)
  else if lead < 0xF4 then some (3, 0x80, 0xBF)
  else if lead == 0xF4 then some (3, 0x80, 0x8F)
  else none

/-- Takes up to `n` following bytes, the first between `lo` and `hi`. Gives the bits collected into
`acc`, the number of bytes still missing and the rest. -/
def gather (n : Nat) (lo hi : UInt8) (acc : Nat) : List UInt8 → Nat × Nat × List UInt8
  | [] => (acc, n, [])
  | b :: bs =>
    match n with
    | 0 => (acc, 0, b :: bs)
    | n + 1 =>
      if lo ≤ b ∧ b ≤ hi then gather n 0x80 0xBF (acc * 64 + (b.toNat - 0x80)) bs
      else (acc, n + 1, b :: bs)

theorem length_gather_le (n : Nat) (lo hi : UInt8) (acc : Nat) (bs : List UInt8) :
    (gather n lo hi acc bs).2.2.length ≤ bs.length := by
  fun_induction gather n lo hi acc bs with
  | case1 => exact Nat.le_refl _
  | case2 => exact Nat.le_refl _
  | case3 lo hi acc b bs n hb ih => exact Nat.le_succ_of_le ih
  | case4 => exact Nat.le_refl _

/-- The bits of a leading byte of a form with `n` following bytes. -/
def leadBits (lead : UInt8) : Nat → Nat
  | 1 => lead.toNat % 32
  | 2 => lead.toNat % 16
  | _ => lead.toNat % 8

/-- The characters of a byte sequence, `none` for each ill-formed part. -/
def characters : List UInt8 → List (Option Char)
  | [] => []
  | b :: bs =>
    if b < 0x80 then some (Char.ofNat b.toNat) :: characters bs
    else
      match follow? b with
      | none => none :: characters bs
      | some (n, lo, hi) =>
        have := length_gather_le n lo hi (leadBits b n) bs
        match _h : gather n lo hi (leadBits b n) bs with
        | (code, 0, rest) => some (Char.ofNat code) :: characters rest
        | (_, _, rest) => none :: characters rest
termination_by bs => bs.length
decreasing_by all_goals grind

/-- The bytes as text, ill-formed parts replaced. -/
def decode (bytes : List UInt8) : String :=
  String.ofList ((characters bytes).map (·.getD replacement))

/-- The bytes as text, if they are well-formed. -/
def decode? (bytes : List UInt8) : Option String :=
  ((characters bytes).mapM id).map String.ofList

def encode (s : String) : List UInt8 := s.toUTF8.data.toList

end FeedHarvest.Text.Utf8
