import FeedHarvest.Number.Binary64
import Mathlib.Algebra.Order.Field.Power
import Mathlib.Algebra.Order.Field.Rat
import Mathlib.Data.Nat.Log
import Mathlib.Tactic.Positivity

/-!
# Rounding gives canonical values

The logarithm of a fraction decides which exponent its value gets, and with it how many bits the
rounded significand has: all of them, unless the exponent is the smallest there is. Rounding up may
take one bit too many, and then the exponent is moved. So a value that is the result of rounding has
the one form that decoding 64 bits gives, and so have products and quotients.

Fractions are compared with powers of two as rational numbers, where the sign of the exponent plays
no part.
-/

namespace FeedHarvest.Number.Binary64

/-! ## Powers of two -/

section Powers

variable {num den : Nat}

/-- A comparison with a multiple of a power of two, on whole numbers. -/
theorem mul_zpow_mul_le_iff (m num den : Nat) (e : Int) :
    (m : ℚ) * 2 ^ e * den ≤ num ↔
      if 0 ≤ e then m * (den * Nat.pow 2 e.toNat) ≤ num
      else m * den ≤ num * Nat.pow 2 (-e).toNat := by
  split
  · next h =>
    obtain ⟨n, rfl⟩ := Int.eq_ofNat_of_zero_le h
    rw [zpow_natCast, Int.toNat_natCast, mul_assoc, mul_comm _ (den : ℚ)]
    exact_mod_cast Iff.rfl
  · next h =>
    obtain ⟨n, hn⟩ := Int.eq_ofNat_of_zero_le (show 0 ≤ -e by omega)
    obtain rfl : e = -n := by omega
    rw [zpow_neg, zpow_natCast, neg_neg, Int.toNat_natCast, mul_right_comm, ← div_eq_mul_inv,
      div_le_iff₀ (by positivity)]
    exact_mod_cast Iff.rfl

private theorem zpow_mul_le_iff (num den : Nat) (e : Int) :
    (2 : ℚ) ^ e * den ≤ num ↔
      if 0 ≤ e then den * Nat.pow 2 e.toNat ≤ num else den ≤ num * Nat.pow 2 (-e).toNat := by
  simpa using mul_zpow_mul_le_iff 1 num den e

theorem zpow_log2_le (h : 0 < num) : (2 : ℚ) ^ (num.log2 : Int) ≤ num := by
  rw [zpow_natCast]
  exact_mod_cast Nat.log2_self_le h.ne'

theorem lt_zpow_log2 (num : Nat) : (num : ℚ) < 2 ^ ((num.log2 : Int) + 1) := by
  have h : num < 2 ^ (num.log2 + 1) := Nat.lt_log2_self
  exact_mod_cast h

/-- The two logarithms leave two candidates, and one comparison tells them apart. -/
theorem floorLog2_eq (num den : Nat) : floorLog2 num den =
    if (2 : ℚ) ^ ((num.log2 : Int) - den.log2) * den ≤ num then (num.log2 : Int) - den.log2
    else (num.log2 : Int) - den.log2 - 1 := by
  rw [floorLog2]
  refine if_congr ?_ rfl rfl
  rw [zpow_mul_le_iff]
  split
  · exact decide_eq_true_iff
  · exact decide_eq_true_iff

theorem floorLog2_spec (hnum : 0 < num) (hden : 0 < den) :
    (2 : ℚ) ^ floorLog2 num den * den ≤ num ∧
      (num : ℚ) < 2 ^ (floorLog2 num den + 1) * den := by
  have hlow : (2 : ℚ) ^ ((num.log2 : Int) - den.log2 - 1) * den ≤ num := by
    calc (2 : ℚ) ^ ((num.log2 : Int) - den.log2 - 1) * den
        ≤ 2 ^ ((num.log2 : Int) - den.log2 - 1) * 2 ^ ((den.log2 : Int) + 1) := by
          gcongr
          exact (lt_zpow_log2 den).le
      _ = 2 ^ (num.log2 : Int) := by
          rw [← zpow_add₀ two_ne_zero]
          congr 1
          omega
      _ ≤ num := zpow_log2_le hnum
  have hhigh : (num : ℚ) < 2 ^ ((num.log2 : Int) - den.log2 + 1) * den := by
    calc (num : ℚ) < 2 ^ ((num.log2 : Int) + 1) := lt_zpow_log2 num
      _ = 2 ^ ((num.log2 : Int) - den.log2 + 1) * 2 ^ (den.log2 : Int) := by
          rw [← zpow_add₀ two_ne_zero]
          congr 1
          omega
      _ ≤ 2 ^ ((num.log2 : Int) - den.log2 + 1) * den := by
          gcongr
          exact zpow_log2_le hden
  rw [floorLog2_eq]
  split
  · next h => exact ⟨h, hhigh⟩
  · next h =>
    rw [sub_add_cancel]
    exact ⟨hlow, not_le.1 h⟩

end Powers

/-! ## Rounded quotients -/

section Quotients

variable {m num den : Nat}

theorem le_roundDiv (hden : 0 < den) (h : m * den ≤ num) : m ≤ roundDiv num den := by
  have hfloor : m ≤ num / den := (Nat.le_div_iff_mul_le hden).2 h
  simp only [roundDiv]
  split
  · exact hfloor
  · split
    · omega
    · split
      · exact hfloor
      · omega

theorem roundDiv_le (hden : 0 < den) (h : num < m * den) : roundDiv num den ≤ m := by
  have hfloor : num / den < m := (Nat.div_lt_iff_lt_mul hden).2 h
  simp only [roundDiv]
  split
  · omega
  · split
    · omega
    · split
      · omega
      · omega

/-- A fraction over a power of two, rounded. -/
def scaledRound (num den : Nat) (e : Int) : Nat :=
  if 0 ≤ e then roundDiv num (den * Nat.pow 2 e.toNat)
  else roundDiv (num * Nat.pow 2 (-e).toNat) den

private theorem le_scaledRound {e : Int} (hden : 0 < den) (h : (m : ℚ) * 2 ^ e * den ≤ num) :
    m ≤ scaledRound num den e := by
  have hwhole := (mul_zpow_mul_le_iff m num den e).1 h
  rw [scaledRound]
  split
  · next hsign =>
    rw [if_pos hsign] at hwhole
    exact le_roundDiv (Nat.mul_pos hden (Nat.pow_pos Nat.two_pos)) hwhole
  · next hsign =>
    rw [if_neg hsign] at hwhole
    exact le_roundDiv hden hwhole

private theorem scaledRound_le {e : Int} (hden : 0 < den) (h : (num : ℚ) < m * 2 ^ e * den) :
    scaledRound num den e ≤ m := by
  have hwhole := mt (mul_zpow_mul_le_iff m num den e).2 h.not_ge
  rw [scaledRound]
  split
  · next hsign =>
    rw [if_pos hsign, not_le] at hwhole
    exact roundDiv_le (Nat.mul_pos hden (Nat.pow_pos Nat.two_pos)) hwhole
  · next hsign =>
    rw [if_neg hsign, not_le] at hwhole
    exact roundDiv_le hden hwhole

/-- The exponent that a fraction is rounded at. -/
def roundExponent (num den : Nat) : Int :=
  max (floorLog2 num den - (precision - 1 : Nat)) minExponent

private theorem scaledRound_roundExponent_le (hnum : 0 < num) (hden : 0 < den) :
    scaledRound num den (roundExponent num den) ≤ Nat.pow 2 precision := by
  refine scaledRound_le hden (lt_of_lt_of_le (floorLog2_spec hnum hden).2 ?_)
  have hpower : ((Nat.pow 2 precision : Nat) : ℚ) = 2 ^ (53 : Int) := by norm_num [precision]
  rw [hpower, ← zpow_add₀ two_ne_zero]
  refine mul_le_mul_of_nonneg_right (zpow_le_zpow_right₀ one_le_two ?_) den.cast_nonneg
  simp only [roundExponent, precision, minExponent]
  omega

/-- Above the smallest exponent the rounded significand has all its bits. -/
theorem le_scaledRound_roundExponent (hnum : 0 < num) (hden : 0 < den)
    (h : roundExponent num den ≠ minExponent) :
    Nat.pow 2 (precision - 1) ≤ scaledRound num den (roundExponent num den) := by
  refine le_scaledRound hden (le_trans (le_of_eq ?_) (floorLog2_spec hnum hden).1)
  have hpower : ((Nat.pow 2 (precision - 1) : Nat) : ℚ) = 2 ^ (52 : Int) := by
    norm_num [precision]
  rw [hpower, ← zpow_add₀ two_ne_zero]
  congr 2
  simp only [roundExponent, precision, minExponent] at h ⊢
  omega

end Quotients

/-! ## Rounded values -/

section Values

variable {negative : Bool} {num den : Nat} {x y z : Binary64}

private theorem canonical_zero (negative : Bool) : (zero negative).Canonical := by
  cases negative <;> decide

theorem Canonical.eq_zero (h : x.Canonical) (hzero : x.isZero = true) : x = zero x.negative := by
  obtain ⟨-, -, -, hform⟩ := h
  obtain ⟨negative, significand, exponent⟩ := x
  obtain rfl : significand = 0 := eq_of_beq hzero
  rcases hform with hbits | rfl
  · exact absurd hbits (Nat.not_le.2 (Nat.pow_pos Nat.two_pos))
  · rfl

/-- A rounded significand and its exponent: one bit too many moves the exponent. -/
def carried (significand : Nat) (exponent : Int) : Nat × Int :=
  if significand = Nat.pow 2 precision then (Nat.pow 2 (precision - 1), exponent + 1)
  else (significand, exponent)

theorem eq_carried_of_ofRatio? (hnum : 0 < num) (h : ofRatio? negative num den = some x) :
    (x.significand, x.exponent)
        = carried (scaledRound num den (roundExponent num den)) (roundExponent num den) ∧
      x.exponent ≤ maxExponent := by
  have hvalue (p : Nat × Int) (hp : (if maxExponent < p.2 then none
      else some (⟨negative, p.1, p.2⟩ : Binary64)) = some x) :
      (x.significand, x.exponent) = p ∧ x.exponent ≤ maxExponent := by
    split at hp
    · cases hp
    · next hmax =>
      cases hp
      exact ⟨rfl, not_lt.1 hmax⟩
  rw [ofRatio?, if_neg hnum.ne'] at h
  exact hvalue _ h

theorem canonical_ofRatio? (hden : 0 < den) (h : ofRatio? negative num den = some x) :
    x.Canonical := by
  rcases Nat.eq_zero_or_pos num with rfl | hnum
  · cases h
    exact canonical_zero negative
  · obtain ⟨hcarried, hmax⟩ := eq_carried_of_ofRatio? hnum h
    have hmin : minExponent ≤ roundExponent num den := le_max_right _ _
    rw [carried] at hcarried
    split at hcarried
    · obtain ⟨hsignificand, hexponent⟩ := Prod.mk.inj hcarried
      rw [Canonical, hsignificand]
      exact ⟨hexponent ▸ Int.le_add_one hmin, hmax,
        Nat.pow_lt_pow_right (by decide) (by decide), .inl le_rfl⟩
    · next hcarry =>
      obtain ⟨hsignificand, hexponent⟩ := Prod.mk.inj hcarried
      rw [Canonical, hsignificand]
      refine ⟨hexponent ▸ hmin, hmax,
        lt_of_le_of_ne (scaledRound_roundExponent_le hnum hden) hcarry, ?_⟩
      by_cases hsmall : roundExponent num den = minExponent
      · exact .inr (hexponent.trans hsmall)
      · exact .inl (le_scaledRound_roundExponent hnum hden hsmall)

private theorem roundExponent_le_exponent (hnum : 0 < num)
    (h : ofRatio? negative num den = some x) :
    roundExponent num den ≤ x.exponent := by
  obtain ⟨hcarried, -⟩ := eq_carried_of_ofRatio? hnum h
  rw [carried] at hcarried
  split at hcarried
  · exact (Prod.mk.inj hcarried).2 ▸ Int.le_add_one le_rfl
  · exact (Prod.mk.inj hcarried).2.ge

theorem significand_pos (hden : 0 < den) (hle : den ≤ num)
    (h : ofRatio? negative num den = some x) : 0 < x.significand := by
  have hnum : 0 < num := lt_of_lt_of_le hden hle
  have hlog : 0 ≤ floorLog2 num den := by
    by_contra hneg
    have hpower : (2 : ℚ) ^ (floorLog2 num den + 1) ≤ 1 :=
      zpow_le_one_of_nonpos₀ one_le_two (by omega)
    have hlt : (num : ℚ) < den :=
      lt_of_lt_of_le (floorLog2_spec hnum hden).2 (mul_le_of_le_one_left den.cast_nonneg hpower)
    exact absurd (Nat.cast_lt.1 hlt) (not_lt.2 hle)
  have hexponent := roundExponent_le_exponent hnum h
  obtain ⟨-, -, -, hbits | hmin⟩ := canonical_ofRatio? hden h
  · exact lt_of_lt_of_le (Nat.pow_pos Nat.two_pos) hbits
  · simp only [roundExponent, precision, minExponent] at hexponent hmin
    omega

theorem canonical_ofNat? {n : Nat} (h : ofNat? n = some x) : x.Canonical :=
  canonical_ofRatio? Nat.one_pos h

theorem significand_pos_of_ofNat? {n : Nat} (hn : 0 < n) (h : ofNat? n = some x) :
    0 < x.significand :=
  significand_pos Nat.one_pos hn h

theorem ratio_snd_pos (x : Binary64) : 0 < x.ratio.2 := by
  rw [ratio]
  split
  · exact Nat.one_pos
  · exact Nat.pow_pos Nat.two_pos

private theorem ratio_fst_pos (h : 0 < x.significand) : 0 < x.ratio.1 := by
  rw [ratio]
  split
  · exact Nat.mul_pos h (Nat.pow_pos Nat.two_pos)
  · exact h

theorem canonical_mul? (h : x.mul? y = some z) : z.Canonical :=
  canonical_ofRatio? (Nat.mul_pos x.ratio_snd_pos y.ratio_snd_pos) h

theorem canonical_div? (hy : 0 < y.significand) (h : x.div? y = some z) : z.Canonical :=
  canonical_ofRatio? (Nat.mul_pos x.ratio_snd_pos (ratio_fst_pos hy)) h

end Values

end FeedHarvest.Number.Binary64
