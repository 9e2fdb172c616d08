import FeedHarvest.Text.Blank
import FeedHarvest.Text.Digits
import Mathlib.Data.List.TakeWhile

/-!
# Written numbers

A number that is written in decimal is read as itself, with leading zeros or without. Core knows
this of its own digits; what is added here is that the digits of this library are core's.
-/

namespace FeedHarvest.Text

/-! ## Digits -/

theorem isDigit_eq (c : Char) : isDigit c = c.isDigit := by
  rw [Bool.eq_iff_iff]
  simp only [isDigit, Char.isDigit, Bool.and_eq_true, decide_eq_true_eq, ge_iff_le]
  exact Iff.rfl

theorem toNat_of_isDigit {c : Char} (h : isDigit c = true) : 48 ≤ c.toNat ∧ c.toNat ≤ 57 := by
  simp only [isDigit, Bool.and_eq_true, decide_eq_true_eq] at h
  exact h

theorem digitValue?_of_isDigit {c : Char} (h : isDigit c = true) :
    digitValue? c = some (c.toNat - 48) := by
  simp only [isDigit, Bool.and_eq_true, decide_eq_true_eq] at h
  rw [digitValue?, if_pos h]
  rfl

theorem isBlank_of_isDigit {c : Char} (h : isDigit c = true) : isBlank c = false := by
  obtain ⟨hlo, hhi⟩ := toNat_of_isDigit h
  simp only [isBlank, Bool.or_eq_false_iff, Bool.and_eq_false_iff, decide_eq_false_iff_not,
    beq_eq_false_iff_ne]
  omega

theorem ofDigits_eq_ofDigitChars {cs : List Char} (h : ∀ c ∈ cs, isDigit c = true) (acc : Nat) :
    ofDigits 10 acc cs = Nat.ofDigitChars 10 cs acc := by
  induction cs generalizing acc with
  | nil => rfl
  | cons c cs ih =>
    have hc : (digitValue? c).getD 0 = c.toNat - '0'.toNat := by
      rw [digitValue?_of_isDigit (h c List.mem_cons_self)]
      rfl
    rw [ofDigits, List.foldl_cons, hc]
    exact ih (fun x hx ↦ h x (List.mem_cons_of_mem c hx)) _

/-! ## Decimal numbers -/

theorem isDigit_of_mem_decimal {n : Nat} {c : Char} (h : c ∈ decimal n) : isDigit c = true := by
  rw [isDigit_eq]
  exact Nat.isDigit_of_mem_toDigits (by omega) (by omega) h

theorem decimal_ne_nil (n : Nat) : decimal n ≠ [] :=
  List.ne_nil_of_length_pos Nat.length_toDigits_pos

theorem ofDigits_decimal (n : Nat) : ofDigits 10 0 (decimal n) = n := by
  rw [ofDigits_eq_ofDigitChars fun c hc ↦ isDigit_of_mem_decimal hc]
  exact Nat.ofDigitChars_toDigits (by omega) (by omega)

theorem decimal_inj {m n : Nat} : decimal m = decimal n ↔ m = n :=
  ⟨fun h ↦ by rw [← ofDigits_decimal m, h, ofDigits_decimal], congrArg decimal⟩

theorem length_decimal_le_iff {n width : Nat} (h : 0 < width) :
    (decimal n).length ≤ width ↔ n < Nat.pow 10 width :=
  Nat.length_toDigits_le_iff (by omega) h

/-! ## Padded numbers -/

theorem isDigit_of_mem_padded {width n : Nat} {c : Char} (h : c ∈ padded width n) :
    isDigit c = true := by
  rcases List.mem_append.1 h with h | h
  · rw [(List.mem_replicate.1 h).2]
    decide
  · exact isDigit_of_mem_decimal h

theorem padded_ne_nil (width n : Nat) : padded width n ≠ [] := fun h ↦
  decimal_ne_nil n (List.append_eq_nil_iff.1 h).2

theorem length_padded {width n : Nat} (hwidth : 0 < width) (h : n < Nat.pow 10 width) :
    (padded width n).length = width := by
  have hle := (length_decimal_le_iff hwidth).2 h
  rw [padded, List.length_append, List.length_replicate]
  omega

/-- Leading zeros do not count. -/
theorem ofDigits_replicate_append (k : Nat) (cs : List Char) :
    ofDigits 10 0 (List.replicate k '0' ++ cs) = ofDigits 10 0 cs := by
  induction k with
  | zero => rfl
  | succ k ih =>
    rw [List.replicate_succ, List.cons_append, ofDigits, List.foldl_cons]
    exact ih

theorem ofDigits_padded (width n : Nat) : ofDigits 10 0 (padded width n) = n :=
  (ofDigits_replicate_append _ _).trans (ofDigits_decimal n)

theorem natOfDecimal?_of_forall {cs : List Char} (hne : cs ≠ [])
    (h : ∀ c ∈ cs, isDigit c = true) : natOfDecimal? cs = some (ofDigits 10 0 cs) := by
  have hempty : cs.isEmpty = false := by simpa using hne
  rw [natOfDecimal?, hempty, List.all_eq_true.2 h]
  rfl

theorem ofDigits_lt {cs : List Char} (h : ∀ c ∈ cs, isDigit c = true) (acc : Nat) :
    ofDigits 10 acc cs < (acc + 1) * Nat.pow 10 cs.length := by
  induction cs generalizing acc with
  | nil =>
    rw [List.length_nil]
    exact Nat.lt_of_lt_of_eq (Nat.lt_succ_self acc) (Nat.mul_one _).symm
  | cons c cs ih =>
    have hc := h c List.mem_cons_self
    have hbound := toNat_of_isDigit hc
    rw [ofDigits, List.foldl_cons, digitValue?_of_isDigit hc, Option.getD_some]
    calc ofDigits 10 (10 * acc + (c.toNat - 48)) cs
        < (10 * acc + (c.toNat - 48) + 1) * Nat.pow 10 cs.length :=
          ih (fun x hx ↦ h x (List.mem_cons_of_mem c hx)) _
      _ ≤ (acc + 1) * 10 * Nat.pow 10 cs.length := Nat.mul_le_mul_right _ (by omega)
      _ = (acc + 1) * Nat.pow 10 (c :: cs).length := by
        rw [Nat.mul_assoc, Nat.mul_comm 10, List.length_cons]
        rfl

theorem le_ofDigits (acc : Nat) (cs : List Char) : acc ≤ ofDigits 10 acc cs := by
  induction cs generalizing acc with
  | nil => exact Nat.le_refl acc
  | cons c cs ih =>
    rw [ofDigits, List.foldl_cons]
    exact Nat.le_trans (by omega) (ih _)

theorem natOfDecimal?_lt {cs : List Char} {n : Nat} (h : natOfDecimal? cs = some n) :
    n < Nat.pow 10 cs.length := by
  rw [natOfDecimal?] at h
  split at h
  · next hcs =>
    cases h
    have hdigits := List.all_eq_true.1 (Bool.and_eq_true_iff.1 hcs).2
    have hlt := ofDigits_lt hdigits 0
    rwa [Nat.zero_add, Nat.one_mul] at hlt
  · cases h

/-! ## Counts between blanks -/

theorem natOfDecimal?_eq_some_iff {cs : List Char} {n : Nat} :
    natOfDecimal? cs = some n ↔
      cs ≠ [] ∧ (∀ c ∈ cs, isDigit c = true) ∧ ofDigits 10 0 cs = n := by
  constructor
  · intro h
    rw [natOfDecimal?] at h
    split at h
    · next hcs =>
      obtain ⟨hne, hall⟩ := Bool.and_eq_true_iff.1 hcs
      exact ⟨by simpa using hne, List.all_eq_true.1 hall, Option.some.inj h⟩
    · cases h
  · rintro ⟨hne, hdigits, rfl⟩
    exact natOfDecimal?_of_forall hne hdigits

theorem natOfDecimal?_eq_some_iff_ofDigitChars {cs : List Char} {n : Nat} :
    natOfDecimal? cs = some n ↔
      cs ≠ [] ∧ (∀ c ∈ cs, c.isDigit = true) ∧ Nat.ofDigitChars 10 cs 0 = n := by
  simp only [natOfDecimal?_eq_some_iff, ← isDigit_eq]
  refine and_congr_right fun _ ↦ and_congr_right fun hdigits ↦ ?_
  rw [ofDigits_eq_ofDigitChars hdigits]

theorem le_maxCount_iff {n : Nat} : n ≤ maxCount ↔ n < Nat.pow 2 64 :=
  Nat.le_sub_one_iff_lt (Nat.pow_pos (by decide))

theorem count?_eq {cs : List Char} (digits : List Char)
    (h : cs = '+' :: digits ∨ cs = digits ∧ digits.head? ≠ some '+') :
    count? cs = (natOfDecimal? digits).bind fun n ↦ if n ≤ maxCount then some n else none := by
  rcases h with rfl | ⟨rfl, hhead⟩
  · rfl
  · rw [count?]
    · rfl
    · rintro rest rfl
      exact hhead rfl

theorem count?_eq_some_iff {cs : List Char} {n : Nat} :
    count? cs = some n ↔ ∃ sign digits, cs = sign ++ digits ∧ (sign = [] ∨ sign = ['+']) ∧
      natOfDecimal? digits = some n ∧ n ≤ maxCount := by
  have hbound (digits : List Char) :
      ((natOfDecimal? digits).bind fun m ↦ if m ≤ maxCount then some m else none) = some n ↔
        natOfDecimal? digits = some n ∧ n ≤ maxCount := by
    rw [Option.bind_eq_some_iff]
    constructor
    · rintro ⟨m, hm, hn⟩
      split at hn
      · next hle =>
        cases hn
        exact ⟨hm, hle⟩
      · cases hn
    · rintro ⟨hn, hle⟩
      exact ⟨n, hn, if_pos hle⟩
  constructor
  · intro h
    by_cases hplus : cs.head? = some '+'
    · obtain ⟨digits, rfl⟩ := List.head?_eq_some_iff.1 hplus
      rw [count?_eq digits (.inl rfl), hbound] at h
      exact ⟨['+'], digits, rfl, .inr rfl, h⟩
    · rw [count?_eq cs (.inr ⟨rfl, hplus⟩), hbound] at h
      exact ⟨[], cs, rfl, .inl rfl, h⟩
  · rintro ⟨sign, digits, rfl, hsign, h⟩
    rw [count?_eq digits, hbound]
    · exact h
    · rcases hsign with rfl | rfl
      · refine .inr ⟨rfl, fun hplus ↦ ?_⟩
        have hdigit := (natOfDecimal?_eq_some_iff.1 h.1).2.1 '+' (List.mem_of_head? hplus)
        exact absurd hdigit (by decide)
      · exact .inl rfl

theorem exists_blanks_trim (cs : List Char) :
    ∃ before after, (∀ c ∈ before, isBlank c = true) ∧ (∀ c ∈ after, isBlank c = true) ∧
      cs = before ++ trim cs ++ after := by
  refine ⟨cs.takeWhile isBlank, ((trimStart cs).reverse.takeWhile isBlank).reverse,
    fun c ↦ List.mem_takeWhile_imp, fun c hc ↦ ?_, ?_⟩
  · exact List.mem_takeWhile_imp (List.mem_reverse.1 hc)
  · have hend : trim cs ++ ((trimStart cs).reverse.takeWhile isBlank).reverse = trimStart cs := by
      rw [trim, trimEnd, ← List.reverse_append, List.takeWhile_append_dropWhile,
        List.reverse_reverse]
    rw [List.append_assoc, hend, trimStart, List.takeWhile_append_dropWhile]

/-- Blanks at both ends of a text without blanks are all that is cut off. -/
theorem trim_append {before core after : List Char} (hbefore : ∀ c ∈ before, isBlank c = true)
    (hafter : ∀ c ∈ after, isBlank c = true) (hne : core ≠ [])
    (hcore : ∀ c ∈ core, isBlank c = false) : trim (before ++ core ++ after) = core := by
  have hstop (cs rest : List Char) (hcs : ∀ c ∈ cs, isBlank c = false) (hnil : cs ≠ []) :
      (cs ++ rest).dropWhile isBlank = cs ++ rest := by
    obtain ⟨c, cs, rfl⟩ := List.exists_cons_of_ne_nil hnil
    rw [List.cons_append, List.dropWhile_cons, hcs c List.mem_cons_self,
      if_neg Bool.false_ne_true]
  have hstart : trimStart (before ++ core ++ after) = core ++ after := by
    rw [trimStart, List.append_assoc, List.dropWhile_append_of_pos hbefore, hstop _ _ hcore hne]
  have hreverse : ∀ c ∈ core.reverse, isBlank c = false :=
    fun c hc ↦ hcore c (List.mem_reverse.1 hc)
  have hlast := hstop _ [] hreverse (by simpa using hne)
  rw [List.append_nil] at hlast
  rw [trim, hstart, trimEnd, List.reverse_append,
    List.dropWhile_append_of_pos fun c hc ↦ hafter c (List.mem_reverse.1 hc), hlast,
    List.reverse_reverse]

theorem count?_trim_eq_some_iff {cs : List Char} {n : Nat} :
    count? (trim cs) = some n ↔ ∃ before sign digits after,
      cs = before ++ (sign ++ digits) ++ after ∧ (∀ c ∈ before, isBlank c = true) ∧
      (∀ c ∈ after, isBlank c = true) ∧ (sign = [] ∨ sign = ['+']) ∧
      natOfDecimal? digits = some n ∧ n ≤ maxCount := by
  rw [count?_eq_some_iff]
  constructor
  · rintro ⟨sign, digits, htrim, h⟩
    obtain ⟨before, after, hbefore, hafter, hcs⟩ := exists_blanks_trim cs
    rw [htrim] at hcs
    exact ⟨before, sign, digits, after, hcs, hbefore, hafter, h⟩
  · rintro ⟨before, sign, digits, after, rfl, hbefore, hafter, hsign, hn, hle⟩
    refine ⟨sign, digits, ?_, hsign, hn, hle⟩
    obtain ⟨hne, hdigits, -⟩ := natOfDecimal?_eq_some_iff.1 hn
    apply trim_append hbefore hafter
    · intro h
      exact hne (List.append_eq_nil_iff.1 h).2
    · intro c hc
      rcases List.mem_append.1 hc with hc | hc
      · rcases hsign with rfl | rfl
        · exact absurd hc List.not_mem_nil
        · rw [List.mem_singleton.1 hc]
          decide
      · exact isBlank_of_isDigit (hdigits c hc)

/-! ## The order of padded numbers -/

theorem lt_iff_toNat_lt {c d : Char} : c < d ↔ c.toNat < d.toNat :=
  Char.lt_def.trans UInt32.lt_iff_toNat_lt

/-- Of equally many digits the first that differ decide, in a number as in a text. -/
theorem ofDigits_lt_ofDigits_iff {cs ds : List Char} (hcs : ∀ c ∈ cs, isDigit c = true)
    (hds : ∀ d ∈ ds, isDigit d = true) (h : cs.length = ds.length) (a b : Nat) :
    ofDigits 10 a cs < ofDigits 10 b ds ↔ a < b ∨ a = b ∧ cs < ds := by
  -- what was read before weighs more than all digits to come
  induction cs generalizing ds a b with
  | nil =>
    obtain rfl := List.length_eq_zero_iff.1 h.symm
    simp [ofDigits]
  | cons c cs ih =>
    obtain ⟨d, ds, rfl⟩ := List.exists_cons_of_length_eq_add_one h.symm
    have hc := hcs c List.mem_cons_self
    have hd := hds d List.mem_cons_self
    have hcbound := toNat_of_isDigit hc
    have hdbound := toNat_of_isDigit hd
    have hrest := ih (fun x hx ↦ hcs x (List.mem_cons_of_mem c hx))
      (fun x hx ↦ hds x (List.mem_cons_of_mem d hx)) (Nat.succ.inj h)
      (10 * a + (c.toNat - 48)) (10 * b + (d.toNat - 48))
    rw [ofDigits, ofDigits, List.foldl_cons, List.foldl_cons, digitValue?_of_isDigit hc,
      digitValue?_of_isDigit hd, Option.getD_some, Option.getD_some]
    refine hrest.trans ?_
    rw [List.cons_lt_cons_iff, lt_iff_toNat_lt, ← Char.toNat_inj]
    by_cases hlt : cs < ds
    · simp only [hlt, and_true]
      omega
    · simp only [hlt, and_false, or_false]
      omega

private theorem append_lt_append_iff {cs ds xs ys : List Char} (h : cs.length = ds.length) :
    cs ++ xs < ds ++ ys ↔ cs < ds ∨ cs = ds ∧ xs < ys := by
  induction cs generalizing ds with
  | nil =>
    obtain rfl := List.length_eq_zero_iff.1 h.symm
    simp
  | cons c cs ih =>
    obtain ⟨d, ds, rfl⟩ := List.exists_cons_of_length_eq_add_one h.symm
    rw [List.cons_append, List.cons_append, List.cons_lt_cons_iff, List.cons_lt_cons_iff,
      ih (Nat.succ.inj h), List.cons.injEq, and_or_left, or_assoc, and_assoc]

/-- Numbers of one width in front of texts: a text only counts where the numbers are equal. -/
theorem padded_append_lt_iff {width m n : Nat} (hwidth : 0 < width) (hm : m < Nat.pow 10 width)
    (hn : n < Nat.pow 10 width) {xs ys : List Char} :
    padded width m ++ xs < padded width n ++ ys ↔ m < n ∨ m = n ∧ xs < ys := by
  have hlength := (length_padded hwidth hm).trans (length_padded hwidth hn).symm
  have hlt := ofDigits_lt_ofDigits_iff (fun _ ↦ isDigit_of_mem_padded)
    (fun _ ↦ isDigit_of_mem_padded) hlength 0 0
  have heq : padded width m = padded width n ↔ m = n :=
    ⟨fun h ↦ by rw [← ofDigits_padded width m, h, ofDigits_padded], congrArg _⟩
  rw [ofDigits_padded, ofDigits_padded] at hlt
  rw [append_lt_append_iff hlength, heq, hlt]
  simp

end FeedHarvest.Text
