import FeedHarvest.Text.Lower

/-!
# Lower case piece by piece

Only a sigma is lower-cased by what stands around it, and the search for a letter with case goes no
further than the first character that is neither a letter with case nor looked through. So such a
character, `IsBarrier`, cuts a text into two that are lower-cased each on its own, as though the
other were not there. A hyphen is one.

Lower-casing keeps the length of a text as well, the dotted capital I excepted.
-/

namespace FeedHarvest.Text

namespace Case

/-! ## Barriers -/

/-- Whether the search for a letter with case ends at the character, without finding one. -/
def IsBarrier (c : Char) : Prop := isCased c = false ∧ isIgnorable c = false

/-- Tables are searched as lists, which decide faster than arrays. -/
theorem inRanges_eq (ranges : Array (Nat × Nat)) (n : Nat) :
    inRanges ranges n = ranges.toList.any fun r ↦ decide (r.1 ≤ n) && decide (n ≤ r.2) :=
  Array.any_toList.symm

theorem isBarrier_hyphen : IsBarrier '-' := by
  rw [IsBarrier, isCased, isIgnorable, inRanges_eq, inRanges_eq]
  constructor
  · decide +kernel
  · decide +kernel

private theorem isCased_of_excepted {c : Char} (h : c = 'Σ' ∨ c = 'İ') : isCased c = true := by
  rw [isCased, inRanges_eq]
  rcases h with rfl | rfl
  · decide +kernel
  · decide +kernel

theorem meetsCased_cons (c : Char) (cs : List Char) :
    meetsCased (c :: cs) = if isIgnorable c then meetsCased cs else isCased c := by
  rw [meetsCased, List.dropWhile_cons]
  by_cases hc : isIgnorable c = true
  · rw [if_pos hc, if_pos hc, meetsCased]
  · rw [if_neg hc, if_neg hc]

section Barrier

variable {b : Char} (hb : IsBarrier b)
include hb

theorem IsBarrier.meetsCased_append (cs rest : List Char) :
    meetsCased (cs ++ b :: rest) = meetsCased cs := by
  induction cs with
  | nil =>
    rw [List.nil_append, meetsCased_cons, hb.2, if_neg Bool.false_ne_true, hb.1]
    rfl
  | cons c cs ih => rw [List.cons_append, meetsCased_cons, meetsCased_cons, ih]

/-- What comes before a barrier is lower-cased as though the text ended there. -/
theorem IsBarrier.lowerFrom_append (before cs rest : List Char) :
    lowerFrom before (cs ++ b :: rest)
      = lowerFrom before cs ++ lowerFrom (cs.reverse ++ before) (b :: rest) := by
  induction cs generalizing before with
  | nil => rfl
  | cons c cs ih =>
    have hlower : lowerAt before c (cs ++ b :: rest) = lowerAt before c cs := by
      rw [lowerAt, lowerAt, hb.meetsCased_append]
    rw [List.cons_append, lowerFrom, lowerFrom, hlower, ih, List.reverse_cons, List.append_assoc,
      List.append_assoc]
    rfl

/-- What comes after a barrier is lower-cased as though the text began there. -/
theorem IsBarrier.lowerFrom_eq (since before cs : List Char) :
    lowerFrom (since ++ b :: before) cs = lowerFrom since cs := by
  induction cs generalizing since with
  | nil => rfl
  | cons c cs ih =>
    rw [lowerFrom, lowerFrom, lowerAt, lowerAt, hb.meetsCased_append]
    exact congrArg _ (ih (c :: since))

/-- A barrier has no case and so is no exception. -/
theorem IsBarrier.lowerAt_eq (before after : List Char) :
    lowerAt before b after = [lowerChar b] := by
  have hplain : ¬ (b = 'Σ' ∨ b = 'İ') := fun h ↦
    absurd (hb.1.symm.trans (isCased_of_excepted h)) Bool.false_ne_true
  rw [not_or] at hplain
  rw [lowerAt, beq_false_of_ne hplain.1, beq_false_of_ne hplain.2]
  rfl

/-- **A barrier cuts a text into two that are lower-cased apart.** -/
theorem IsBarrier.lowerFrom_nil (cs rest : List Char) :
    lowerFrom [] (cs ++ b :: rest) = lowerFrom [] cs ++ lowerChar b :: lowerFrom [] rest := by
  rw [hb.lowerFrom_append, List.append_nil, lowerFrom, hb.lowerAt_eq]
  exact congrArg (lowerFrom [] cs ++ lowerChar b :: ·) (hb.lowerFrom_eq [] cs.reverse rest)

end Barrier

/-! ## Texts that are in lower case -/

private theorem mem_lowerRanges {r : LowerRange} (h : r ∈ lowerRanges) :
    r.first = 0x41 ∧ r.last = 0x5A ∨ 0xC0 ≤ r.first := by
  have hall : ∀ r ∈ lowerRanges.toList, r.first = 0x41 ∧ r.last = 0x5A ∨ 0xC0 ≤ r.first := by
    decide +kernel
  exact hall r (Array.mem_toList_iff.2 h)

/-- The first capitals are the Latin ones, and the next are not in ASCII. -/
theorem lowerChar_eq_self {c : Char} (h : c.toNat < 0x41 ∨ 0x5A < c.toNat ∧ c.toNat < 0xC0) :
    lowerChar c = c := by
  have hnone : lowerRanges.find? (·.holds c.toNat) = none := by
    refine Array.find?_eq_none.2 fun r hr ↦ ?_
    have hrange := mem_lowerRanges hr
    simp only [LowerRange.holds, Bool.and_eq_true, decide_eq_true_eq, not_and]
    omega
  -- an equation for `lowerChar` would have to open the table
  delta lowerChar
  rw [hnone]

theorem lowerFrom_eq_self {cs : List Char}
    (h : ∀ c ∈ cs, c.toNat < 0x41 ∨ 0x5A < c.toNat ∧ c.toNat < 0xC0) (before : List Char) :
    lowerFrom before cs = cs := by
  induction cs generalizing before with
  | nil => rfl
  | cons c cs ih =>
    have hc := h c List.mem_cons_self
    have hsigma : c ≠ 'Σ' := by
      rintro rfl
      exact absurd hc (by decide)
    have hdotted : c ≠ 'İ' := by
      rintro rfl
      exact absurd hc (by decide)
    rw [lowerFrom, ih fun x hx ↦ h x (List.mem_cons_of_mem c hx), lowerAt, beq_false_of_ne hsigma,
      beq_false_of_ne hdotted, lowerChar_eq_self hc]
    rfl

end Case

/-! ## Lengths -/

theorem length_lower {s : String} (h : 'İ' ∉ s.toList) : (lower s).length = s.length := by
  have hlower : ∀ cs before, 'İ' ∉ cs → (Case.lowerFrom before cs).length = cs.length := by
    intro cs
    induction cs with
    | nil =>
      intro before _
      rfl
    | cons c cs ih =>
      intro before hcs
      rw [List.mem_cons, not_or] at hcs
      have hc : (Case.lowerAt before c cs).length = 1 := by
        rw [Case.lowerAt]
        split
        · rfl
        · rw [if_neg (by simpa using Ne.symm hcs.1)]
          rfl
      rw [Case.lowerFrom, List.length_append, hc, ih _ hcs.2, List.length_cons, Nat.add_comm]
  rw [lower, String.length_ofList, hlower _ _ h, String.length_toList]

end FeedHarvest.Text
