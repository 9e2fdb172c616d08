import FeedHarvest.Json.Reader
import FeedHarvest.Json.Writer
import FeedHarvest.Proofs.Text.Digits

/-!
# Written tokens

A string is read back part by part: each character is written as one part, whatever it is, and the
parts have the text that was written. An integer is read back up to where it ends, so what follows
it must not look like more of a number.
-/

namespace FeedHarvest.Json

/-! ## Strings -/

/-- The part that a character is written as: only a control character without an escape of its own
is written by its number. -/
def partOf (c : Char) : StringPart :=
  if c.toNat < 0x20 ∧ c ∉ ['\x08', '\x0c', '\n', '\r', '\t'] then .unit c.toNat else .char c

def partsOf (s : String) : List StringPart := s.toList.map partOf

private theorem natOfHex?_control {n : Nat} (h : n < 0x20) :
    Text.natOfHex? ['0', '0', Text.digitChar (n / 16), Text.digitChar (n % 16)] = some n := by
  revert n
  decide

section Strings

variable {c e : Char} {rest : List Char}

private theorem lexString_unit {n : Nat} {c₁ c₂ c₃ c₄ : Char}
    (h : Text.natOfHex? [c₁, c₂, c₃, c₄] = some n) :
    lexString ('\\' :: 'u' :: c₁ :: c₂ :: c₃ :: c₄ :: rest) =
      (lexString rest).map fun (ps, r) ↦ (.unit n :: ps, r) := by
  rw [lexString, h]
  cases lexString rest <;> rfl

theorem lexString_simple (h : simpleEscape? e = some c) :
    lexString ('\\' :: e :: rest) = (lexString rest).map fun (ps, r) ↦ (.char c :: ps, r) := by
  have hu : e ≠ 'u' := fun heq ↦ by
    rw [heq] at h
    cases h
  rw [lexString, h]
  · cases lexString rest <;> rfl
  · intro _ _ _ _ _ heq
    exact absurd heq hu

private theorem lexString_plain (hquote : c ≠ '"') (hslash : c ≠ '\\') (hc : 0x20 ≤ c.toNat) :
    lexString (c :: rest) = (lexString rest).map fun (ps, r) ↦ (.char c :: ps, r) := by
  have hplain : (decide (c.toNat < 0x20) || c == '\\') = false := by
    rw [decide_eq_false (Nat.not_lt.2 hc), beq_false_of_ne hslash]
    rfl
  rw [lexString, hplain, if_neg Bool.false_ne_true]
  · cases lexString rest <;> rfl
  · rintro ⟨⟩
    exact hquote rfl
  · rintro _ _ _ _ _ ⟨⟩
    exact absurd rfl hslash
  · rintro _ _ ⟨⟩
    exact absurd rfl hslash

/-- What is written for a character is one part, whatever comes after it. -/
theorem lexString_escape (c : Char) (rest : List Char) :
    lexString (escape c ++ rest) = (lexString rest).map fun (ps, r) ↦ (partOf c :: ps, r) := by
  by_cases hquote : c = '"'
  · subst hquote
    exact lexString_simple rfl
  by_cases hslash : c = '\\'
  · subst hslash
    exact lexString_simple rfl
  by_cases hshort : c ∈ ['\x08', '\x0c', '\n', '\r', '\t']
  · simp only [List.mem_cons, List.not_mem_nil, or_false] at hshort
    rcases hshort with rfl | rfl | rfl | rfl | rfl <;> exact lexString_simple rfl
  · have hescape : escape c = if c.toNat < 0x20 then
        ['\\', 'u', '0', '0', Text.digitChar (c.toNat / 16), Text.digitChar (c.toNat % 16)]
        else [c] := by
      simp only [List.mem_cons, List.not_mem_nil, or_false, not_or] at hshort
      simp only [escape, beq_iff_eq, hquote, hslash, hshort, if_false]
    rw [hescape, partOf]
    by_cases hcontrol : c.toNat < 0x20
    · rw [if_pos hcontrol, if_pos ⟨hcontrol, hshort⟩]
      exact lexString_unit (natOfHex?_control hcontrol)
    · rw [if_neg hcontrol, if_neg fun h ↦ hcontrol h.1]
      exact lexString_plain hquote hslash (Nat.not_lt.1 hcontrol)

end Strings

theorem lexString_quoted (cs rest : List Char) :
    lexString (cs.flatMap escape ++ '"' :: rest) = some (cs.map partOf, rest) := by
  induction cs with
  | nil => rw [List.flatMap_nil, List.nil_append, lexString, List.map_nil]
  | cons c cs ih =>
    rw [List.flatMap_cons, List.append_assoc, lexString_escape, ih, Option.map_some, List.map_cons]

private theorem characters?_map_partOf (cs : List Char) :
    characters? (cs.map partOf) = some cs := by
  induction cs with
  | nil => rfl
  | cons c cs ih =>
    rw [List.map_cons, partOf]
    split
    · next hc =>
      rw [characters?.eq_def]
      dsimp only
      rw [if_neg (by omega), if_neg (by omega), ih, Option.map_some, Char.ofNat_toNat]
    · rw [characters?, ih, Option.map_some]

@[simp] theorem text?_partsOf (s : String) : text? (partsOf s) = some s := by
  rw [text?, partsOf, characters?_map_partOf, Option.map_some, String.ofList_toList]

/-! ## Integers -/

def intSource (n : Int) : NumberText := ⟨decide (n < 0), Text.decimal n.natAbs, none, none⟩

/-- What may come after a number: nothing, or a character that is no part of one. -/
def EndsNumber (rest : List Char) : Prop :=
  ∀ c ∈ rest.head?, Text.isDigit c = false ∧ c ≠ '.' ∧ c ≠ 'e' ∧ c ≠ 'E'

section Integers

variable {rest : List Char}

private theorem digitRun_append {ds : List Char} (hds : ∀ c ∈ ds, Text.isDigit c = true)
    (hrest : EndsNumber rest) : digitRun (ds ++ rest) = (ds, rest) := by
  rw [digitRun, List.takeWhile_append_of_pos hds, List.dropWhile_append_of_pos hds]
  cases rest with
  | nil => rw [List.takeWhile_nil, List.dropWhile_nil, List.append_nil]
  | cons c cs =>
    have hc := (hrest c rfl).1
    rw [List.takeWhile_cons, List.dropWhile_cons, hc, if_neg Bool.false_ne_true,
      if_neg Bool.false_ne_true, List.append_nil]

theorem eq_nil_of_decimal_eq {n : Nat} {cs : List Char} (h : Text.decimal n = '0' :: cs) :
    cs = [] := by
  refine Decidable.byContradiction fun hne ↦ ?_
  have hpos := List.length_pos_iff.2 hne
  have hdigits : ∀ c ∈ cs, Text.isDigit c = true := fun c hc ↦
    Text.isDigit_of_mem_decimal (h ▸ List.mem_cons_of_mem '0' hc)
  have hvalue : n = Text.ofDigits 10 0 cs := by
    rw [← Text.ofDigits_decimal n, h]
    exact Text.ofDigits_replicate_append 1 cs
  -- the digits after the zero have the same value, and one digit fewer would have done
  have hlt := Text.ofDigits_lt hdigits 0
  rw [Nat.zero_add, Nat.one_mul, ← hvalue, ← Text.length_decimal_le_iff hpos, h,
    List.length_cons] at hlt
  omega

private theorem lexWhole_decimal (n : Nat) (hrest : EndsNumber rest) :
    lexWhole (Text.decimal n ++ rest) = some (Text.decimal n, rest) := by
  have hrun : digitRun (Text.decimal n ++ rest) = (Text.decimal n, rest) :=
    digitRun_append (fun c hc ↦ Text.isDigit_of_mem_decimal hc) hrest
  obtain ⟨c, cs, heq⟩ := List.exists_cons_of_ne_nil (Text.decimal_ne_nil n)
  by_cases hzero : c = '0'
  · subst hzero
    rw [heq, eq_nil_of_decimal_eq heq]
    rfl
  · rw [heq] at hrun ⊢
    rw [lexWhole, hrun]
    · rfl
    · rintro _ ⟨⟩
      exact hzero rfl

private theorem lexFraction_eq_none (hrest : EndsNumber rest) :
    lexFraction rest = some (none, rest) := by
  cases rest with
  | nil => rfl
  | cons c cs =>
    rw [lexFraction]
    rintro _ ⟨⟩
    exact (hrest '.' rfl).2.1 rfl

private theorem lexExponent_eq_none (hrest : EndsNumber rest) :
    lexExponent rest = some (none, rest) := by
  cases rest with
  | nil => rfl
  | cons c cs =>
    obtain ⟨-, -, he, hE⟩ := hrest c rfl
    rw [lexExponent, beq_false_of_ne he, beq_false_of_ne hE]
    rfl

private theorem lexMinus_decimal (n : Nat) (rest : List Char) :
    lexMinus (Text.decimal n ++ rest) = (false, Text.decimal n ++ rest) := by
  obtain ⟨c, cs, heq⟩ := List.exists_cons_of_ne_nil (Text.decimal_ne_nil n)
  have hc : Text.isDigit c = true := Text.isDigit_of_mem_decimal (heq ▸ List.mem_cons_self)
  rw [heq, List.cons_append, lexMinus]
  rintro _ ⟨⟩
  exact absurd hc (by decide)

theorem lexNumber_intText (n : Int) (hrest : EndsNumber rest) :
    lexNumber (intText n ++ rest) = some (intSource n, rest) := by
  have hminus : lexMinus (intText n ++ rest) =
      (decide (n < 0), Text.decimal n.natAbs ++ rest) := by
    rw [intText]
    split
    · next hneg => rw [decide_eq_true hneg, List.cons_append, lexMinus]
    · next hneg => rw [decide_eq_false hneg, lexMinus_decimal]
  simp only [lexNumber, hminus, lexWhole_decimal _ hrest, lexFraction_eq_none hrest,
    lexExponent_eq_none hrest, bind, Option.bind_some, pure, intSource]

private theorem significand_of_le {ds : List Char} {acc : Nat}
    (h : Text.ofDigits 10 acc ds ≤ Text.maxCount) :
    significand acc ds = (Text.ofDigits 10 acc ds, []) := by
  induction ds generalizing acc with
  | nil => rfl
  | cons c cs ih =>
    have hnext : acc * 10 + (Text.digitValue? c).getD 0 ≤ Text.maxCount := by
      rw [Nat.mul_comm]
      exact Nat.le_trans (Text.le_ofDigits _ cs) h
    rw [significand, if_pos hnext, Nat.mul_comm]
    exact ih h

theorem value?_intSource {n : Int} (hlo : -(Nat.pow 2 63 : Nat) ≤ n) (hhi : n ≤ Text.maxCount) :
    (intSource n).value? = some (.int n) := by
  have hmax : Text.maxCount = 18446744073709551615 := rfl
  have hmin : Nat.pow 2 63 = 9223372036854775808 := rfl
  have hdigits : significand 0 (Text.decimal n.natAbs) = (n.natAbs, []) := by
    rw [significand_of_le, Text.ofDigits_decimal]
    rw [Text.ofDigits_decimal]
    omega
  have hwhole : (!decide (n < 0) || (decide (0 < n.natAbs) && decide (n.natAbs ≤ Nat.pow 2 63)))
      = true := by
    simp only [Bool.or_eq_true, Bool.not_eq_true', decide_eq_false_iff_not, Bool.and_eq_true,
      decide_eq_true_eq]
    omega
  have hvalue : (if decide (n < 0) = true then -(n.natAbs : Int) else n.natAbs) = n := by
    simp only [decide_eq_true_eq]
    split <;> omega
  rw [intSource, NumberText.value?]
  simp only [hdigits, Option.isNone_none, List.isEmpty_nil, Bool.and_true, hwhole, if_true, hvalue]

end Integers

/-! ## Token lists -/

section Tokens

variable {c : Char} {rest : List Char}

private theorem tokens?_space (hc : isSpace c = true) : tokens? (c :: rest) = tokens? rest := by
  have hne : ∀ d, isSpace d = false → c ≠ d := fun d hd heq ↦ by
    rw [← heq, hc] at hd
    cases hd
  rw [tokens?, if_pos hc]
  · exact fun _ heq ↦ absurd heq (hne 'n' rfl)
  · exact fun _ heq ↦ absurd heq (hne 't' rfl)
  · exact fun _ heq ↦ absurd heq (hne 'f' rfl)

theorem tokens?_spaces {cs : List Char} (hcs : ∀ c ∈ cs, isSpace c = true) (rest : List Char) :
    tokens? (cs ++ rest) = tokens? rest := by
  induction cs with
  | nil => rfl
  | cons c cs ih =>
    rw [List.cons_append, tokens?_space (hcs c List.mem_cons_self)]
    exact ih fun d hd ↦ hcs d (List.mem_cons_of_mem c hd)

theorem tokens?_punctuation {t : Token} (hc : punctuation? c = some t) :
    tokens? (c :: rest) = (tokens? rest).map (t :: ·) := by
  have hne : ∀ d, punctuation? d = none → c ≠ d := fun d hd heq ↦ by
    rw [← heq, hc] at hd
    cases hd
  have hspace : isSpace c = false := by
    simp only [isSpace, Bool.or_eq_false_iff, beq_eq_false_iff_ne]
    exact ⟨⟨⟨hne ' ' rfl, hne '\t' rfl⟩, hne '\n' rfl⟩, hne '\r' rfl⟩
  rw [tokens?, hspace, if_neg Bool.false_ne_true, hc]
  · exact fun _ heq ↦ absurd heq (hne 'n' rfl)
  · exact fun _ heq ↦ absurd heq (hne 't' rfl)
  · exact fun _ heq ↦ absurd heq (hne 'f' rfl)

theorem tokens?_quoted (s : String) (rest : List Char) :
    tokens? (quoted s ++ rest) = (tokens? rest).map (.string (partsOf s) :: ·) := by
  have hlex : lexString (s.toList.flatMap escape ++ ['"'] ++ rest) = some (partsOf s, rest) := by
    rw [List.append_assoc]
    exact lexString_quoted s.toList rest
  have hspace : isSpace '"' = false := by decide
  have hpunctuation : punctuation? '"' = none := rfl
  rw [quoted, List.cons_append, List.cons_append, tokens?, hspace, if_neg Bool.false_ne_true,
    hpunctuation]
  · dsimp only
    rw [if_pos (beq_self_eq_true '"')]
    split
    · next h =>
      rw [hlex] at h
      cases h
      rfl
    · next h =>
      rw [hlex] at h
      cases h
  · exact fun _ heq ↦ absurd heq (by decide)
  · exact fun _ heq ↦ absurd heq (by decide)
  · exact fun _ heq ↦ absurd heq (by decide)

/-- A digit or a minus sign starts a number and nothing else. -/
theorem tokens?_number {n : NumberText} {after : List Char}
    (hc : Text.isDigit c = true ∨ c = '-') (hlex : lexNumber (c :: rest) = some (n, after)) :
    tokens? (c :: rest) = (tokens? after).map (.number n :: ·) := by
  have hne : ∀ d, Text.isDigit d = false ∧ d ≠ '-' → c ≠ d := by
    rintro d ⟨hdigit, hminus⟩ rfl
    rcases hc with h | h
    · rw [h] at hdigit
      cases hdigit
    · exact hminus h
  have hspace : isSpace c = false := by
    simp only [isSpace, Bool.or_eq_false_iff, beq_eq_false_iff_ne]
    exact ⟨⟨⟨hne ' ' (by decide), hne '\t' (by decide)⟩, hne '\n' (by decide)⟩,
      hne '\r' (by decide)⟩
  have hpunctuation : punctuation? c = none := by
    rw [punctuation?.eq_def]
    split
    · exact absurd rfl (hne '[' (by decide))
    · exact absurd rfl (hne ']' (by decide))
    · exact absurd rfl (hne '\x7b' (by decide))
    · exact absurd rfl (hne '\x7d' (by decide))
    · exact absurd rfl (hne ',' (by decide))
    · exact absurd rfl (hne ':' (by decide))
    · rfl
  rw [tokens?, hspace, if_neg Bool.false_ne_true, hpunctuation]
  · dsimp only
    rw [beq_false_of_ne (hne '"' (by decide)), if_neg Bool.false_ne_true]
    split
    · next h =>
      rw [hlex] at h
      cases h
      rfl
    · next h =>
      rw [hlex] at h
      cases h
  · exact fun _ heq ↦ absurd heq (hne 'n' (by decide))
  · exact fun _ heq ↦ absurd heq (hne 't' (by decide))
  · exact fun _ heq ↦ absurd heq (hne 'f' (by decide))

theorem tokens?_intText (n : Int) (hrest : EndsNumber rest) :
    tokens? (intText n ++ rest) = (tokens? rest).map (.number (intSource n) :: ·) := by
  have hlex := lexNumber_intText n hrest
  obtain ⟨c, cs, heq, hc⟩ : ∃ c cs, intText n = c :: cs ∧ (Text.isDigit c = true ∨ c = '-') := by
    rw [intText]
    split
    · exact ⟨'-', _, rfl, .inr rfl⟩
    · obtain ⟨c, cs, heq⟩ := List.exists_cons_of_ne_nil (Text.decimal_ne_nil n.natAbs)
      exact ⟨c, cs, heq, .inl (Text.isDigit_of_mem_decimal (heq ▸ List.mem_cons_self))⟩
  rw [heq, List.cons_append] at hlex ⊢
  exact tokens?_number hc hlex

end Tokens

end FeedHarvest.Json
