import FeedHarvest.Http.Address
import FeedHarvest.Proofs.Text.Utf8

/-!
# Names in addresses

A name may have any characters, and an address has few: so the others are written as their bytes,
each behind a percent sign, and read back by the server. What is written says the name if the
reader gets its bytes and nothing in it ends the part of the address that it is. In a query a plus
sign is read as a space.
-/

namespace FeedHarvest.Http

open FeedHarvest.Text

/-- The characters that a name may be written with. -/
def isNameMark (c : Char) : Bool := c.isAlphanum || "%*+,-._".toList.contains c

/-- Whether a part of a path is read as a name. -/
structure PathSays (part name : String) : Prop where
  decode_eq : percentDecode (Utf8.encode part) = Utf8.encode name
  isNameMark_of_mem : ∀ c ∈ part.toList, isNameMark c = true

/-- Whether a value of a query is read as a name. -/
structure QuerySays (value name : String) : Prop where
  decode_eq : percentDecode ((Utf8.encode value).map fun b ↦ if b = 0x2B then 0x20 else b)
    = Utf8.encode name
  isNameMark_of_mem : ∀ c ∈ value.toList, isNameMark c = true

theorem PathSays.unique {part name name' : String} (h : PathSays part name)
    (h' : PathSays part name') : name = name' :=
  Utf8.encode_injective (h.decode_eq.symm.trans h'.decode_eq)

theorem toNat_lt_of_isNameMark {c : Char} (h : isNameMark c = true) : c.toNat < 0x80 := by
  have hval : c.val.toNat = c.toNat := rfl
  rw [isNameMark, Bool.or_eq_true] at h
  rcases h with h | h
  · delta Char.isAlphanum Char.isAlpha Char.isUpper Char.isLower Char.isDigit at h
    simp only [Bool.or_eq_true, Bool.and_eq_true, decide_eq_true_eq, ge_iff_le,
      UInt32.le_iff_toNat_le, hval, Char.reduceVal, UInt32.reduceToNat] at h
    omega
  · have hmarks : "%*+,-._".toList.all (·.toNat < 0x80) = true := by decide
    exact of_decide_eq_true (List.all_eq_true.1 hmarks c (List.contains_iff_mem.1 h))

theorem withoutPoints_eq_self {parts : List (List Char)}
    (h : ∀ part ∈ parts, part ≠ ['.'] ∧ part ≠ ['.', '.']) : withoutPoints parts = parts := by
  rw [withoutPoints]
  suffices hkept : ∀ kept : List (List Char), parts.foldl
      (fun kept part ↦
        if part == ['.'] then kept else if part == ['.', '.'] then kept.drop 1 else part :: kept)
      kept = parts.reverse ++ kept by
    rw [hkept, List.append_nil, List.reverse_reverse]
  intro kept
  induction parts generalizing kept with
  | nil => rfl
  | cons part parts ih =>
    obtain ⟨⟨hpoint, hpoints⟩, hparts⟩ := List.forall_mem_cons.1 h
    rw [List.foldl_cons, beq_false_of_ne hpoint, beq_false_of_ne hpoints, ih hparts,
      List.reverse_cons, List.append_assoc]
    rfl

/-! ## Bytes behind percent signs -/

theorem percentDecode_cons {b : UInt8} (h : b ≠ 0x25) (bytes : List UInt8) :
    percentDecode (b :: bytes) = b :: percentDecode bytes := by
  rw [percentDecode]
  rintro _ _ _ rfl
  exact absurd rfl h

private theorem digitChar_toUpper : ∀ k < 16,
    isNameMark (digitChar k).toUpper = true ∧ (digitChar k).toUpper ≠ '+' ∧
      digitValue? (digitChar k).toUpper = some k := by decide

private theorem natOfHex?_pair {c d : Char} {m n : Nat} (hc : digitValue? c = some m)
    (hd : digitValue? d = some n) : natOfHex? [c, d] = some (16 * m + n) := by
  simp [natOfHex?, isHexDigit, ofDigits, hc, hd]

theorem percentByte_eq (b : UInt8) : percentByte b
    = ['%', (digitChar (b.toNat / 16)).toUpper, (digitChar (b.toNat % 16)).toUpper] := rfl

theorem isNameMark_of_mem_percentByte {b : UInt8} {c : Char} (h : c ∈ percentByte b) :
    isNameMark c = true ∧ c ≠ '+' := by
  have hb := b.toNat_lt
  obtain ⟨hhigh, hhigh', -⟩ := digitChar_toUpper (b.toNat / 16) (by omega)
  obtain ⟨hlow, hlow', -⟩ := digitChar_toUpper (b.toNat % 16) (by omega)
  rw [percentByte_eq, List.mem_cons, List.mem_cons, List.mem_singleton] at h
  rcases h with rfl | rfl | rfl
  · decide
  · exact ⟨hhigh, hhigh'⟩
  · exact ⟨hlow, hlow'⟩

theorem percentDecode_percentByte (b : UInt8) (bytes : List UInt8) :
    percentDecode ((percentByte b).map (fun c ↦ UInt8.ofNat c.toNat) ++ bytes)
      = b :: percentDecode bytes := by
  have hb := b.toNat_lt
  obtain ⟨hhigh, -, hhigh'⟩ := digitChar_toUpper (b.toNat / 16) (by omega)
  obtain ⟨hlow, -, hlow'⟩ := digitChar_toUpper (b.toNat % 16) (by omega)
  have hread {c : Char} (hc : isNameMark c = true) :
      Char.ofNat (UInt8.ofNat c.toNat).toNat = c := by
    have hlt := toNat_lt_of_isNameMark hc
    rw [Utf8.toNat_ofNat_of_lt (by omega), Char.ofNat_toNat]
  have hpercent : UInt8.ofNat ('%').toNat = 0x25 := rfl
  rw [percentByte_eq, List.map_cons, List.map_cons, List.map_cons, List.map_nil, hpercent,
    List.cons_append, List.cons_append, List.cons_append, List.nil_append, percentDecode,
    hread hhigh, hread hlow, natOfHex?_pair hhigh' hlow', Nat.div_add_mod]
  dsimp only
  rw [UInt8.ofNat_toNat]

end FeedHarvest.Http
