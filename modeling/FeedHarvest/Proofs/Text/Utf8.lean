import FeedHarvest.Text.Utf8

/-!
# UTF-8 is read as it is written

A character is written as one to four bytes. The leading byte tells how many follow and holds the
high bits, and its narrower bounds for the byte after it are just those that the writing of a
character never breaks: they shut out what a shorter form could have said, and what is no character.
-/

namespace FeedHarvest.Text.Utf8

variable {b : UInt8} {bs rest : List UInt8} {acc n : Nat}

/-! ## Bytes -/

theorem toNat_ofNat_of_lt (h : n < 256) : (UInt8.ofNat n).toNat = n := by
  rw [UInt8.toNat_ofNat']
  exact Nat.mod_eq_of_lt h

theorem gather_zero (lo hi : UInt8) (acc : Nat) (bs : List UInt8) :
    gather 0 lo hi acc bs = (acc, 0, bs) := by
  cases bs <;> rfl

theorem gather_succ {lo hi : UInt8} (hlo : lo.toNat ≤ b.toNat) (hhi : b.toNat ≤ hi.toNat) :
    gather (n + 1) lo hi acc (b :: bs) = gather n 0x80 0xBF (acc * 64 + (b.toNat - 0x80)) bs := by
  rw [gather]
  exact if_pos ⟨UInt8.le_iff_toNat_le.2 hlo, UInt8.le_iff_toNat_le.2 hhi⟩

/-- The bytes after the first of those that follow are bounded by their form alone. -/
theorem gather_continuation {k : Nat} (hk : k < 64) :
    gather (n + 1) 0x80 0xBF acc (UInt8.ofNat (k + 128) :: bs)
      = gather n 0x80 0xBF (acc * 64 + k) bs := by
  have hb : (UInt8.ofNat (k + 128)).toNat = k + 128 := toNat_ofNat_of_lt (by omega)
  have hlo : (0x80 : UInt8).toNat = 128 := rfl
  have hhi : (0xBF : UInt8).toNat = 191 := rfl
  rw [gather_succ (by omega) (by omega), hb, Nat.add_sub_cancel]

/-! ## Leading bytes -/

theorem follow?_eq (b : UInt8) : follow? b =
    if b.toNat < 0xC2 then none
    else if b.toNat < 0xE0 then some (1, 0x80, 0xBF)
    else if b.toNat = 0xE0 then some (2, 0xA0, 0xBF)
    else if b.toNat = 0xED then some (2, 0x80, 0x9F)
    else if b.toNat < 0xF0 then some (2, 0x80, 0xBF)
    else if b.toNat = 0xF0 then some (3, 0x90, 0xBF)
    else if b.toNat < 0xF4 then some (3, 0x80, 0xBF)
    else if b.toNat = 0xF4 then some (3, 0x80, 0x8F)
    else none := by
  simp only [follow?, UInt8.lt_iff_toNat_lt, beq_iff_eq, ← UInt8.toNat_inj]
  rfl

private theorem follow?_two (hlo : 0xC2 ≤ b.toNat) (hhi : b.toNat < 0xE0) :
    follow? b = some (1, 0x80, 0xBF) := by
  rw [follow?_eq, if_neg (by omega), if_pos hhi]

private theorem follow?_three (hlo : 0xE0 ≤ b.toNat) (hhi : b.toNat < 0xF0) :
    ∃ lo hi, follow? b = some (2, lo, hi) ∧ lo.toNat = (if b.toNat = 0xE0 then 0xA0 else 0x80) ∧
      hi.toNat = if b.toNat = 0xED then 0x9F else 0xBF := by
  rw [follow?_eq, if_neg (by omega), if_neg (by omega)]
  by_cases hfirst : b.toNat = 0xE0
  · refine ⟨_, _, if_pos hfirst, ?_, ?_⟩
    · rw [if_pos hfirst]
      rfl
    · rw [if_neg (by omega)]
      rfl
  rw [if_neg hfirst, if_neg hfirst]
  by_cases hsurrogate : b.toNat = 0xED
  · rw [if_pos hsurrogate, if_pos hsurrogate]
    exact ⟨_, _, rfl, rfl, rfl⟩
  · rw [if_neg hsurrogate, if_neg hsurrogate, if_pos hhi]
    exact ⟨_, _, rfl, rfl, rfl⟩

private theorem follow?_four (hlo : 0xF0 ≤ b.toNat) (hhi : b.toNat ≤ 0xF4) :
    ∃ lo hi, follow? b = some (3, lo, hi) ∧ lo.toNat = (if b.toNat = 0xF0 then 0x90 else 0x80) ∧
      hi.toNat = if b.toNat = 0xF4 then 0x8F else 0xBF := by
  rw [follow?_eq, if_neg (by omega), if_neg (by omega), if_neg (by omega), if_neg (by omega),
    if_neg (by omega)]
  by_cases hfirst : b.toNat = 0xF0
  · refine ⟨_, _, if_pos hfirst, ?_, ?_⟩
    · rw [if_pos hfirst]
      rfl
    · rw [if_neg (by omega)]
      rfl
  rw [if_neg hfirst, if_neg hfirst]
  by_cases hlast : b.toNat = 0xF4
  · rw [if_neg (by omega), if_pos hlast, if_pos hlast]
    exact ⟨_, _, rfl, rfl, rfl⟩
  · rw [if_pos (by omega), if_neg hlast]
    exact ⟨_, _, rfl, rfl, rfl⟩

/-! ## Characters -/

private theorem characters_of_lt {k : Nat} (hk : k < 0x80) (rest : List UInt8) :
    characters (UInt8.ofNat k :: rest) = some (Char.ofNat k) :: characters rest := by
  have hb : (UInt8.ofNat k).toNat = k := toNat_ofNat_of_lt (by omega)
  have hlt : UInt8.ofNat k < 0x80 := by
    rw [UInt8.lt_iff_toNat_lt, hb]
    exact hk
  rw [characters, if_pos hlt, hb]

theorem characters_of_gather {lo hi : UInt8} {code : Nat} (hb : 0x80 ≤ b.toNat)
    (hfollow : follow? b = some (n, lo, hi))
    (hgather : gather n lo hi (leadBits b n) bs = (code, 0, rest)) :
    characters (b :: bs) = some (Char.ofNat code) :: characters rest := by
  have hge : ¬b < 0x80 := by
    rw [UInt8.lt_iff_toNat_lt]
    exact Nat.not_lt.2 hb
  rw [characters, if_neg hge, hfollow]
  dsimp only
  rw [hgather]
  rfl

variable {v : Nat}

private theorem characters_two (hlo : 0x80 ≤ v) (hhi : v < 0x800) (rest : List UInt8) :
    characters (UInt8.ofNat (v / 64 % 32 + 192) :: UInt8.ofNat (v % 64 + 128) :: rest)
      = some (Char.ofNat v) :: characters rest := by
  have hb : (UInt8.ofNat (v / 64 % 32 + 192)).toNat = v / 64 + 192 := by
    rw [toNat_ofNat_of_lt (by omega)]
    omega
  have hvalue : (v / 64 + 192) % 32 * 64 + v % 64 = v := by omega
  refine characters_of_gather (by omega) (follow?_two (by omega) (by omega)) ?_
  rw [gather_continuation (by omega), gather_zero, leadBits, hb, hvalue]

private theorem characters_three (hlo : 0x800 ≤ v) (hhi : v < 0x10000)
    (hvalid : v < 0xD800 ∨ 0xDFFF < v) (rest : List UInt8) :
    characters (UInt8.ofNat (v / 4096 % 16 + 224) :: UInt8.ofNat (v / 64 % 64 + 128) ::
      UInt8.ofNat (v % 64 + 128) :: rest) = some (Char.ofNat v) :: characters rest := by
  have hb : (UInt8.ofNat (v / 4096 % 16 + 224)).toNat = v / 4096 + 224 := by
    rw [toNat_ofNat_of_lt (by omega)]
    omega
  have hsecond : (UInt8.ofNat (v / 64 % 64 + 128)).toNat = v / 64 % 64 + 128 :=
    toNat_ofNat_of_lt (by omega)
  have hvalue : ((v / 4096 + 224) % 16 * 64 + v / 64 % 64) * 64 + v % 64 = v := by omega
  obtain ⟨lo, hi, hfollow, hlo', hhi'⟩ := follow?_three (b := UInt8.ofNat (v / 4096 % 16 + 224))
    (by omega) (by omega)
  -- the narrower bounds: two bytes would do for less than `0x800`, and surrogates are no characters
  rw [hb] at hlo' hhi'
  refine characters_of_gather (by omega) hfollow ?_
  rw [gather_succ, hsecond, Nat.add_sub_cancel, gather_continuation (by omega), gather_zero,
    leadBits, hb, hvalue]
  · rw [hlo', hsecond]
    split <;> omega
  · rw [hhi', hsecond]
    split <;> omega

private theorem characters_four (hlo : 0x10000 ≤ v) (hhi : v < 0x110000) (rest : List UInt8) :
    characters (UInt8.ofNat (v / 262144 % 8 + 240) :: UInt8.ofNat (v / 4096 % 64 + 128) ::
      UInt8.ofNat (v / 64 % 64 + 128) :: UInt8.ofNat (v % 64 + 128) :: rest)
      = some (Char.ofNat v) :: characters rest := by
  have hb : (UInt8.ofNat (v / 262144 % 8 + 240)).toNat = v / 262144 + 240 := by
    rw [toNat_ofNat_of_lt (by omega)]
    omega
  have hsecond : (UInt8.ofNat (v / 4096 % 64 + 128)).toNat = v / 4096 % 64 + 128 :=
    toNat_ofNat_of_lt (by omega)
  have hvalue : (((v / 262144 + 240) % 8 * 64 + v / 4096 % 64) * 64 + v / 64 % 64) * 64 + v % 64
      = v := by omega
  obtain ⟨lo, hi, hfollow, hlo', hhi'⟩ := follow?_four (b := UInt8.ofNat (v / 262144 % 8 + 240))
    (by omega) (by omega)
  rw [hb] at hlo' hhi'
  refine characters_of_gather (by omega) hfollow ?_
  have hlead : leadBits (UInt8.ofNat (v / 262144 % 8 + 240)) 3 = (v / 262144 + 240) % 8 := by
    rw [← hb]
    rfl
  rw [gather_succ, hsecond, Nat.add_sub_cancel, gather_continuation (by omega),
    gather_continuation (by omega), gather_zero, hlead, hvalue]
  · rw [hlo', hsecond]
    split <;> omega
  · rw [hhi', hsecond]
    split <;> omega

theorem characters_utf8EncodeChar (c : Char) (rest : List UInt8) :
    characters (String.utf8EncodeChar c ++ rest) = some c :: characters rest := by
  have hvalid : c.toNat < 0xD800 ∨ 0xDFFF < c.toNat ∧ c.toNat < 0x110000 := c.valid
  have hchar : Char.ofNat c.toNat = c := Char.ofNat_toNat c
  have hval : c.val.toNat = c.toNat := rfl
  simp only [String.utf8EncodeChar, hval]
  by_cases h₁ : c.toNat ≤ 127
  · rw [if_pos h₁, List.singleton_append, characters_of_lt (by omega), hchar]
  rw [if_neg h₁]
  by_cases h₂ : c.toNat ≤ 2047
  · rw [if_pos h₂, List.cons_append, List.singleton_append, characters_two (by omega) (by omega),
      hchar]
  rw [if_neg h₂]
  by_cases h₃ : c.toNat ≤ 65535
  · rw [if_pos h₃, List.cons_append, List.cons_append, List.singleton_append,
      characters_three (by omega) (by omega) (by omega), hchar]
  · rw [if_neg h₃, List.cons_append, List.cons_append, List.cons_append, List.singleton_append,
      characters_four (by omega) (by omega), hchar]

/-! ## Texts -/

theorem encode_eq (s : String) : encode s = s.toList.flatMap String.utf8EncodeChar := by
  rw [encode, String.toUTF8_eq_toByteArray, ← String.utf8Encode_toList, List.utf8Encode,
    List.toList_data_toByteArray]

private theorem characters_flatMap (cs : List Char) :
    characters (cs.flatMap String.utf8EncodeChar) = cs.map some := by
  induction cs with
  | nil => rw [List.flatMap_nil, characters, List.map_nil]
  | cons c cs ih => rw [List.flatMap_cons, characters_utf8EncodeChar, ih, List.map_cons]

@[simp] theorem decode?_encode (s : String) : decode? (encode s) = some s := by
  have hall : (s.toList.map some).mapM id = some s.toList := by
    rw [List.mapM_map]
    exact (List.mapM_pure (m := Option)).trans (congrArg some (List.map_id s.toList))
  rw [decode?, encode_eq, characters_flatMap, hall, Option.map_some, String.ofList_toList]

theorem encode_injective : Function.Injective encode := fun s t h ↦
  Option.some.inj (by rw [← decode?_encode s, h, decode?_encode])

theorem encode_ofList_of_ascii {cs : List Char} (h : ∀ c ∈ cs, c.toNat < 0x80) :
    encode (String.ofList cs) = cs.map fun c ↦ UInt8.ofNat c.toNat := by
  rw [encode_eq, String.toList_ofList]
  induction cs with
  | nil => rfl
  | cons c cs ih =>
    obtain ⟨hc, hcs⟩ := List.forall_mem_cons.1 h
    have hbyte : String.utf8EncodeChar c = [UInt8.ofNat c.toNat] := by
      have hval : c.val.toNat ≤ 127 := Nat.le_of_lt_succ hc
      rw [String.utf8EncodeChar, if_pos hval]
      rfl
    rw [List.flatMap_cons, hbyte, ih hcs, List.map_cons, List.singleton_append]

end FeedHarvest.Text.Utf8
