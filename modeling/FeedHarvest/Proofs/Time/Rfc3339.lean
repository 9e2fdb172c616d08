import FeedHarvest.Proofs.Text.Digits
import FeedHarvest.Proofs.Time.Calendar
import FeedHarvest.Time.Rfc3339

/-!
# Instants are read as they are written

Every instant that can be named is read back from its text, and a text only ever names such an
instant, so that the instants with a text of their own are exactly the valid ones.

Each part of a text has one lemma, about that part in front of an arbitrary rest. A number is read
no further than it was written for one of two reasons: it already has as many digits as may be read,
or no digit follows.
-/

namespace FeedHarvest.Time

/-! ## Numbers -/

section Numbers

variable {ds rest : List Char}

theorem takeWhile_take_eq_nil (k : Nat) (hrest : rest.takeWhile Text.isDigit = []) :
    (rest.take k).takeWhile Text.isDigit = [] := by
  cases k with
  | zero => rfl
  | succ k =>
    cases rest with
    | nil => rfl
    | cons c cs =>
      rw [List.takeWhile_cons] at hrest
      rw [List.take_succ_cons, List.takeWhile_cons]
      split at hrest
      · exact absurd hrest (List.cons_ne_nil _ _)
      · next hc => rw [if_neg hc]

theorem readNumber_append {width : Nat} (hne : ds ≠ []) (hds : ∀ c ∈ ds, Text.isDigit c = true)
    (hwidth : ds.length ≤ width)
    (hend : ds.length = width ∨ rest.takeWhile Text.isDigit = []) :
    readNumber width (ds ++ rest) = some (Text.ofDigits 10 0 ds, rest) := by
  have hcut : (rest.take (width - ds.length)).takeWhile Text.isDigit = [] := by
    rcases hend with hfull | hrest
    · rw [hfull, Nat.sub_self]
      rfl
    · exact takeWhile_take_eq_nil _ hrest
  have hrun : ((ds ++ rest).take width).takeWhile Text.isDigit = ds := by
    rw [List.take_append, List.take_of_length_le hwidth, List.takeWhile_append_of_pos hds, hcut,
      List.append_nil]
  rw [readNumber, hrun, Text.natOfDecimal?_of_forall hne hds, List.drop_left]
  rfl

theorem readNumber_padded {width n : Nat} (hwidth : 0 < width) (hn : n < Nat.pow 10 width)
    (rest : List Char) : readNumber width (Text.padded width n ++ rest) = some (n, rest) := by
  have hlength := Text.length_padded hwidth hn
  rw [readNumber_append (Text.padded_ne_nil width n) (fun c hc ↦ Text.isDigit_of_mem_padded hc)
    (Nat.le_of_eq hlength) (.inl hlength), Text.ofDigits_padded]

theorem trimStart_cons {c : Char} (hc : Text.isBlank c = false) (cs : List Char) :
    Text.trimStart (c :: cs) = c :: cs := by
  rw [Text.trimStart, List.dropWhile_cons, hc, if_neg Bool.false_ne_true]

theorem exists_padded_eq_cons (width n : Nat) :
    ∃ c cs, Text.padded width n = c :: cs ∧ Text.isDigit c = true := by
  obtain ⟨c, cs, heq⟩ := List.exists_cons_of_ne_nil (Text.padded_ne_nil width n)
  exact ⟨c, cs, heq, Text.isDigit_of_mem_padded (heq ▸ List.mem_cons_self)⟩

theorem trimStart_padded (width n : Nat) (rest : List Char) :
    Text.trimStart (Text.padded width n ++ rest) = Text.padded width n ++ rest := by
  obtain ⟨c, cs, heq, hc⟩ := exists_padded_eq_cons width n
  rw [heq, List.cons_append, trimStart_cons (Text.isBlank_of_isDigit hc)]

theorem readPart_padded {least greatest n : Nat} (hleast : least ≤ n) (hgreatest : n ≤ greatest)
    (hn : n < 100) (rest : List Char) :
    readPart least greatest (Text.padded 2 n ++ rest) = some (n, rest) := by
  rw [readPart, trimStart_padded, readNumber_padded (by omega) hn]
  exact if_pos ⟨hleast, hgreatest⟩

theorem readMark_cons {mark : Char} (hmark : Text.isBlank mark = false) (rest : List Char) :
    readMark mark (mark :: rest) = some rest := by
  rw [readMark, trimStart_cons hmark]
  exact if_pos (beq_self_eq_true mark)

end Numbers

/-! ## Dates -/

/-- A year has a sign whenever its digits alone would be cut off, so that it is read whole. -/
theorem readYear_yearText (year : Int) {rest : List Char}
    (hrest : rest.takeWhile Text.isDigit = []) :
    readYear (yearText year ++ rest) = some (year, rest) := by
  have hdigits : ∀ c ∈ Text.padded 4 year.natAbs, Text.isDigit c = true :=
    fun c hc ↦ Text.isDigit_of_mem_padded hc
  have hsigned : readNumber (Text.padded 4 year.natAbs ++ rest).length
      (Text.padded 4 year.natAbs ++ rest) = some (year.natAbs, rest) := by
    rw [readNumber_append (Text.padded_ne_nil _ _) hdigits
      (by rw [List.length_append]; exact Nat.le_add_right _ _) (.inr hrest), Text.ofDigits_padded]
  rw [yearText]
  split
  · next hneg =>
    rw [List.cons_append, readYear, trimStart_cons (by decide)]
    simp only [hsigned, Option.map_some]
    rw [Int.ofNat_natAbs_of_nonpos (Int.le_of_lt hneg), Int.neg_neg]
  · next hneg =>
    have hnonneg : (year.natAbs : Int) = year := Int.natAbs_of_nonneg (by omega)
    split
    · rw [List.cons_append, readYear, trimStart_cons (by decide)]
      simp only [hsigned, Option.map_some, hnonneg]
    · rw [readYear, trimStart_padded]
      have hread : readNumber 4 (Text.padded 4 year.natAbs ++ rest) = some (year.natAbs, rest) :=
        readNumber_padded (by omega) (show year.natAbs < 10000 by omega) rest
      obtain ⟨c, cs, heq, hc⟩ := exists_padded_eq_cons 4 year.natAbs
      rw [heq, List.cons_append] at hread ⊢
      split
      · next h => exact absurd hc (by rw [(List.cons.inj h).1]; decide)
      · next h => exact absurd hc (by rw [(List.cons.inj h).1]; decide)
      · simp only [hread, Option.map_some, hnonneg]

theorem Date.isValid_iff {d : Date} :
    d.isValid = true ↔ (minYear ≤ d.year ∧ d.year ≤ maxYear) ∧ (1 ≤ d.month ∧ d.month ≤ 12) ∧
      1 ≤ d.day ∧ d.day ≤ monthLength d.year d.month := by
  simp only [isValid, Bool.and_eq_true, decide_eq_true_eq, and_assoc]

theorem Date.monthLength_le (year : Int) (month : Nat) : monthLength year month ≤ 31 := by
  rw [monthLength]
  split
  · split <;> omega
  · split <;> omega

private theorem readDate_append {d : Date} (hd : d.isValid = true) (rest : List Char) :
    readDate (yearText d.year ++ '-' :: (Text.padded 2 d.month ++ '-' ::
      (Text.padded 2 d.day ++ rest))) = some (d, rest) := by
  obtain ⟨-, ⟨hmonth₁, hmonth⟩, hday₁, hday⟩ := Date.isValid_iff.1 hd
  have hlength := Date.monthLength_le d.year d.month
  rw [readDate, readYear_yearText d.year rfl]
  simp only [bind, Option.bind_some]
  rw [readMark_cons (by decide), Option.bind_some, readPart_padded hmonth₁ hmonth (by omega),
    Option.bind_some, readMark_cons (by decide), Option.bind_some,
    readPart_padded hday₁ (by omega) (by omega), Option.bind_some]
  exact if_pos hd

/-! ## Times -/

theorem readFraction_padded {width n : Nat} (hwidth : 0 < width) (hnine : width ≤ 9)
    (hn : n < Nat.pow 10 width) {rest : List Char} (hrest : rest.takeWhile Text.isDigit = []) :
    readFraction ('.' :: (Text.padded width n ++ rest))
      = some (n * Nat.pow 10 (9 - width), rest) := by
  have hlength := Text.length_padded hwidth hn
  have hread : readNumber 9 (Text.padded width n ++ rest) = some (n, rest) := by
    rw [readNumber_append (Text.padded_ne_nil width n) (fun c hc ↦ Text.isDigit_of_mem_padded hc)
      (Nat.le_trans (Nat.le_of_eq hlength) hnine) (.inr hrest), Text.ofDigits_padded]
  have hdrop : rest.dropWhile Text.isDigit = rest := by
    have hsplit := List.takeWhile_append_dropWhile (p := Text.isDigit) (l := rest)
    rwa [hrest, List.nil_append] at hsplit
  simp only [readFraction, hread, bind, Option.bind_some, pure, hdrop, List.length_append, hlength,
    Nat.add_sub_cancel]

/-- Digits are left away only where they are zeros. -/
theorem readFraction_text {nanos : Nat} (hnanos : nanos < nanosPerSecond) {rest : List Char}
    (hrest : rest.takeWhile Text.isDigit = []) (hpoint : rest.head? ≠ some '.') :
    readFraction (FractionWidth.text nanos .least ++ rest) = some (nanos, rest) := by
  have hbound : nanos < 1000000000 := hnanos
  simp only [FractionWidth.text]
  split
  · next hzero =>
    rw [List.nil_append, hzero]
    cases rest with
    | nil => rfl
    | cons c cs =>
      rw [readFraction]
      rintro r ⟨⟩
      exact hpoint rfl
  · split
    · next hmillis =>
      have hwidth : nanos / 1000000 < Nat.pow 10 3 := show nanos / 1000000 < 1000 by omega
      have hvalue : nanos / 1000000 * Nat.pow 10 (9 - 3) = nanos :=
        Nat.div_mul_cancel (Nat.dvd_of_mod_eq_zero hmillis)
      rw [List.cons_append, readFraction_padded (by omega) (by omega) hwidth hrest, hvalue]
    · split
      · next hmicros =>
        have hwidth : nanos / 1000 < Nat.pow 10 6 := show nanos / 1000 < 1000000 by omega
        have hvalue : nanos / 1000 * Nat.pow 10 (9 - 6) = nanos :=
          Nat.div_mul_cancel (Nat.dvd_of_mod_eq_zero hmicros)
        rw [List.cons_append, readFraction_padded (by omega) (by omega) hwidth hrest, hvalue]
      · have hvalue : nanos * Nat.pow 10 (9 - 9) = nanos := Nat.mul_one nanos
        rw [List.cons_append, readFraction_padded (by omega) (by omega) hbound hrest, hvalue]

private theorem readTime_append {hour minute second nanos : Nat} (hhour : hour ≤ 23)
    (hminute : minute ≤ 59) (hsecond : second ≤ 60) (hnanos : nanos < nanosPerSecond)
    {rest : List Char} (hrest : rest.takeWhile Text.isDigit = [])
    (hpoint : rest.head? ≠ some '.') :
    readTime (Text.padded 2 hour ++ ':' :: (Text.padded 2 minute ++ ':' ::
      (Text.padded 2 second ++ (FractionWidth.text nanos .least ++ rest)))) =
    if second = 60 then some (hour * 3600 + minute * 60 + 59, nanos + nanosPerSecond, rest)
    else some (hour * 3600 + minute * 60 + second, nanos, rest) := by
  rw [readTime, readPart_padded (Nat.zero_le _) hhour (by omega)]
  simp only [bind, Option.bind_some]
  rw [readMark_cons (by decide), Option.bind_some,
    readPart_padded (Nat.zero_le _) hminute (by omega), Option.bind_some,
    readMark_cons (by decide), Option.bind_some,
    readPart_padded (Nat.zero_le _) hsecond (by omega), Option.bind_some,
    readFraction_text hnanos hrest hpoint]
  rfl

/-! ## Instants -/

namespace Instant

/-- Only the year of an instant, its nanoseconds and the place of a leap second can be wrong. -/
theorem isValid_iff {t : Instant} :
    t.isValid = true ↔ (Date.minYear ≤ t.date.year ∧ t.date.year ≤ Date.maxYear) ∧
      t.nanos < 2 * nanosPerSecond ∧ (nanosPerSecond ≤ t.nanos → t.seconds % 60 = 59) := by
  simp only [isValid, isLeapSecond, Bool.and_eq_true, Bool.or_eq_true, decide_eq_true_eq,
    Bool.not_eq_true', decide_eq_false_iff_not, beq_iff_eq, and_assoc]
  rw [date, Date.isValid_ofDays_iff, and_assoc, Decidable.imp_iff_not_or]

variable {t : Instant}

theorem secondOfDay_lt (t : Instant) : t.secondOfDay < 86400 := by
  rw [secondOfDay]
  omega

theorem clock_of_lt (h : t.nanos < nanosPerSecond) :
    t.clockSecond = t.secondOfDay % 60 ∧ t.fraction = t.nanos := by
  simp only [clockSecond, fraction, isLeapSecond, decide_eq_true_eq]
  rw [if_neg (Nat.not_le.2 h), if_neg (Nat.not_le.2 h)]
  exact ⟨rfl, rfl⟩

theorem clock_of_le (h : nanosPerSecond ≤ t.nanos) :
    t.clockSecond = t.secondOfDay % 60 + 1 ∧ t.fraction + nanosPerSecond = t.nanos := by
  simp only [clockSecond, fraction, isLeapSecond, decide_eq_true_eq]
  rw [if_pos h, if_pos h]
  exact ⟨rfl, Nat.sub_add_cancel h⟩

/-- The clock never shows more than second 60 and never a whole second besides. -/
theorem clock_bounds (h : t.nanos < 2 * nanosPerSecond) :
    t.clockSecond ≤ 60 ∧ t.fraction < nanosPerSecond := by
  by_cases hextra : nanosPerSecond ≤ t.nanos
  · obtain ⟨hsecond, hfraction⟩ := clock_of_le hextra
    omega
  · obtain ⟨hsecond, hfraction⟩ := clock_of_lt (Nat.lt_of_not_le hextra)
    omega

/-- A clock shows second 60 only in a leap second, which is the last of its minute. -/
theorem clock_cases (ht : t.isValid = true) :
    (t.nanos < nanosPerSecond ∧ t.clockSecond = t.secondOfDay % 60 ∧ t.fraction = t.nanos) ∨
      (t.secondOfDay % 60 = 59 ∧ t.clockSecond = 60 ∧ t.fraction + nanosPerSecond = t.nanos) := by
  by_cases hextra : nanosPerSecond ≤ t.nanos
  · have hlast := (isValid_iff.1 ht).2.2 hextra
    have hday : t.secondOfDay % 60 = 59 := by
      rw [secondOfDay]
      omega
    obtain ⟨hclock, hsum⟩ := clock_of_le hextra
    exact .inr ⟨hday, by rw [hclock, hday], hsum⟩
  · have hlt := Nat.lt_of_not_le hextra
    exact .inl ⟨hlt, clock_of_lt hlt⟩

theorem readTime_clock (ht : t.isValid = true) {rest : List Char}
    (hrest : rest.takeWhile Text.isDigit = []) (hpoint : rest.head? ≠ some '.') :
    readTime (Text.padded 2 (t.secondOfDay / 3600) ++ ':' ::
      (Text.padded 2 (t.secondOfDay / 60 % 60) ++ ':' ::
        (Text.padded 2 t.clockSecond ++ (FractionWidth.text t.fraction .least ++ rest)))) =
    some (t.secondOfDay, t.nanos, rest) := by
  have hday := t.secondOfDay_lt
  obtain ⟨hsecond, hfraction⟩ := clock_bounds (isValid_iff.1 ht).2.1
  rw [readTime_append (by omega) (by omega) hsecond hfraction hrest hpoint]
  -- second 60 is read only where it was written: an ordinary second shows at most 59
  rcases clock_cases ht with ⟨-, hclock, hwhole⟩ | ⟨hlast, hclock, hsum⟩
  · rw [hclock, hwhole, if_neg (by omega)]
    congr 2
    omega
  · rw [if_pos hclock, hsum]
    congr 2
    omega

theorem parse?_text (ht : t.isValid = true) : parse? t.text = some t := by
  have hdate : t.date.isValid = true := by
    rw [date, Date.isValid_ofDays_iff]
    exact (isValid_iff.1 ht).1
  have hseconds : t.date.toDays * 86400 + (t.secondOfDay : Int) - 0 = t.seconds := by
    rw [date, Date.toDays_ofDays, secondOfDay]
    omega
  have hclock := readTime_clock ht (show ['Z'].takeWhile Text.isDigit = [] from rfl) (by decide)
  simp only [parse?, text, clockText, String.toList_ofList, List.append_assoc, List.cons_append,
    readDate_append hdate, bind, Option.bind_some]
  rw [readSeparator, Option.bind_some, hclock, Option.bind_some, trimStart_cons (by decide)]
  simp only [readOffset, Option.bind_some, hseconds]
  exact if_pos hdate

/-! ### What a text can name -/

private theorem readNumber_lt {width n : Nat} {cs rest : List Char}
    (h : readNumber width cs = some (n, rest)) :
    n < Nat.pow 10 (cs.length - rest.length) ∧ cs.length - rest.length ≤ width := by
  have hrun := (List.takeWhile_prefix Text.isDigit (l := cs.take width)).length_le
  rw [List.length_take] at hrun
  simp only [readNumber, bind, Option.bind_eq_some_iff, pure, Option.some.injEq,
    Prod.mk.injEq] at h
  obtain ⟨n, hn, rfl, rfl⟩ := h
  have hlength : cs.length - (cs.drop ((cs.take width).takeWhile Text.isDigit).length).length =
      ((cs.take width).takeWhile Text.isDigit).length := by
    rw [List.length_drop]
    omega
  rw [hlength]
  exact ⟨Text.natOfDecimal?_lt hn, by omega⟩

private theorem readFraction_lt {nanos : Nat} {cs rest : List Char}
    (h : readFraction cs = some (nanos, rest)) : nanos < nanosPerSecond := by
  rw [readFraction.eq_def] at h
  split at h
  · next cs =>
    simp only [bind, Option.bind_eq_some_iff, pure, Option.some.injEq, Prod.mk.injEq,
      Prod.exists] at h
    obtain ⟨n, r, hread, rfl, -⟩ := h
    obtain ⟨hn, hwidth⟩ := readNumber_lt hread
    calc n * Nat.pow 10 (9 - (cs.length - r.length))
        < Nat.pow 10 (cs.length - r.length) * Nat.pow 10 (9 - (cs.length - r.length)) :=
          Nat.mul_lt_mul_of_pos_right hn (Nat.pow_pos (by omega))
      _ = Nat.pow 10 (cs.length - r.length + (9 - (cs.length - r.length))) :=
          (Nat.pow_add 10 _ _).symm
      _ = nanosPerSecond := by rw [Nat.add_sub_cancel' hwidth]; rfl
  · cases h
    decide

/-- Only the last second of a minute is read with more nanoseconds than a second has. -/
theorem readTime_spec {second nanos : Nat} {cs rest : List Char}
    (h : readTime cs = some (second, nanos, rest)) :
    nanos < 2 * nanosPerSecond ∧ (nanosPerSecond ≤ nanos → second % 60 = 59) := by
  simp only [readTime, bind, Option.bind_eq_some_iff, Prod.exists] at h
  obtain ⟨hour, cs, -, cs, -, minute, cs, -, cs, -, s, cs, -, n, rest', hfraction, h⟩ := h
  have hn := readFraction_lt hfraction
  split at h
  · cases h
    omega
  · cases h
    omega

theorem readOffsetDigits_emod {offset : Int} {cs rest : List Char}
    (h : readOffsetDigits cs = some (offset, rest)) : offset % 60 = 0 := by
  rw [readOffsetDigits.eq_def] at h
  split at h
  · simp only [bind, Option.bind_eq_some_iff] at h
    obtain ⟨hours, -, h⟩ := h
    split at h
    · simp only [Option.bind_eq_some_iff] at h
      obtain ⟨minutes, -, h⟩ := h
      split at h
      · cases h
        omega
      · cases h
    · cases h
  · cases h

theorem emod_of_neg_readOffsetDigits {offset : Int} {cs rest : List Char}
    (h : (readOffsetDigits cs).map (fun (n, rest) ↦ (-n, rest)) = some (offset, rest)) :
    offset % 60 = 0 := by
  simp only [Option.map_eq_some_iff, Prod.exists, Prod.mk.injEq] at h
  obtain ⟨n, r, hn, rfl, -⟩ := h
  have hdigits := readOffsetDigits_emod hn
  omega

theorem readOffset_emod {offset : Int} {cs rest : List Char}
    (h : readOffset cs = some (offset, rest)) : offset % 60 = 0 := by
  rw [readOffset.eq_def] at h
  split at h
  · cases h; rfl
  · cases h; rfl
  · exact readOffsetDigits_emod h
  · exact emod_of_neg_readOffsetDigits h
  · exact emod_of_neg_readOffsetDigits h
  · split at h
    · cases h; rfl
    · cases h
  · cases h

theorem isValid_of_parse? {s : String} (h : parse? s = some t) : t.isValid = true := by
  simp only [parse?, bind, Option.bind_eq_some_iff, Prod.exists] at h
  obtain ⟨d, cs, -, cs, -, second, nanos, cs, htime, offset, rest, hoffset, h⟩ := h
  obtain ⟨hnanos, hleap⟩ := readTime_spec htime
  have hminutes := readOffset_emod hoffset
  split at h
  · cases h
  · split at h
    · next hdate =>
      cases h
      rw [Instant.date, Date.isValid_ofDays_iff] at hdate
      exact isValid_iff.2 ⟨hdate, hnanos, fun hle ↦ by have := hleap hle; dsimp only; omega⟩
    · cases h

theorem parse?_text_iff : parse? t.text = some t ↔ t.isValid = true :=
  ⟨isValid_of_parse?, parse?_text⟩

end Instant

end FeedHarvest.Time
