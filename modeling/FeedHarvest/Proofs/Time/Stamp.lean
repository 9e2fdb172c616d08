import FeedHarvest.Proofs.Time.Rfc3339
import Mathlib.Data.List.Forall2

/-!
# The order of stamps

A stamp is a row of numbers, each filled up to the width of its slot and followed by the slot's
mark. Rows in the same slots are compared number by number, as texts and as lists alike, and that
is all that the texts matter for: whether one stamp is below another is a question about what the
calendar and the clock show.

Calendar and clock show of an instant its whole milliseconds and nothing else. This is where leap
seconds come in. One that is the last of its minute is shown as second 60, after second 59 and
before the next minute; anywhere else it would be shown as the second after it.
-/

namespace FeedHarvest.Time

/-! ## Numbers in slots -/

/-- Where a number is written: how many digits it has, and what follows. -/
structure Slot where
  width : Nat
  mark : Char
  width_pos : 0 < width := by decide

namespace Slot

/-- Whether a number has no more digits than the slot. -/
def Fits (s : Slot) (n : Nat) : Prop := n < Nat.pow 10 s.width

def fill : List Slot → List Nat → List Char
  | s :: slots, n :: ns => Text.padded s.width n ++ s.mark :: fill slots ns
  | _, _ => []

/-- Numbers in slots are compared like their texts. -/
theorem fill_lt_fill_iff {slots : List Slot} {ms ns : List Nat}
    (hms : List.Forall₂ Fits slots ms) (hns : List.Forall₂ Fits slots ns) :
    fill slots ms < fill slots ns ↔ ms < ns := by
  induction hms generalizing ns with
  | nil =>
    obtain rfl := List.forall₂_nil_left_iff.1 hns
    simp [fill]
  | @cons s m slots ms hm _ ih =>
    obtain ⟨n, ns, hn, hns', rfl⟩ := List.forall₂_cons_left_iff.1 hns
    have hmark : s.mark :: fill slots ms < s.mark :: fill slots ns ↔ ms < ns := by
      rw [List.cons_lt_cons_iff, ih hns']
      simp
    rw [fill, fill, Text.padded_append_lt_iff s.width_pos hm hn, hmark, List.cons_lt_cons_iff]

end Slot

/-! ## What a stamp shows -/

def stampSlots : List Slot :=
  [.mk 4 '-', .mk 2 '-', .mk 2 'T', .mk 2 ':', .mk 2 ':', .mk 2 '.', .mk 3 'Z']

namespace Instant

variable {s t : Instant}

/-- What calendar and clock show, down to the milliseconds. -/
def reading (t : Instant) : List Nat :=
  [t.date.year.natAbs, t.date.month, t.date.day, t.secondOfDay / 3600, t.secondOfDay / 60 % 60,
    t.clockSecond, t.fraction / 1000000]

/-- Whether the year is written in four digits without a sign. -/
def HasPlainYear (t : Instant) : Prop := 0 ≤ t.date.year ∧ t.date.year ≤ 9999

theorem stamp_eq_fill (ht : t.HasPlainYear) :
    t.stamp = String.ofList (Slot.fill stampSlots t.reading) := by
  have hyear : yearText t.date.year = Text.padded 4 t.date.year.natAbs := by
    rw [yearText, if_neg (Int.not_lt.2 ht.1), if_neg (Int.not_lt.2 ht.2)]
  simp only [stamp, clockText, hyear, FractionWidth.text, stampSlots, reading, Slot.fill,
    List.append_assoc, List.cons_append]

theorem fits_reading (ht : t.HasPlainYear) (hnanos : t.nanos < 2 * nanosPerSecond) :
    List.Forall₂ Slot.Fits stampSlots t.reading := by
  obtain ⟨hyear₀, hyear⟩ := ht
  have hdate : t.date.isValid = true := by
    rw [date, Date.isValid_ofDays_iff, ← date, Date.minYear, Date.maxYear]
    omega
  obtain ⟨-, ⟨-, hmonth⟩, -, hday⟩ := Date.isValid_iff.1 hdate
  have hlength := Date.monthLength_le t.date.year t.date.month
  have hsecond := t.secondOfDay_lt
  obtain ⟨hclock, hfraction⟩ := clock_bounds hnanos
  rw [nanosPerSecond] at hfraction
  simp only [stampSlots, reading, List.forall₂_cons, List.forall₂_nil_left_iff, Slot.Fits,
    and_true]
  refine ⟨?_, ?_, ?_, ?_, ?_, ?_, ?_⟩ <;> simp only [Nat.pow_eq] <;> omega

theorem stamp_lt_stamp_iff (hs : s.HasPlainYear) (hs' : s.nanos < 2 * nanosPerSecond)
    (ht : t.HasPlainYear) (ht' : t.nanos < 2 * nanosPerSecond) :
    s.stamp < t.stamp ↔ s.reading < t.reading := by
  rw [stamp_eq_fill hs, stamp_eq_fill ht, String.lt_iff, String.toList_ofList,
    String.toList_ofList]
  exact Slot.fill_lt_fill_iff (fits_reading hs hs') (fits_reading ht ht')

/-! ## What calendar and clock tell apart -/

/-- Whether an instant is earlier than another when both are cut down to whole milliseconds. -/
def IsEarlier (s t : Instant) : Prop := Prod.Lex (· < ·) (· < ·) s.millis t.millis

theorem isEarlier_iff : s.IsEarlier t ↔ s.seconds < t.seconds ∨
    s.seconds = t.seconds ∧ s.nanos / 1000000 < t.nanos / 1000000 :=
  Prod.lex_def

/-- The clock of one day moves on with every millisecond, in a leap second too. -/
theorem clock_lt_of_isEarlier (hs : s.isValid = true) (ht : t.isValid = true)
    (hday : s.seconds / 86400 = t.seconds / 86400) (h : s.IsEarlier t) :
    [s.secondOfDay / 3600, s.secondOfDay / 60 % 60, s.clockSecond, s.fraction / 1000000] <
      [t.secondOfDay / 3600, t.secondOfDay / 60 % 60, t.clockSecond, t.fraction / 1000000] := by
  have hsecond : nanosPerSecond = 1000000000 := rfl
  have hlt : s.secondOfDay < t.secondOfDay ∨
      s.secondOfDay = t.secondOfDay ∧ s.nanos / 1000000 < t.nanos / 1000000 := by
    rw [isEarlier_iff] at h
    rw [secondOfDay, secondOfDay]
    omega
  simp only [List.cons_lt_cons_iff]
  -- hours and minutes are those of the second either way, and second 60 comes after second 59
  rcases clock_cases hs with ⟨hs₀, hs₁, hs₂⟩ | ⟨hs₀, hs₁, hs₂⟩
  · rcases clock_cases ht with ⟨ht₀, ht₁, ht₂⟩ | ⟨ht₀, ht₁, ht₂⟩
    · omega
    · omega
  · rcases clock_cases ht with ⟨ht₀, ht₁, ht₂⟩ | ⟨ht₀, ht₁, ht₂⟩
    · omega
    · omega

theorem reading_lt_of_isEarlier (hs : s.isValid = true) (hs' : s.HasPlainYear)
    (ht : t.isValid = true) (ht' : t.HasPlainYear) (h : s.IsEarlier t) :
    s.reading < t.reading := by
  by_cases hday : s.seconds / 86400 = t.seconds / 86400
  · have hdate : s.date = t.date := by rw [date, date, hday]
    have hclock := clock_lt_of_isEarlier hs ht hday h
    simp only [reading, hdate, List.cons_lt_cons_iff] at hclock ⊢
    simp only [hclock, and_self, or_true]
  · have hlt : s.seconds / 86400 < t.seconds / 86400 := by
      rw [isEarlier_iff] at h
      omega
    have hbefore : s.date.IsBefore t.date := Date.isBefore_ofDays hlt
    have hyear := hs'.1
    have hyear' := ht'.1
    rw [Date.IsBefore] at hbefore
    simp only [reading, List.cons_lt_cons_iff]
    omega

theorem reading_eq_of_millis_eq (h : s.millis = t.millis) : s.reading = t.reading := by
  obtain ⟨hseconds, hmillis⟩ := Prod.mk.inj h
  have hsecond : nanosPerSecond = 1000000000 := rfl
  have hdate : s.date = t.date := by rw [date, date, hseconds]
  have hday : s.secondOfDay = t.secondOfDay := by rw [secondOfDay, secondOfDay, hseconds]
  have hclock : s.clockSecond = t.clockSecond ∧
      s.fraction / 1000000 = t.fraction / 1000000 := by
    by_cases hextra : nanosPerSecond ≤ s.nanos
    · obtain ⟨hs₁, hs₂⟩ := clock_of_le hextra
      obtain ⟨ht₁, ht₂⟩ : t.clockSecond = t.secondOfDay % 60 + 1 ∧
          t.fraction + nanosPerSecond = t.nanos := clock_of_le (by omega)
      omega
    · obtain ⟨hs₁, hs₂⟩ := clock_of_lt (Nat.lt_of_not_le hextra)
      obtain ⟨ht₁, ht₂⟩ : t.clockSecond = t.secondOfDay % 60 ∧ t.fraction = t.nanos :=
        clock_of_lt (by omega)
      omega
  rw [reading, reading, hdate, hday, hclock.1, hclock.2]

/-- Two instants are in the same millisecond, or one is earlier. -/
theorem isEarlier_or_millis_eq_or_isEarlier (s t : Instant) :
    s.IsEarlier t ∨ s.millis = t.millis ∨ t.IsEarlier s := by
  rw [isEarlier_iff, isEarlier_iff, millis, millis, Prod.mk.injEq]
  omega

/-- **The order of stamps.** Stamps stand in the order of the milliseconds of their instants. -/
theorem stamp_lt_iff (hs : s.isValid = true) (hs' : s.HasPlainYear) (ht : t.isValid = true)
    (ht' : t.HasPlainYear) : s.stamp < t.stamp ↔ s.IsEarlier t := by
  rw [stamp_lt_stamp_iff hs' (isValid_iff.1 hs).2.1 ht' (isValid_iff.1 ht).2.1]
  refine ⟨fun h ↦ ?_, reading_lt_of_isEarlier hs hs' ht ht'⟩
  rcases isEarlier_or_millis_eq_or_isEarlier s t with hlt | heq | hgt
  · exact hlt
  · rw [reading_eq_of_millis_eq heq] at h
    exact absurd h (List.lt_irrefl _)
  · exact absurd h (List.lt_asymm (reading_lt_of_isEarlier ht ht' hs hs' hgt))

theorem stamp_eq_iff (hs : s.isValid = true) (hs' : s.HasPlainYear) (ht : t.isValid = true)
    (ht' : t.HasPlainYear) : s.stamp = t.stamp ↔ s.millis = t.millis := by
  constructor
  · intro h
    rcases isEarlier_or_millis_eq_or_isEarlier s t with hlt | heq | hgt
    · have hstamps := (stamp_lt_iff hs hs' ht ht').2 hlt
      rw [h] at hstamps
      exact absurd hstamps (String.lt_irrefl _)
    · exact heq
    · have hstamps := (stamp_lt_iff ht ht' hs hs').2 hgt
      rw [h] at hstamps
      exact absurd hstamps (String.lt_irrefl _)
  · intro h
    rw [stamp_eq_fill hs', stamp_eq_fill ht', reading_eq_of_millis_eq h]

end Instant

end FeedHarvest.Time
