import FeedHarvest.Time.Instant

/-!
# The calendar's cycle

The calendar repeats itself after 400 years, which have 146097 days. Counted from a first of March,
these are centuries of 36524 days, in each of them groups of four years of 1461 days, and in each
group years of 365 days; what is left over is the day of the year. Only the last year of a group can
have a day more, and the last century of the cycle has it in its last group too.

Taken apart like this, a day number is turned into a date and back by arithmetic that never has to
look at the formulas for leap years again.
-/

namespace FeedHarvest.Time.Date

/-- Where a day stands in a cycle of 400 years, all counted from zero. -/
structure CycleDay where
  century : Int
  group : Int
  yearOfGroup : Int
  day : Int

namespace CycleDay

/-- Whether the parts are those of a day. -/
structure Valid (x : CycleDay) : Prop where
  century_nonneg : 0 ≤ x.century
  century_le : x.century ≤ 3
  group_nonneg : 0 ≤ x.group
  group_le : x.group ≤ 24
  yearOfGroup_nonneg : 0 ≤ x.yearOfGroup
  yearOfGroup_le : x.yearOfGroup ≤ 3
  day_nonneg : 0 ≤ x.day
  day_le : x.day ≤ 364 ∨
    x.day = 365 ∧ x.yearOfGroup = 3 ∧ (x.group ≤ 23 ∨ x.century = 3)

def year (x : CycleDay) : Int := 100 * x.century + 4 * x.group + x.yearOfGroup

/-- The day of the cycle. -/
def number (x : CycleDay) : Int :=
  36524 * x.century + 1461 * x.group + 365 * x.yearOfGroup + x.day

/-- The month, counted from March. -/
def month (x : CycleDay) : Int := (5 * x.day + 2) / 153

def date (x : CycleDay) (era : Int) : Date where
  year := x.year + era * 400 + (if x.month < 10 then 0 else 1)
  month := (if x.month < 10 then x.month + 3 else x.month - 9).toNat
  day := (x.day - (153 * x.month + 2) / 5 + 1).toNat

end CycleDay

private theorem exists_cycleDay {d : Int} (hlo : 0 ≤ d) (hhi : d ≤ 146096) :
    ∃ x : CycleDay, x.Valid ∧ x.number = d := by
  let c := min (d / 36524) 3
  let q := (d - 36524 * c) / 1461
  let s := min ((d - 36524 * c - 1461 * q) / 365) 3
  refine ⟨⟨c, q, s, d - 36524 * c - 1461 * q - 365 * s⟩, ?_, ?_⟩
  · constructor <;> dsimp only <;> omega
  · dsimp only [CycleDay.number]
    omega

variable {x : CycleDay} {d : Int}

/-- The corrections make all years 365 days long: what a division by 1460 takes away too much is
made up for by the centuries, and the last day of the cycle is treated apart. -/
theorem yearOfEra_eq (hx : x.Valid) (hd : x.number = d) :
    (d - d / 1460 + d / 36524 - d / 146096) / 365 = x.year := by
  obtain ⟨hc₀, hc, hq₀, hq, hs₀, hs, hr₀, hr⟩ := hx
  rw [CycleDay.number] at hd
  rw [CycleDay.year]
  have hlast : d / 146096 = if d = 146096 then 1 else 0 := by omega
  have hcentury : d / 36524 = x.century + if d = 146096 then 1 else 0 := by omega
  omega

theorem dayOfYear_eq (hx : x.Valid) (hd : x.number = d) :
    d - (365 * x.year + x.year / 4 - x.year / 100) = x.day := by
  obtain ⟨hc₀, hc, hq₀, hq, hs₀, hs, -, -⟩ := hx
  rw [CycleDay.number] at hd
  rw [CycleDay.year]
  omega

theorem month_bounds (hx : x.Valid) : 0 ≤ x.month ∧ x.month ≤ 11 := by
  obtain ⟨-, -, -, -, -, -, hr₀, hr⟩ := hx
  rw [CycleDay.month]
  omega

/-- A day number is a day of a cycle, and its date is that day's. -/
theorem exists_ofDays_eq (n : Int) : ∃ (era : Int) (x : CycleDay), x.Valid ∧
    n + 719468 = era * 146097 + x.number ∧ ofDays n = x.date era := by
  obtain ⟨x, hx, hnumber⟩ :=
    exists_cycleDay (d := (n + 719468) % 146097) (by omega) (by omega)
  have hyear := yearOfEra_eq hx hnumber
  have hday := dayOfYear_eq hx hnumber
  obtain ⟨hm₀, hm⟩ := month_bounds hx
  refine ⟨(n + 719468) / 146097, x, hx, by omega, ?_⟩
  simp only [ofDays, hyear, hday]
  rw [CycleDay.date, ← CycleDay.month]
  congr 1
  · split <;> split <;> omega

theorem year_bounds (hx : x.Valid) : 0 ≤ x.year ∧ x.year ≤ 399 := by
  obtain ⟨hc₀, hc, hq₀, hq, hs₀, hs, -, -⟩ := hx
  rw [CycleDay.year]
  omega

/-- A month has at most 31 days, the last one what is left of the year. -/
theorem dayOfMonth_bounds (hx : x.Valid) :
    0 ≤ x.day - (153 * x.month + 2) / 5 ∧ x.day - (153 * x.month + 2) / 5 ≤ 30 := by
  obtain ⟨-, -, -, -, -, -, hr₀, hr⟩ := hx
  rw [CycleDay.month]
  omega

private theorem toDays_date (hx : x.Valid) (era : Int) :
    (x.date era).toDays = era * 146097 + x.number - 719468 := by
  obtain ⟨hm₀, hm⟩ := month_bounds hx
  obtain ⟨hy₀, hy⟩ := year_bounds hx
  obtain ⟨hd₀, -⟩ := dayOfMonth_bounds hx
  -- the year begins in March again
  have hyear : (if (x.date era).month ≤ 2 then (x.date era).year - 1 else (x.date era).year)
      = x.year + era * 400 := by
    simp only [CycleDay.date]
    split <;> split <;> omega
  have hmonth : ((((x.date era).month + 9) % 12 : Nat) : Int) = x.month := by
    simp only [CycleDay.date]
    split <;> omega
  have hday : (153 * x.month + 2) / 5 + ((x.date era).day : Int) - 1 = x.day := by
    simp only [CycleDay.date]
    omega
  have hdays := dayOfYear_eq hx rfl
  simp only [toDays, hyear, hmonth, hday]
  omega

theorem toDays_ofDays (n : Int) : (ofDays n).toDays = n := by
  obtain ⟨era, x, hx, hn, hdate⟩ := exists_ofDays_eq n
  rw [hdate, toDays_date hx]
  omega

/-! ## Days of the calendar -/

private theorem isLeap_iff {year : Int} :
    isLeap year = true ↔ year % 4 = 0 ∧ (year % 100 ≠ 0 ∨ year % 400 = 0) := by
  simp only [isLeap, Bool.and_eq_true, Bool.or_eq_true, beq_iff_eq, bne_iff_ne]

/-- The last day of a long year is a 29th of February. -/
theorem isLeap_of_day (hx : x.Valid) (hday : x.day = 365) (era : Int) :
    isLeap (x.year + era * 400 + 1) = true := by
  obtain ⟨hc₀, hc, hq₀, hq, hs₀, hs, -, hr⟩ := hx
  rw [isLeap_iff, CycleDay.year]
  omega

private theorem day_le_monthLength (hx : x.Valid) (era : Int) :
    (x.date era).day ≤ monthLength (x.date era).year (x.date era).month := by
  obtain ⟨hm₀, hm⟩ := month_bounds hx
  have hleap := isLeap_of_day hx
  obtain ⟨-, -, -, -, -, -, hr₀, hr⟩ := hx
  have hmonth : x.month = (5 * x.day + 2) / 153 := rfl
  have hday : ((x.date era).day : Int) = x.day - (153 * x.month + 2) / 5 + 1 := by
    simp only [CycleDay.date]
    omega
  by_cases hlast : x.month = 11
  · -- February is the only month whose length depends on the year
    have hfebruary : (x.date era).month = 2 := by
      simp only [CycleDay.date]
      omega
    have hyear : (x.date era).year = x.year + era * 400 + 1 := by
      rw [CycleDay.date, if_neg (by omega)]
    rw [monthLength, if_pos hfebruary, hyear]
    split
    · omega
    · next hshort =>
      have hne : x.day ≠ 365 := fun heq ↦ hshort (hleap heq era)
      omega
  · have hnumber : ((x.date era).month : Int) = if x.month < 10 then x.month + 3 else 1 := by
      simp only [CycleDay.date]
      omega
    rw [monthLength, if_neg (by omega)]
    split
    · omega
    · omega

theorem isValid_ofDays_iff {n : Int} :
    (ofDays n).isValid = true ↔ minYear ≤ (ofDays n).year ∧ (ofDays n).year ≤ maxYear := by
  obtain ⟨era, x, hx, -, hdate⟩ := exists_ofDays_eq n
  obtain ⟨hm₀, hm⟩ := month_bounds hx
  obtain ⟨hd₀, -⟩ := dayOfMonth_bounds hx
  have hmonth : 1 ≤ (x.date era).month ∧ (x.date era).month ≤ 12 := by
    simp only [CycleDay.date]
    omega
  have hday : 1 ≤ (x.date era).day := by
    simp only [CycleDay.date]
    omega
  simp only [hdate, isValid, Bool.and_eq_true, decide_eq_true_eq, hmonth, hday,
    day_le_monthLength hx era, and_true]

/-! ## The order of days -/

/-- Whether a date comes before another: the year decides, then the month, then the day. -/
def IsBefore (d e : Date) : Prop :=
  d.year < e.year ∨ d.year = e.year ∧ (d.month < e.month ∨ d.month = e.month ∧ d.day < e.day)

/-- Of two days the later has the later year, counted from March, or is later in the same one. -/
theorem year_lt_or_day_lt {y : CycleDay} (hx : x.Valid) (hy : y.Valid) {e f : Int}
    (h : e * 146097 + x.number < f * 146097 + y.number) :
    x.year + e * 400 < y.year + f * 400 ∨
      x.year + e * 400 = y.year + f * 400 ∧ x.day < y.day := by
  have hxday := dayOfYear_eq hx rfl
  have hyday := dayOfYear_eq hy rfl
  obtain ⟨hxyear₀, hxyear⟩ := year_bounds hx
  obtain ⟨hyyear₀, hyyear⟩ := year_bounds hy
  obtain ⟨-, -, -, -, -, -, hx₀, hx⟩ := hx
  obtain ⟨-, -, -, -, -, -, hy₀, hy⟩ := hy
  by_cases hsame : x.year + e * 400 = y.year + f * 400
  · -- a year belongs to one cycle, and there it starts on one day
    have hcycle : e = f := by omega
    have hyear : x.year = y.year := by omega
    rw [hyear] at hxday
    exact .inr ⟨hsame, by omega⟩
  · refine .inl (Int.lt_of_not_ge fun hge ↦ ?_)
    omega

theorem isBefore_ofDays {m n : Int} (h : m < n) : (ofDays m).IsBefore (ofDays n) := by
  obtain ⟨e, x, hx, hm, hmdate⟩ := exists_ofDays_eq m
  obtain ⟨f, y, hy, hn, hndate⟩ := exists_ofDays_eq n
  have hlt := year_lt_or_day_lt hx hy (e := e) (f := f) (by omega)
  obtain ⟨hxmonth₀, hxmonth⟩ := month_bounds hx
  obtain ⟨hymonth₀, hymonth⟩ := month_bounds hy
  obtain ⟨hxday, -⟩ := dayOfMonth_bounds hx
  obtain ⟨hyday, -⟩ := dayOfMonth_bounds hy
  have hmonth : x.day < y.day → x.month < y.month ∨ x.month = y.month ∧
      x.day - (153 * x.month + 2) / 5 < y.day - (153 * y.month + 2) / 5 := by
    intro hday
    simp only [CycleDay.month]
    omega
  -- the rest is about the turn of the year between February and March
  simp only [IsBefore, hmdate, hndate, CycleDay.date]
  generalize x.day - (153 * x.month + 2) / 5 = p at *
  generalize y.day - (153 * y.month + 2) / 5 = q at *
  omega

end FeedHarvest.Time.Date
