import TrackCriteria.Calendar.Date
import Mathlib.Order.Monotone.Basic
import Mathlib.Tactic.Common
import Mathlib.Tactic.SplitIfs

/-!
# The numbering of days

Day numbers count the days of the calendar: they are in the order of years, months and days
(`Date.dayNumber_lt_iff`), and every number in range is the number of a date, which is read back
from it (`Date.exists_ofDayNumber?`, `civil_dayNumber`). So the day after a date has the next number
(`Date.exists_next?`).

The year of a number is found among three candidates (`daysBeforeYear_yearOfDay`), and its month by
counting the months that have started (`monthOfDay_spec`).

Days are numbered in the same way before the first year of the calendar and after the last one
(`dayNumberOf`), and their order is the same there (`dayNumberOf_lt`).
-/

namespace TrackCriteria.Calendar

/-! ### Years -/

theorem daysBeforeYear_succ (year : Int) :
    daysBeforeYear (year + 1) = daysBeforeYear year + if isLeapYear year then 366 else 365 := by
  have hleap : isLeapYear year = true ↔ year % 4 = 0 ∧ (year % 100 ≠ 0 ∨ year % 400 = 0) := by
    simp [isLeapYear]
  unfold daysBeforeYear
  split_ifs with h
  · have := hleap.mp h
    omega
  · have := mt hleap.mpr h
    omega

theorem daysBeforeYear_mono {y z : Int} (h : y ≤ z) : daysBeforeYear y ≤ daysBeforeYear z := by
  obtain rfl | hlt := Int.le_iff_eq_or_lt.mp h
  · exact Int.le_refl _
  · unfold daysBeforeYear
    omega

/-- Every day lies in its year. -/
theorem daysBeforeYear_yearOfDay (n : Int) :
    daysBeforeYear (yearOfDay n) ≤ n ∧ n < daysBeforeYear (yearOfDay n + 1) := by
  -- The guess is at most one year off on either side.
  have hlow : daysBeforeYear (400 * n / 146097 + 1 - 1) ≤ n := by
    unfold daysBeforeYear
    omega
  have hhigh : n < daysBeforeYear (400 * n / 146097 + 1 + 1 + 1) := by
    unfold daysBeforeYear
    omega
  unfold yearOfDay
  dsimp only
  split_ifs with hbefore hwithin
  · rw [Int.sub_add_cancel]
    exact ⟨hlow, hbefore⟩
  · exact ⟨Int.not_lt.mp hbefore, hwithin⟩
  · exact ⟨Int.not_lt.mp hwithin, hhigh⟩

/-! ### Months -/

theorem daysBeforeMonth_succ {leap : Bool} {month : Nat} (h : 1 ≤ month) :
    daysBeforeMonth leap (month + 1) = daysBeforeMonth leap month + monthLength leap month := by
  obtain ⟨month, rfl⟩ := Nat.exists_eq_add_of_le' h
  rfl

theorem daysBeforeMonth_mono (leap : Bool) : Monotone (daysBeforeMonth leap) := by
  refine monotone_nat_of_le_succ fun month => ?_
  cases month with
  | zero => exact Nat.le_refl _
  | succ month => exact Nat.le_add_right _ _

/-- Among the first months, as many have started as the month of the day tells. -/
theorem countP_daysBeforeMonth {leap : Bool} {n : Nat} (months : Nat) (hpos : 1 ≤ months)
    (h : n < daysBeforeMonth leap (months + 1)) :
    ∃ month, (List.range' 1 months).countP (daysBeforeMonth leap · ≤ n) = month ∧
      (1 ≤ month ∧ month ≤ months) ∧ daysBeforeMonth leap month ≤ n ∧
        n < daysBeforeMonth leap (month + 1) := by
  induction months with
  | zero => cases hpos
  | succ months ih =>
    rw [List.range'_concat, List.countP_append, List.countP_singleton]
    by_cases hstarted : daysBeforeMonth leap (months + 1) ≤ n
    · -- The last month has started, and so have all before it.
      have hall : (List.range' 1 months).countP (daysBeforeMonth leap · ≤ n) = months := by
        rw [List.countP_eq_length.mpr, List.length_range']
        intro month hmonth
        have hle : month ≤ months + 1 := by
          have := (List.mem_range'_1.mp hmonth).2
          omega
        exact decide_eq_true (Nat.le_trans (daysBeforeMonth_mono leap hle) hstarted)
      refine ⟨months + 1, ?_, ⟨hpos, Nat.le_refl _⟩, hstarted, h⟩
      rw [hall, Nat.one_mul, Nat.add_comm 1 months, if_pos (decide_eq_true hstarted)]
    · have hmonths : 1 ≤ months := by
        refine Nat.one_le_iff_ne_zero.mpr ?_
        rintro rfl
        exact hstarted (Nat.zero_le n)
      obtain ⟨month, hcount, ⟨hone, hle⟩, hin⟩ := ih hmonths (Nat.not_le.mp hstarted)
      refine ⟨month, ?_, ⟨hone, Nat.le_succ_of_le hle⟩, hin⟩
      rw [hcount, Nat.one_mul, Nat.add_comm 1 months, if_neg (by simpa using hstarted),
        Nat.add_zero]

/-- Every day of a year lies in its month. -/
theorem monthOfDay_spec {leap : Bool} {n : Nat} (h : n < if leap then 366 else 365) :
    (1 ≤ monthOfDay leap n ∧ monthOfDay leap n ≤ 12) ∧
      daysBeforeMonth leap (monthOfDay leap n) ≤ n ∧
        n < daysBeforeMonth leap (monthOfDay leap n) + monthLength leap (monthOfDay leap n) := by
  have hyear : daysBeforeMonth leap 13 = if leap then 366 else 365 := by
    cases leap <;> rfl
  obtain ⟨month, hcount, hrange, hstart, hend⟩ :=
    countP_daysBeforeMonth 12 (by decide) (hyear ▸ h)
  rw [show monthOfDay leap n = month from hcount, ← daysBeforeMonth_succ hrange.1]
  exact ⟨hrange, hstart, hend⟩

/-! ### Days of any year -/

/-- The number of a day, also of one in a year that the calendar does not reach. -/
def dayNumberOf (year : Int) (month day : Nat) : Int :=
  daysBeforeYear year + daysBeforeMonth (isLeapYear year) month + day - 719163

theorem one_le_monthLength (leap : Bool) (month : Nat) : 1 ≤ monthLength leap month := by
  unfold monthLength
  split_ifs <;> decide

/-- A day in an earlier year, or in an earlier month of its year, or on an earlier day of its month
has the lower number. -/
theorem dayNumberOf_lt {year year' : Int} {month month' day day' : Nat}
    (hmonth : 1 ≤ month ∧ month ≤ 12) (hday : day ≤ monthLength (isLeapYear year) month)
    (hday' : 1 ≤ day')
    (h : year < year' ∨ year = year' ∧ (month < month' ∨ month = month' ∧ day < day')) :
    dayNumberOf year month day < dayNumberOf year' month' day' := by
  unfold dayNumberOf
  obtain hyear | ⟨rfl, hmonths | ⟨rfl, hdays⟩⟩ := h
  · -- The first year is over when the second one starts.
    have hin := daysBeforeMonth_add_le hmonth.1 hmonth.2 hday
    have hover := daysBeforeYear_mono (y := year + 1) (z := year') hyear
    rw [daysBeforeYear_succ] at hover
    split_ifs at hin hover <;> omega
  · -- The first month is over when the second one starts.
    have hover := daysBeforeMonth_mono (isLeapYear year) (Nat.succ_le_of_lt hmonths)
    rw [Nat.succ_eq_add_one, daysBeforeMonth_succ hmonth.1] at hover
    omega
  · omega

/-- The years of the calendar hold the days whose numbers are in range, and no others. -/
theorem dayNumberOf_inRange_iff {year : Int} {month day : Nat} (hmonth : 1 ≤ month ∧ month ≤ 12)
    (hday : 1 ≤ day ∧ day ≤ monthLength (isLeapYear year) month) :
    minDayNumber ≤ dayNumberOf year month day ∧ dayNumberOf year month day ≤ maxDayNumber ↔
      minYear ≤ year ∧ year ≤ maxYear := by
  constructor
  · rintro ⟨hmin, hmax⟩
    unfold dayNumberOf at hmin hmax
    have hin := daysBeforeMonth_add_le hmonth.1 hmonth.2 hday.2
    constructor
    · -- An earlier year has ended when the first one starts.
      by_contra hlt
      have hover := daysBeforeYear_mono (y := year + 1) (z := minYear) (by omega)
      have hminYear : daysBeforeYear minYear - 719162 = minDayNumber := by decide
      rw [daysBeforeYear_succ] at hover
      split_ifs at hin hover <;> omega
    · -- A later year starts when the last one has ended.
      by_contra hlt
      have hover := daysBeforeYear_mono (y := maxYear + 1) (z := year) (by omega)
      have hmaxYear : daysBeforeYear (maxYear + 1) - 719163 = maxDayNumber := by decide
      omega
  · intro hyear
    obtain ⟨date, hdate⟩ : ∃ date : Date, date.dayNumber = dayNumberOf year month day :=
      ⟨⟨year, month, day, hyear.1, hyear.2, hmonth.1, hmonth.2, hday.1, hday.2⟩, rfl⟩
    rw [← hdate]
    exact ⟨date.minDayNumber_le, date.le_maxDayNumber⟩

/-! ### Dates -/

/-- The day of a number lies in a month of its year. -/
theorem civil_spec (n : Int) :
    ∃ year month day, civil n = (year, month, day) ∧ (1 ≤ month ∧ month ≤ 12) ∧
      (1 ≤ day ∧ day ≤ monthLength (isLeapYear year) month) ∧
        dayNumberOf year month day = n := by
  obtain ⟨hstart, hend⟩ := daysBeforeYear_yearOfDay (n + 719162)
  obtain ⟨year, hyear⟩ : ∃ year, yearOfDay (n + 719162) = year := ⟨_, rfl⟩
  rw [hyear] at hstart hend
  obtain ⟨dayOfYear, hdays⟩ := Int.eq_ofNat_of_zero_le (Int.sub_nonneg_of_le hstart)
  have hlt : dayOfYear < if isLeapYear year then 366 else 365 := by
    rw [daysBeforeYear_succ] at hend
    split_ifs at hend ⊢ <;> omega
  -- The year has the day, so the day lies in one of its months.
  obtain ⟨hmonth, hfirst, hlast⟩ := monthOfDay_spec hlt
  obtain ⟨month, hmonthOf⟩ : ∃ month, monthOfDay (isLeapYear year) dayOfYear = month := ⟨_, rfl⟩
  rw [hmonthOf] at hmonth hfirst hlast
  refine ⟨year, month, dayOfYear + 1 - daysBeforeMonth (isLeapYear year) month, ?_, hmonth,
    ⟨?_, ?_⟩, ?_⟩
  · simp only [civil, hyear, hdays, Int.toNat_natCast, hmonthOf]
  · omega
  · omega
  · unfold dayNumberOf
    omega

namespace Date

theorem of?_eq_some {year : Int} {month day : Nat} {date : Date} :
    of? year month day = some date ↔ date.year = year ∧ date.month = month ∧ date.day = day := by
  obtain ⟨year', month', day', hmin, hmax, hmonth, hmonth', hday, hday'⟩ := date
  unfold of?
  constructor
  · intro h
    split at h
    · cases h
      exact ⟨rfl, rfl, rfl⟩
    · cases h
  · rintro ⟨rfl, rfl, rfl⟩
    rw [dif_pos ⟨⟨hmin, hmax⟩, ⟨hmonth, hmonth'⟩, hday, hday'⟩]

theorem day_le_thirtyOne (date : Date) : date.day ≤ 31 := by
  refine Nat.le_trans date.day_le ?_
  unfold monthLength
  split_ifs <;> decide

/-- Day numbers are in the order of years, months and days. -/
theorem dayNumber_lt_of_lt {d e : Date}
    (h : d.year < e.year ∨
      d.year = e.year ∧ (d.month < e.month ∨ d.month = e.month ∧ d.day < e.day)) :
    d.dayNumber < e.dayNumber :=
  dayNumberOf_lt ⟨d.one_le_month, d.month_le⟩ d.day_le e.one_le_day h

theorem dayNumber_lt_iff {d e : Date} :
    d.dayNumber < e.dayNumber ↔
      d.year < e.year ∨
        d.year = e.year ∧ (d.month < e.month ∨ d.month = e.month ∧ d.day < e.day) := by
  refine ⟨fun h => ?_, dayNumber_lt_of_lt⟩
  by_contra hnot
  obtain heq | hlt : (d.year = e.year ∧ d.month = e.month ∧ d.day = e.day) ∨
      (e.year < d.year ∨
        e.year = d.year ∧ (e.month < d.month ∨ e.month = d.month ∧ e.day < d.day)) := by omega
  · obtain ⟨hyear, hmonth, hday⟩ := heq
    rw [dayNumber, dayNumber, hyear, hmonth, hday] at h
    exact Int.lt_irrefl _ h
  · exact Int.lt_asymm h (dayNumber_lt_of_lt hlt)

/-- No two dates have the same number. -/
theorem dayNumber_injective : Function.Injective dayNumber := by
  intro d e h
  have hde := mt dayNumber_lt_iff.mpr (Int.not_lt.mpr (Int.le_of_eq h.symm))
  have hed := mt dayNumber_lt_iff.mpr (Int.not_lt.mpr (Int.le_of_eq h))
  -- Neither date comes before the other one.
  have hyear : d.year = e.year := by omega
  have hmonth : d.month = e.month := by omega
  have hday : d.day = e.day := by omega
  have hof : of? e.year e.month e.day = some d := of?_eq_some.mpr ⟨hyear, hmonth, hday⟩
  rw [of?_eq_some.mpr ⟨rfl, rfl, rfl⟩] at hof
  exact (Option.some.inj hof).symm

/-- Every number in range is the number of a date. -/
theorem exists_ofDayNumber? {n : Int} (hmin : minDayNumber ≤ n) (hmax : n ≤ maxDayNumber) :
    ∃ d, ofDayNumber? n = some d ∧ d.dayNumber = n := by
  obtain ⟨year, month, day, hcivil, hmonth, hday, hn⟩ := civil_spec n
  have hyear := (dayNumberOf_inRange_iff hmonth hday).mp (hn ▸ ⟨hmin, hmax⟩)
  refine ⟨⟨year, month, day, hyear.1, hyear.2, hmonth.1, hmonth.2, hday.1, hday.2⟩, ?_, hn⟩
  rw [ofDayNumber?, hcivil]
  exact of?_eq_some.mpr ⟨rfl, rfl, rfl⟩

/-- Every date but the last has a next one, whose number is the next number. -/
theorem exists_next? {d : Date} (h : d.dayNumber < maxDayNumber) :
    ∃ next, d.next? = some next ∧ next.dayNumber = d.dayNumber + 1 :=
  exists_ofDayNumber? (Int.le_trans d.minDayNumber_le (Int.le_of_lt (Int.lt_succ _))) h

/-- A date is read back from its number. -/
theorem ofDayNumber?_dayNumber (d : Date) : ofDayNumber? d.dayNumber = some d := by
  obtain ⟨e, he, hnumber⟩ := exists_ofDayNumber? d.minDayNumber_le d.le_maxDayNumber
  rw [he, dayNumber_injective hnumber]

end Date

theorem civil_dayNumber (d : Date) : civil d.dayNumber = (d.year, d.month, d.day) := by
  obtain ⟨year, month, day, hcivil, -⟩ := civil_spec d.dayNumber
  have hof := d.ofDayNumber?_dayNumber
  rw [Date.ofDayNumber?, hcivil] at hof
  obtain ⟨rfl, rfl, rfl⟩ := Date.of?_eq_some.mp hof
  exact hcivil

end TrackCriteria.Calendar
