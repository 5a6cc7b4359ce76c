import TrackCriteria.Proofs.Calendar.Civil
import TrackCriteria.Proofs.Calendar.Instant

/-!
# Moving by months

The day that lies some months after another one is found in a calendar without end
(`monthsAfter`). More months lead to a later day, though months may be too short for the day
(`monthsAfter_lt`). A clock can be moved by months iff the calendar reaches the day that is found
(`Instant.addMonths?_eq`), so never by more months than the calendar has
(`natAbs_lt_of_monthsAfter`).
-/

namespace TrackCriteria.Calendar

/-! ### Days so many months apart -/

/-- The number of the day that lies so many months after a day: on the same day of its month, or on
the last one if the month is too short. -/
def monthsAfter (months n : Int) : Int :=
  let (year, month, day) := civil n
  let index := 12 * year + (month - 1) + months
  let newYear := index / 12
  let newMonth := (index % 12).toNat + 1
  dayNumberOf newYear newMonth (min day (monthLength (isLeapYear newYear) newMonth))

/-- Months are counted on through the years, and the day is one of its month. -/
theorem monthsAfter_spec {n year : Int} {month day : Nat} (hcivil : civil n = (year, month, day))
    (hday : 1 ≤ day) (months : Int) :
    ∃ newYear newMonth newDay, monthsAfter months n = dayNumberOf newYear newMonth newDay ∧
      12 * newYear + (newMonth : Int) = 12 * year + month + months ∧
      (1 ≤ newMonth ∧ newMonth ≤ 12) ∧
        1 ≤ newDay ∧ newDay ≤ monthLength (isLeapYear newYear) newMonth := by
  refine ⟨_, _, _, by rw [monthsAfter, hcivil], ?_, ?_, ?_, Nat.min_le_right _ _⟩
  · omega
  · omega
  · exact Nat.le_min.mpr ⟨hday, one_le_monthLength _ _⟩

/-- More months lead to a later day. -/
theorem monthsAfter_lt {months months' : Int} (h : months < months') (n : Int) :
    monthsAfter months n < monthsAfter months' n := by
  obtain ⟨year, month, day, hcivil, -, hday, -⟩ := civil_spec n
  obtain ⟨year₁, month₁, day₁, heq₁, hindex₁, hmonth₁, hday₁⟩ :=
    monthsAfter_spec hcivil hday.1 months
  obtain ⟨year₂, month₂, day₂, heq₂, hindex₂, hmonth₂, hday₂⟩ :=
    monthsAfter_spec hcivil hday.1 months'
  rw [heq₁, heq₂]
  exact dayNumberOf_lt hmonth₁ hday₁.2 hday₂.1 (by omega)

theorem monthsAfter_zero (n : Int) : monthsAfter 0 n = n := by
  obtain ⟨year, month, day, hcivil, hmonth, hday, hn⟩ := civil_spec n
  have hyear : (12 * year + ((month : Int) - 1) + 0) / 12 = year := by omega
  have hnewMonth : ((12 * year + ((month : Int) - 1) + 0) % 12).toNat + 1 = month := by omega
  simp only [monthsAfter, hcivil, hyear, hnewMonth, Nat.min_eq_left hday.2, hn]

/-- Two days of the calendar are fewer months apart than the calendar has. -/
theorem natAbs_lt_of_monthsAfter {months n : Int} (hn : minDayNumber ≤ n ∧ n ≤ maxDayNumber)
    (h : minDayNumber ≤ monthsAfter months n ∧ monthsAfter months n ≤ maxDayNumber) :
    (months.natAbs : Int) < 12 * (maxYear - minYear + 1) := by
  obtain ⟨year, month, day, hcivil, hmonth, hday, rfl⟩ := civil_spec n
  obtain ⟨newYear, newMonth, newDay, heq, hindex, hnewMonth, hnewDay⟩ :=
    monthsAfter_spec hcivil hday.1 months
  rw [heq] at h
  have hyear := (dayNumberOf_inRange_iff hmonth hday).mp hn
  have hnewYear := (dayNumberOf_inRange_iff hnewMonth hnewDay).mp h
  omega

/-! ### Moving a clock -/

/-- A second of a day of any year is in range iff the calendar has the day. -/
theorem bind_of?_eq_withSeconds? {year : Int} {month day : Nat} (hmonth : 1 ≤ month ∧ month ≤ 12)
    (hday : 1 ≤ day ∧ day ≤ monthLength (isLeapYear year) month) {second : Int}
    (hpos : 0 ≤ second) (hlt : second < secondsPerDay) (t : Instant) :
    ((Date.of? year month day).bind fun date =>
        t.withSeconds? (date.dayNumber * secondsPerDay + second)) =
      t.withSeconds? (dayNumberOf year month day * secondsPerDay + second) := by
  by_cases hyear : minYear ≤ year ∧ year ≤ maxYear
  · have hof : Date.of? year month day =
        some ⟨year, month, day, hyear.1, hyear.2, hmonth.1, hmonth.2, hday.1, hday.2⟩ :=
      Date.of?_eq_some.mpr ⟨rfl, rfl, rfl⟩
    rw [hof]
    rfl
  · -- The calendar does not have the year, and its days are out of range.
    have hof : Date.of? year month day = none := dif_neg fun h => hyear h.1
    have hrange : ¬InRange (dayNumberOf year month day * secondsPerDay + second) := by
      rw [inRange_day_iff hpos hlt, dayNumberOf_inRange_iff hmonth hday]
      exact hyear
    rw [hof, Instant.withSeconds?_eq_none.mpr hrange]
    rfl

/-- Moving a clock by months leaves the time of day as it is. -/
theorem Instant.addMonths?_eq (wall : Instant) (months : Int) :
    wall.addMonths? months =
      wall.withSeconds? (monthsAfter months (wall.seconds / secondsPerDay) * secondsPerDay +
        wall.seconds % secondsPerDay) := by
  obtain ⟨year, month, day, hcivil, -, hday, -⟩ := civil_spec (wall.seconds / secondsPerDay)
  simp only [addMonths?, monthsAfter, hcivil]
  refine bind_of?_eq_withSeconds? ⟨by omega, by omega⟩
    ⟨Nat.le_min.mpr ⟨hday.1, one_le_monthLength _ _⟩, Nat.min_le_right _ _⟩ ?_ ?_ wall
  · unfold secondsPerDay
    omega
  · unfold secondsPerDay
    omega

end TrackCriteria.Calendar
