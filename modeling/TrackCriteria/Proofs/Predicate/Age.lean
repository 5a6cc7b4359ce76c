import TrackCriteria.Proofs.Calendar.Month
import TrackCriteria.Proofs.Predicate.LocalDay

/-!
# Comparing ages

An age of `N` units is compared by two instants, one `N` units back and one `N` units ahead. Each is
found by moving the clock of now. Days move it by days of 86400 seconds; months move it to the month
that many months away, on the same day of it or else on its last one; a year is twelve months. The
time of day stays as it is (`AgeUnit.move?_eq`). The age reaches to the instant that the moved
reading stands for (`ZonedTime.shift_eq`), and a clock with one offset then shows the moved reading
(`shift_fixed`). The operators compare with the two instants (`matches_resolveAge`).
-/

namespace TrackCriteria

open Calendar (Date InRange Instant Offset Zone ZonedTime secondsPerDay minSeconds maxSeconds)

/-! ### Days that are so many units apart -/

/-- The number of the month, counted on through the years. -/
def Calendar.Date.monthIndex (d : Date) : Int :=
  12 * d.year + d.month

/-- Whether `e` lies so many months after `d`: on the same day of its month, or on the last one if
the month is too short. -/
def Calendar.Date.IsMonthsAfter (months : Int) (d e : Date) : Prop :=
  e.monthIndex = d.monthIndex + months ∧
    e.day = min d.day (Calendar.monthLength (Calendar.isLeapYear e.year) e.month)

/-- Whether `e` lies so many units after `d`. -/
def AgeUnit.IsAfter (unit : AgeUnit) (steps : Int) (d e : Date) : Prop :=
  match unit with
  | .day => e.dayNumber = d.dayNumber + steps
  | .month => Date.IsMonthsAfter steps d e
  | .year => Date.IsMonthsAfter (12 * steps) d e

/-- The second of its day that a clock with the offset shows. -/
def Calendar.Instant.localSecond (t : Instant) (o : Offset) : Int :=
  (t.seconds + o.seconds) % secondsPerDay

/-- Whether the operator holds between an instant and an age that reaches from `back` to `ahead`. -/
def Comparison.HoldsOfAge (op : Comparison) (back ahead t : Instant) : Prop :=
  match op with
  | .eq => back < t ∧ t < ahead
  | .lt => back < t
  | .le => back ≤ t
  | .gt => t < back
  | .ge => t ≤ back

/-! ### The day that an age reaches -/

/-- The number of the day that lies so many units after a day, whether or not the calendar reaches
so far. -/
def AgeUnit.dayAfter (unit : AgeUnit) (steps n : Int) : Int :=
  match unit with
  | .day => n + steps
  | .month => Calendar.monthsAfter steps n
  | .year => Calendar.monthsAfter (12 * steps) n

/-- The months are counted from 0 while the clock is moved, so that years begin at multiples of
twelve. -/
theorem Calendar.Date.monthsAfter_dayNumber {d e : Date} {months : Int}
    (h : Date.IsMonthsAfter months d e) : Calendar.monthsAfter months d.dayNumber = e.dayNumber := by
  obtain ⟨hindex, hlast⟩ := h
  have hpos := e.one_le_month
  have hle := e.month_le
  unfold Date.monthIndex at hindex
  have hyear : (12 * d.year + ((d.month : Int) - 1) + months) / 12 = e.year := by omega
  have hmonth : ((12 * d.year + ((d.month : Int) - 1) + months) % 12).toNat + 1 = e.month := by
    omega
  simp only [Calendar.monthsAfter, Calendar.civil_dayNumber, hyear, hmonth, ← hlast]
  rfl

theorem AgeUnit.dayAfter_dayNumber {unit : AgeUnit} {d e : Date} {steps : Int}
    (h : unit.IsAfter steps d e) : unit.dayAfter steps d.dayNumber = e.dayNumber := by
  cases unit with
  | day =>
    have hnumber : e.dayNumber = d.dayNumber + steps := h
    exact hnumber.symm
  | month => exact Date.monthsAfter_dayNumber h
  | year => exact Date.monthsAfter_dayNumber h

/-! ### Moving now -/

/-- Moving a clock leaves the time of day as it is. -/
theorem AgeUnit.move?_eq (unit : AgeUnit) (steps : Int) (wall : Instant) :
    unit.move? steps wall =
      wall.withSeconds? (unit.dayAfter steps (wall.seconds / secondsPerDay) * secondsPerDay +
        wall.seconds % secondsPerDay) := by
  cases unit with
  | day =>
    have hseconds : wall.seconds + steps * secondsPerDay =
        (wall.seconds / secondsPerDay + steps) * secondsPerDay + wall.seconds % secondsPerDay := by
      unfold secondsPerDay
      omega
    rw [move?, Instant.addDays?, hseconds]
    rfl
  | month => exact Instant.addMonths?_eq wall steps
  | year => exact Instant.addMonths?_eq wall (12 * steps)

theorem Calendar.Instant.localSecond_nonneg (t : Instant) (o : Offset) : 0 ≤ t.localSecond o := by
  unfold localSecond secondsPerDay
  omega

theorem Calendar.Instant.localSecond_lt (t : Instant) (o : Offset) :
    t.localSecond o < secondsPerDay := by
  unfold localSecond secondsPerDay
  omega

/-- What a clock shows is the second of the day it shows. -/
theorem Calendar.Instant.localDay_add_localSecond (t : Instant) (o : Offset) :
    t.localDay o * secondsPerDay + t.localSecond o = t.seconds + o.seconds := by
  unfold localDay localSecond secondsPerDay
  omega

/-- The seconds of the reading that lies so many units away at the same time of day, whether or not
a clock can show it. -/
def Calendar.ZonedTime.readingAfter (now : ZonedTime) (unit : AgeUnit) (steps : Int) : Int :=
  unit.dayAfter steps (now.instant.localDay now.offset) * secondsPerDay +
    now.instant.localSecond now.offset

/-- An age reaches to the instant that the moved reading stands for, or to the end of time if no
clock can show this reading. -/
theorem Calendar.ZonedTime.shift_eq {now : ZonedTime}
    (h : InRange (now.instant.seconds + now.offset.seconds)) (amount : UInt32) (unit : AgeUnit)
    (direction : Direction) :
    now.shift amount unit direction =
      (now.instant.withSeconds? (now.readingAfter unit (direction.signed amount.toNat))).elim
        direction.limit now.resolve := by
  obtain ⟨wall, hwall, hseconds, hnanos⟩ := now.instant.exists_withSeconds? h
  have hmove : unit.move? (direction.signed amount.toNat) wall =
      now.instant.withSeconds? (now.readingAfter unit (direction.signed amount.toNat)) := by
    rw [AgeUnit.move?_eq, Instant.withSeconds?_congr hnanos, hseconds]
    rfl
  unfold shift wall?
  rw [hwall, Option.bind_some, hmove]
  cases now.instant.withSeconds? (now.readingAfter unit (direction.signed amount.toNat)) <;> rfl

section Days

variable {now : ZonedTime} {d e : Date}

/-- A clock that shows a day of the calendar shows a reading in range. -/
theorem Calendar.ZonedTime.inRange_of_localDay
    (hd : d.dayNumber = now.instant.localDay now.offset) :
    InRange (now.instant.seconds + now.offset.seconds) := by
  rw [← now.instant.localDay_add_localSecond, Calendar.inRange_day_iff
    (now.instant.localSecond_nonneg now.offset) (now.instant.localSecond_lt now.offset), ← hd]
  exact ⟨d.minDayNumber_le, d.le_maxDayNumber⟩

theorem Calendar.ZonedTime.readingAfter_eq (hd : d.dayNumber = now.instant.localDay now.offset)
    {unit : AgeUnit} {steps : Int} (he : unit.IsAfter steps d e) :
    now.readingAfter unit steps =
      e.dayNumber * secondsPerDay + now.instant.localSecond now.offset := by
  rw [readingAfter, ← hd, AgeUnit.dayAfter_dayNumber he]

/-- An age that leads to a reading on a day of the calendar reaches to the instant that the reading
stands for. -/
theorem Calendar.ZonedTime.shift_eq_resolve (hd : d.dayNumber = now.instant.localDay now.offset)
    {amount : UInt32} {unit : AgeUnit} {direction : Direction}
    (he : unit.IsAfter (direction.signed amount.toNat) d e) {wall : Instant}
    (hseconds :
      wall.seconds = e.dayNumber * secondsPerDay + now.instant.localSecond now.offset)
    (hnanos : wall.nanos = now.instant.nanos) :
    now.shift amount unit direction = now.resolve wall := by
  have hwall : now.instant.withSeconds? (now.readingAfter unit (direction.signed amount.toNat)) =
      some wall :=
    Instant.withSeconds?_eq_some.mpr ⟨hseconds.trans (readingAfter_eq hd he).symm, hnanos⟩
  rw [shift_eq (inRange_of_localDay hd), hwall, Option.elim_some]

end Days

section Fixed

variable {now : Instant} {o : Offset}

/-- So many units away, the clock shows the day asked for at the time of day that it shows now. -/
theorem shift_fixed {amount : UInt32} {unit : AgeUnit} {direction : Direction} {d e : Date}
    (hd : d.dayNumber = now.localDay o)
    (he : unit.IsAfter (direction.signed amount.toNat) d e)
    (hrange : minSeconds ≤ e.dayNumber * secondsPerDay + now.localSecond o - o.seconds ∧
      e.dayNumber * secondsPerDay + now.localSecond o - o.seconds ≤ maxSeconds) :
    (ZonedTime.shift ⟨now, .fixed o⟩ amount unit direction).seconds =
        e.dayNumber * secondsPerDay + now.localSecond o - o.seconds ∧
      (ZonedTime.shift ⟨now, .fixed o⟩ amount unit direction).nanos = now.nanos := by
  have hday : InRange (e.dayNumber * secondsPerDay + now.localSecond o) :=
    (Calendar.inRange_day_iff (now.localSecond_nonneg o) (now.localSecond_lt o)).mpr
      ⟨e.minDayNumber_le, e.le_maxDayNumber⟩
  -- The clock can show the moved reading, and it does so at an instant in range.
  obtain ⟨moved, -, hmseconds, hmnanos⟩ := now.exists_withSeconds? hday
  rw [← hmseconds] at hrange
  obtain ⟨s, hs, hsseconds, hsnanos⟩ := moved.exists_withSeconds? hrange
  have hshift : ZonedTime.shift ⟨now, .fixed o⟩ amount unit direction =
      ZonedTime.resolve ⟨now, .fixed o⟩ moved :=
    ZonedTime.shift_eq_resolve hd he hmseconds hmnanos
  rw [hshift, ZonedTime.resolve_fixed, hs, Option.getD_some, hsseconds, hsnanos, hmseconds, hmnanos]
  exact ⟨rfl, rfl⟩

end Fixed

/-! ### Ages as predicates -/

/-- The window of an operator lies between the two instants of the age. -/
theorem matches_resolveAge (field : DateField) (op : Comparison) (back ahead : Instant)
    (track : Track) :
    (resolveAge field op back ahead).matches track = true ↔
      op.HoldsOfAge back ahead (track.date field) := by
  cases op <;>
    simp [resolveAge, boundedDate, Predicate.matches, Formula.eval, Test.matches, Bound.contains,
      Comparison.HoldsOfAge]

namespace Criteria

/-- **Ages are exact calendar arithmetic on the local clock.** On a clock with one offset that shows
the day `d` now, an age reaches back or ahead to the day `e` that lies so many units away, at the
same time of day, if the clock can show this at an instant in range; days are days of 86400 seconds.
The operators compare the date of a track with the two instants. -/
theorem localDay_shift_and_matches_age (now : Instant) (o : Offset) (amount : UInt32)
    (unit : AgeUnit) :
    (∀ (direction : Direction) (d e : Date), d.dayNumber = now.localDay o →
      unit.IsAfter (direction.signed amount.toNat) d e →
      minSeconds ≤ e.dayNumber * secondsPerDay + now.localSecond o - o.seconds →
      e.dayNumber * secondsPerDay + now.localSecond o - o.seconds ≤ maxSeconds →
        (ZonedTime.shift ⟨now, .fixed o⟩ amount unit direction).localDay o = e.dayNumber ∧
        (ZonedTime.shift ⟨now, .fixed o⟩ amount unit direction).localSecond o =
          now.localSecond o ∧
        (ZonedTime.shift ⟨now, .fixed o⟩ amount unit direction).nanos = now.nanos ∧
        (unit = .day → (ZonedTime.shift ⟨now, .fixed o⟩ amount unit direction).seconds =
          now.seconds + direction.signed amount.toNat * 86400)) ∧
    ∀ (field : DateField) (op : Comparison) (track : Track),
      (Criteria.resolve (.atom (.date field op (.age amount unit))) ⟨now, .fixed o⟩).matches track
          = true ↔
        op.HoldsOfAge (ZonedTime.shift ⟨now, .fixed o⟩ amount unit .back)
          (ZonedTime.shift ⟨now, .fixed o⟩ amount unit .ahead) (track.date field) := by
  constructor
  · intro direction d e hd he hmin hmax
    obtain ⟨hseconds, hnanos⟩ := shift_fixed hd he ⟨hmin, hmax⟩
    have hpos := now.localSecond_nonneg o
    have hlt := now.localSecond_lt o
    have hnow := now.localDay_add_localSecond o
    generalize ZonedTime.shift ⟨now, .fixed o⟩ amount unit direction = s at hseconds hnanos ⊢
    -- What the clock shows then is the second of now on the other day.
    have hwall : s.seconds + o.seconds = e.dayNumber * secondsPerDay + now.localSecond o := by
      omega
    refine ⟨?_, ?_, hnanos, ?_⟩
    · unfold Instant.localDay
      rw [hwall]
      unfold secondsPerDay at hlt ⊢
      omega
    · rw [Instant.localSecond, hwall]
      unfold secondsPerDay at hlt ⊢
      omega
    · rintro rfl
      have hnumber : e.dayNumber = d.dayNumber + direction.signed amount.toNat := he
      unfold secondsPerDay at hseconds hnow
      omega
  · intro field op track
    exact matches_resolveAge field op _ _ track

/-- On a clock five hours behind UTC that shows the evening of 31 March 2024, though it is April in
UTC, an age of one month reaches back to the same half second of 29 February. -/
theorem localDay_shift_and_matches_age_leapDay :
    ∃ (now back : Instant) (o : Offset) (d e : Date),
      now.text = "2024-04-01T01:00:00.500Z" ∧ o.seconds = -18000 ∧
        (d.year, d.month, d.day) = (2024, 3, 31) ∧ d.dayNumber = now.localDay o ∧
        (e.year, e.month, e.day) = (2024, 2, 29) ∧
        AgeUnit.month.IsAfter (Direction.back.signed (1 : UInt32).toNat) d e ∧
        ZonedTime.shift ⟨now, .fixed o⟩ 1 .month .back = back ∧ back.localDay o = e.dayNumber ∧
        back.localSecond o = 72000 ∧ back.nanos = 500000000 ∧
        ∀ track : Track,
          (Criteria.resolve (.atom (.date .added .lt (.age 1 .month))) ⟨now, .fixed o⟩).matches
              track = true ↔ back < track.dateAdded := by
  obtain ⟨now, hnow⟩ : ∃ now : Instant, now = ⟨1711933200, 500000000, by decide, by decide,
    by decide⟩ := ⟨_, rfl⟩
  obtain ⟨o, ho⟩ : ∃ o : Offset, o = ⟨-18000, by decide, by decide⟩ := ⟨_, rfl⟩
  obtain ⟨d, hd⟩ : ∃ d : Date, d = ⟨2024, 3, 31, by decide, by decide, by decide, by decide,
    by decide, by decide⟩ := ⟨_, rfl⟩
  obtain ⟨e, he⟩ : ∃ e : Date, e = ⟨2024, 2, 29, by decide, by decide, by decide, by decide,
    by decide, by decide⟩ := ⟨_, rfl⟩
  have hday : d.dayNumber = now.localDay o := by
    rw [hd, hnow, ho]
    decide
  have hafter : AgeUnit.month.IsAfter (Direction.back.signed (1 : UInt32).toNat) d e := by
    rw [hd, he]
    constructor <;> decide
  have hsecond : now.localSecond o = 72000 := by
    rw [hnow, ho]
    decide
  obtain ⟨hshift, hmatches⟩ := localDay_shift_and_matches_age now o 1 .month
  obtain ⟨hlocalDay, hlocalSecond, hnanos, -⟩ := hshift .back d e hday hafter
    (by rw [hsecond, he, ho]; decide) (by rw [hsecond, he, ho]; decide)
  refine ⟨now, _, o, d, e, by rw [hnow]; decide +kernel, by rw [ho], by rw [hd], hday, by rw [he],
    hafter, rfl, hlocalDay, hlocalSecond.trans hsecond, hnanos.trans (by rw [hnow]), ?_⟩
  exact fun track => hmatches .added .lt track

end Criteria

end TrackCriteria
