import TrackCriteria.Proofs.Calendar.Timestamp
import TrackCriteria.Proofs.Predicate.Reading

/-!
# Ages beyond the ends of the calendar

On a clock with one offset an age is exact as long as both the reading it leads to and the instant
that shows this reading are in range. An age that leads to no reading a clock can show reaches to
the end of time; this is so for all numbers of months that are too large to be counted in 32 bits
with a sign (`not_inRange_readingAfter_of_months`).

Between the two there is a gap. Where the calendar still has the reading but the instant that shows
it would lie past the end of time, by the offset of the clock, the reading is taken for one in UTC.
Such an age ends short of the end of time, though by less than a day
(`ZonedTime.shift_near_limit`), and it is no end of time (`ZonedTime.not_forall_shift_eq_limit`).
-/

namespace TrackCriteria

open Calendar (InRange Instant Offset Zone ZonedTime secondsPerDay)

/-- The months that so many units are counted in. -/
def AgeUnit.months (unit : AgeUnit) (amount : Nat) : Nat :=
  match unit with
  | .day => 0
  | .month => amount
  | .year => 12 * amount

theorem Direction.natAbs_signed (direction : Direction) (steps : Nat) :
    (direction.signed steps).natAbs = steps := by
  cases direction with
  | back => exact Int.natAbs_neg steps
  | ahead => rfl

namespace Calendar.ZonedTime

theorem not_inRange_monthsAfter {now : ZonedTime}
    (hnow : InRange (now.instant.seconds + now.offset.seconds)) {months : Int}
    (h : 2147483647 < months.natAbs) :
    ¬InRange (Calendar.monthsAfter months (now.instant.localDay now.offset) * secondsPerDay +
      now.instant.localSecond now.offset) := by
  rw [← now.instant.localDay_add_localSecond] at hnow
  have hpos := now.instant.localSecond_nonneg now.offset
  have hlt := now.instant.localSecond_lt now.offset
  rw [Calendar.inRange_day_iff hpos hlt] at hnow ⊢
  intro hrange
  have hfew := Calendar.natAbs_lt_of_monthsAfter hnow hrange
  unfold Calendar.maxYear Calendar.minYear at hfew
  omega

/-- No clock can show the reading that lies so many months away that they cannot be counted. -/
theorem not_inRange_readingAfter_of_months {now : ZonedTime}
    (hnow : InRange (now.instant.seconds + now.offset.seconds)) {unit : AgeUnit} {amount : Nat}
    (h : 2147483647 < unit.months amount) (direction : Direction) :
    ¬InRange (now.readingAfter unit (direction.signed amount)) := by
  cases unit with
  | day => exact absurd h (Nat.not_lt_zero _)
  | month =>
    refine not_inRange_monthsAfter hnow ?_
    rw [direction.natAbs_signed]
    exact h
  | year =>
    refine not_inRange_monthsAfter hnow ?_
    rw [Int.natAbs_mul, direction.natAbs_signed]
    exact h

section Fixed

variable {now : Instant} {o : Offset} {unit : AgeUnit} {direction : Direction} {amount : Nat}

/-- A reading whose instant is past the end of time is less than a day away from it. -/
theorem natAbs_sub_limit_lt
    (hreading : InRange (readingAfter ⟨now, .fixed o⟩ unit (direction.signed amount)))
    (hinstant :
      ¬InRange (readingAfter ⟨now, .fixed o⟩ unit (direction.signed amount) - o.seconds)) :
    (readingAfter ⟨now, .fixed o⟩ unit (direction.signed amount) -
      direction.limit.seconds).natAbs < 86400 := by
  have hmin := now.minSeconds_le
  have hmax := now.le_maxSeconds
  have hneg := o.neg_day_lt
  have hpos := o.lt_day
  unfold secondsPerDay at hneg hpos
  obtain ⟨hfrom, hto⟩ := hreading
  unfold InRange at hinstant
  -- The reading lies on the far side of that of now, whose instant is in range.
  cases direction with
  | back =>
    have hle : readingAfter ⟨now, .fixed o⟩ unit (Direction.back.signed amount) ≤
        now.seconds + o.seconds := readingAfter_back_le ⟨now, .fixed o⟩ unit amount
    have hlimit : Direction.back.limit.seconds = Calendar.minSeconds := rfl
    omega
  | ahead =>
    have hle : now.seconds + o.seconds ≤
        readingAfter ⟨now, .fixed o⟩ unit (Direction.ahead.signed amount) :=
      le_readingAfter_ahead ⟨now, .fixed o⟩ unit amount
    have hlimit : Direction.ahead.limit.seconds = Calendar.maxSeconds := rfl
    omega

end Fixed

/-- **Ages near the ends of the calendar.** On a clock with one offset that can show a reading now,
an age reaches to the end of time if no clock can show the reading it leads to, as it is with months
that cannot be counted in 32 bits. If the instant that shows the reading is in range, the age
reaches there. If the reading is in range but the instant is not, the reading is taken for one in
UTC, which is less than a day off the end of time. -/
theorem shift_near_limit (now : Instant) (o : Offset) (hnow : InRange (now.seconds + o.seconds))
    (amount : UInt32) (unit : AgeUnit) (direction : Direction) {reading : Int}
    (hreading : reading = readingAfter ⟨now, .fixed o⟩ unit (direction.signed amount.toNat)) :
    (¬InRange reading → shift ⟨now, .fixed o⟩ amount unit direction = direction.limit) ∧
      (2147483647 < unit.months amount.toNat →
        shift ⟨now, .fixed o⟩ amount unit direction = direction.limit) ∧
      (InRange reading → InRange (reading - o.seconds) →
        (shift ⟨now, .fixed o⟩ amount unit direction).seconds = reading - o.seconds ∧
          (shift ⟨now, .fixed o⟩ amount unit direction).nanos = now.nanos) ∧
      (InRange reading → ¬InRange (reading - o.seconds) →
        (shift ⟨now, .fixed o⟩ amount unit direction).seconds = reading ∧
          (shift ⟨now, .fixed o⟩ amount unit direction).nanos = now.nanos ∧
          (reading - direction.limit.seconds).natAbs < 86400) := by
  subst hreading
  refine ⟨shift_eq_limit hnow, fun hmonths => ?_, fun hrange hinstant => ?_,
    fun hrange hinstant => ?_⟩
  · -- So many months lead out of the calendar anyway.
    exact shift_eq_limit hnow (not_inRange_readingAfter_of_months hnow hmonths direction)
  · obtain ⟨wall, hseconds, hnanos, hshift⟩ := exists_shift_eq_resolve hnow hrange
    rw [← hseconds] at hinstant ⊢
    obtain ⟨hexact, hsame⟩ := (resolve_fixed_seconds now o wall).1 hinstant
    rw [hshift]
    exact ⟨hexact, hsame.trans hnanos⟩
  · have hclose := natAbs_sub_limit_lt hrange hinstant
    obtain ⟨wall, hseconds, hnanos, hshift⟩ := exists_shift_eq_resolve hnow hrange
    rw [← hseconds] at hinstant
    rw [hshift, (resolve_fixed_seconds now o wall).2 hinstant]
    exact ⟨hseconds, hnanos, hclose⟩

/-- On a clock one hour ahead of UTC that shows half past midnight, 264144 years reach back to the
first instant, and more months than can be counted ahead to the last one. One year less leads to the
first day of the calendar, on which the clock shows half past midnight before the first instant, and
two years less to an instant that is exact. -/
theorem shift_near_limit_hourAhead :
    ∃ (now : Instant) (o : Offset),
      ofText? "2000-01-01T00:30:00+01:00" = some ⟨now, .fixed o⟩ ∧
        shift ⟨now, .fixed o⟩ 264144 .year .back = .first ∧
        shift ⟨now, .fixed o⟩ 4294967295 .month .ahead = .last ∧
        (shift ⟨now, .fixed o⟩ 264142 .year .back).seconds =
          Calendar.minSeconds + 365 * 86400 - 1800 ∧
        (shift ⟨now, .fixed o⟩ 264143 .year .back).seconds = Calendar.minSeconds + 1800 := by
  obtain ⟨now, hnow⟩ : ∃ now : Instant, now = ⟨946683000, 0, by decide, by decide, by decide⟩ :=
    ⟨_, rfl⟩
  obtain ⟨o, ho⟩ : ∃ o : Offset, o = ⟨3600, by decide, by decide⟩ := ⟨_, rfl⟩
  have htext : ofText? "2000-01-01T00:30:00+01:00" = some ⟨now, .fixed o⟩ := by
    rw [hnow, ho]
    decide +kernel
  have hrange : InRange (now.seconds + o.seconds) := inRange_of_ofText? htext
  refine ⟨now, o, htext, ?_, ?_, ?_, ?_⟩
  · exact (shift_near_limit now o hrange 264144 .year .back rfl).1 (by rw [hnow, ho]; decide +kernel)
  · exact (shift_near_limit now o hrange 4294967295 .month .ahead rfl).2.1 (by decide +kernel)
  · obtain ⟨hseconds, -⟩ := (shift_near_limit now o hrange 264142 .year .back rfl).2.2.1
      (by rw [hnow, ho]; decide +kernel) (by rw [hnow, ho]; decide +kernel)
    exact hseconds.trans (by rw [hnow, ho]; decide +kernel)
  · obtain ⟨hseconds, -⟩ := (shift_near_limit now o hrange 264143 .year .back rfl).2.2.2
      (by rw [hnow, ho]; decide +kernel) (by rw [hnow, ho]; decide +kernel)
    exact hseconds.trans (by rw [hnow, ho]; decide +kernel)

/-- An age does not reach to the end of time whenever the reading it leads to, or the instant that
shows this reading, is out of range: 264143 years before half past midnight on 1 January 2000, on a
clock one hour ahead of UTC. -/
theorem not_forall_shift_eq_limit :
    ¬∀ (text : String) (now : Instant) (o : Offset) (amount : UInt32) (unit : AgeUnit)
      (direction : Direction), ofText? text = some ⟨now, .fixed o⟩ → now.nanos < 1000000000 →
        ¬InRange (readingAfter ⟨now, .fixed o⟩ unit (direction.signed amount.toNat)) ∨
          ¬InRange (readingAfter ⟨now, .fixed o⟩ unit (direction.signed amount.toNat) -
            o.seconds) ∨
          2147483647 < unit.months amount.toNat →
        shift ⟨now, .fixed o⟩ amount unit direction = direction.limit := by
  intro h
  have hlimit := h "2000-01-01T00:30:00+01:00" ⟨946683000, 0, by decide, by decide, by decide⟩
    ⟨3600, by decide, by decide⟩ 264143 .year .back (by decide +kernel) (by decide)
    (.inr (.inl (by decide +kernel)))
  exact absurd hlimit (by decide +kernel)

end Calendar.ZonedTime

end TrackCriteria
