import TrackCriteria.Proofs.Predicate.Age

/-!
# Readings that ages lead to

Moving the clock of now leads to a reading that a clock can show or to none. More units move it by a
day or more (`ZonedTime.readingAfter_add_le`), so all amounts up to one that a clock can show lead to
readings that it can show (`ZonedTime.inRange_readingAfter`). An age that leads to such a reading
reaches to the instant the reading stands for (`ZonedTime.exists_shift_eq_resolve`), and any other
age to the end of time (`ZonedTime.shift_eq_limit`).
-/

namespace TrackCriteria

open Calendar (InRange Instant Offset Zone ZonedTime secondsPerDay)

/-! ### The order of readings -/

theorem AgeUnit.dayAfter_lt {steps steps' : Int} (h : steps < steps') (unit : AgeUnit) (n : Int) :
    unit.dayAfter steps n < unit.dayAfter steps' n := by
  cases unit with
  | day => exact Int.add_lt_add_left h n
  | month => exact Calendar.monthsAfter_lt h n
  | year => exact Calendar.monthsAfter_lt (Int.mul_lt_mul_of_pos_left h (by decide)) n

theorem AgeUnit.dayAfter_zero (unit : AgeUnit) (n : Int) : unit.dayAfter 0 n = n := by
  cases unit with
  | day => exact Int.add_zero n
  | month => exact Calendar.monthsAfter_zero n
  | year => exact Calendar.monthsAfter_zero n

namespace Calendar.ZonedTime

variable {now : ZonedTime} {unit : AgeUnit}

theorem readingAfter_zero (now : ZonedTime) (unit : AgeUnit) :
    now.readingAfter unit 0 = now.instant.seconds + now.offset.seconds := by
  rw [readingAfter, AgeUnit.dayAfter_zero, Instant.localDay_add_localSecond]

/-- The readings of different amounts are a day or more apart. -/
theorem readingAfter_add_le {steps steps' : Int} (h : steps < steps') :
    now.readingAfter unit steps + secondsPerDay ≤ now.readingAfter unit steps' := by
  have hday := AgeUnit.dayAfter_lt h unit (now.instant.localDay now.offset)
  unfold readingAfter secondsPerDay
  omega

theorem readingAfter_mono {steps steps' : Int} (h : steps ≤ steps') :
    now.readingAfter unit steps ≤ now.readingAfter unit steps' := by
  obtain rfl | hlt := Int.le_iff_eq_or_lt.mp h
  · exact Int.le_refl _
  · have hday : now.readingAfter unit steps + secondsPerDay ≤ now.readingAfter unit steps' :=
      readingAfter_add_le hlt
    unfold secondsPerDay at hday
    omega

theorem readingAfter_back_le (now : ZonedTime) (unit : AgeUnit) (amount : Nat) :
    now.readingAfter unit (Direction.back.signed amount) ≤
      now.instant.seconds + now.offset.seconds := by
  rw [← readingAfter_zero now unit]
  exact readingAfter_mono (Int.neg_nonpos_of_nonneg (Int.natCast_nonneg amount))

theorem le_readingAfter_ahead (now : ZonedTime) (unit : AgeUnit) (amount : Nat) :
    now.instant.seconds + now.offset.seconds ≤
      now.readingAfter unit (Direction.ahead.signed amount) := by
  rw [← readingAfter_zero now unit]
  exact readingAfter_mono (Int.natCast_nonneg amount)

/-- The readings between that of now and one that a clock can show can be shown, too. -/
theorem inRange_readingAfter (hnow : InRange (now.instant.seconds + now.offset.seconds))
    {direction : Direction} {amount amount' : Nat} (hle : amount ≤ amount')
    (h : InRange (now.readingAfter unit (direction.signed amount'))) :
    InRange (now.readingAfter unit (direction.signed amount)) := by
  -- The reading lies between that of now and the one further away, on either side.
  cases direction with
  | back =>
    have hfar : now.readingAfter unit (Direction.back.signed amount') ≤
        now.readingAfter unit (Direction.back.signed amount) :=
      readingAfter_mono (Int.neg_le_neg (Int.ofNat_le.mpr hle))
    exact ⟨Int.le_trans h.1 hfar, Int.le_trans (readingAfter_back_le now unit amount) hnow.2⟩
  | ahead =>
    have hfar : now.readingAfter unit (Direction.ahead.signed amount) ≤
        now.readingAfter unit (Direction.ahead.signed amount') :=
      readingAfter_mono (Int.ofNat_le.mpr hle)
    exact ⟨Int.le_trans hnow.1 (le_readingAfter_ahead now unit amount), Int.le_trans hfar h.2⟩

/-! ### Where ages reach -/

variable {amount : UInt32} {direction : Direction}

theorem exists_shift_eq_resolve (hnow : InRange (now.instant.seconds + now.offset.seconds))
    (h : InRange (now.readingAfter unit (direction.signed amount.toNat))) :
    ∃ wall : Instant, wall.seconds = now.readingAfter unit (direction.signed amount.toNat) ∧
      wall.nanos = now.instant.nanos ∧ now.shift amount unit direction = now.resolve wall := by
  obtain ⟨wall, hwall, hseconds, hnanos⟩ := now.instant.exists_withSeconds? h
  refine ⟨wall, hseconds, hnanos, ?_⟩
  rw [shift_eq hnow, hwall, Option.elim_some]

theorem shift_eq_limit (hnow : InRange (now.instant.seconds + now.offset.seconds))
    (h : ¬InRange (now.readingAfter unit (direction.signed amount.toNat))) :
    now.shift amount unit direction = direction.limit := by
  rw [shift_eq hnow, Instant.withSeconds?_eq_none.mpr h, Option.elim_none]

/-- An age either reaches to the end of time, or it and all shorter ones reach to the instants that
their readings stand for. -/
theorem shift_eq_limit_or_resolve (now : ZonedTime) (unit : AgeUnit) (direction : Direction)
    (hnow : InRange (now.instant.seconds + now.offset.seconds)) {amount amount' : UInt32}
    (hle : amount.toNat ≤ amount'.toNat) :
    now.shift amount' unit direction = direction.limit ∨
      ∃ wall wall' : Instant,
        wall.seconds = now.readingAfter unit (direction.signed amount.toNat) ∧
          wall'.seconds = now.readingAfter unit (direction.signed amount'.toNat) ∧
          now.shift amount unit direction = now.resolve wall ∧
          now.shift amount' unit direction = now.resolve wall' := by
  by_cases hfar : InRange (now.readingAfter unit (direction.signed amount'.toNat))
  · obtain ⟨wall, hwall, -, hshift⟩ :=
      exists_shift_eq_resolve hnow (inRange_readingAfter hnow hle hfar)
    obtain ⟨wall', hwall', -, hshift'⟩ := exists_shift_eq_resolve hnow hfar
    exact .inr ⟨wall, wall', hwall, hwall', hshift, hshift'⟩
  · exact .inl (shift_eq_limit hnow hfar)

/-- On a clock with one offset, a reading is shown when its seconds less the offset have passed. If
these are out of range, the reading is taken for one in UTC. -/
theorem resolve_fixed_seconds (now : Instant) (o : Offset) (wall : Instant) :
    (InRange (wall.seconds - o.seconds) →
        (resolve ⟨now, .fixed o⟩ wall).seconds = wall.seconds - o.seconds ∧
          (resolve ⟨now, .fixed o⟩ wall).nanos = wall.nanos) ∧
      (¬InRange (wall.seconds - o.seconds) → resolve ⟨now, .fixed o⟩ wall = wall) := by
  rw [resolve_fixed]
  constructor
  · intro h
    obtain ⟨t, ht, hseconds, hnanos⟩ := wall.exists_withSeconds? h
    rw [ht]
    exact ⟨hseconds, hnanos⟩
  · intro h
    rw [Instant.withSeconds?_eq_none.mpr h]
    rfl

end Calendar.ZonedTime

end TrackCriteria
