import TrackCriteria.Proofs.Predicate.Age

/-!
# Ages and days in any zone

Where clocks are put forward some readings are skipped, and where they are put back some are
repeated. A reading that clocks show stands for the earliest instant that shows it, and a skipped one
is read at the offset of now. So an age leads to the time of day that clocks show now, and a day
starts when they first show its midnight, across any transitions, as long as these readings are not
skipped (`ZonedTime.resolve_across_transitions`).
-/

namespace TrackCriteria.Calendar

open TrackCriteria (AgeUnit Direction)

namespace ZonedTime

/-- What clocks show is a time of day on a day. -/
theorem localSecond_of_shows {z : Zone} {t wall : Instant} (h : z.Shows t wall) {day second : Int}
    (hwall : wall.seconds = day * secondsPerDay + second) (hpos : 0 ≤ second)
    (hlt : second < secondsPerDay) :
    t.localDay (z.offsetAt t.seconds) = day ∧ t.localSecond (z.offsetAt t.seconds) = second := by
  have hreading : t.seconds + (z.offsetAt t.seconds).seconds = day * secondsPerDay + second :=
    h.1.trans hwall
  unfold Instant.localDay Instant.localSecond
  rw [hreading]
  unfold secondsPerDay at hlt ⊢
  omega

/-- **Readings are resolved across transitions.** In any zone, a reading that clocks show stands for
the earliest instant that shows it, and one that they never show is read at the offset of now. Hence
an age reaches to the earliest instant at which clocks show the day `e` that lies so many units after
the day `d` that they show now, at the time of day that they show now, if there is one. A day starts
at the earliest instant at which clocks show its midnight, if there is one. -/
theorem resolve_across_transitions (now : ZonedTime) :
    (∀ wall, (∃ t, now.zone.Shows t wall) →
        IsLeast {t | now.zone.Shows t wall} (now.resolve wall)) ∧
      (∀ wall, (¬∃ t, now.zone.Shows t wall) → InRange (wall.seconds - now.offset.seconds) →
        (now.resolve wall).seconds = wall.seconds - now.offset.seconds ∧
          (now.resolve wall).nanos = wall.nanos) ∧
      (∀ (amount : UInt32) (unit : AgeUnit) (direction : Direction) (d e : Date) (wall : Instant),
        d.dayNumber = now.instant.localDay now.offset →
        unit.IsAfter (direction.signed amount.toNat) d e →
        wall.seconds = e.dayNumber * secondsPerDay + now.instant.localSecond now.offset →
        wall.nanos = now.instant.nanos → (∃ t, now.zone.Shows t wall) →
          IsLeast {t | now.zone.Shows t wall} (now.shift amount unit direction) ∧
          (now.shift amount unit direction).localDay
            (now.zone.offsetAt (now.shift amount unit direction).seconds) = e.dayNumber ∧
          (now.shift amount unit direction).localSecond
            (now.zone.offsetAt (now.shift amount unit direction).seconds) =
              now.instant.localSecond now.offset) ∧
      ∀ date, (∃ t, now.zone.Shows t (.ofDate date)) →
        IsLeast {t | now.zone.Shows t (.ofDate date)} (now.startOfDay date) := by
  refine ⟨fun wall => resolve_isLeast, fun wall hskipped hrange => ?_, ?_,
    fun date => resolve_isLeast⟩
  · obtain ⟨t, ht, hseconds, hnanos⟩ := wall.exists_withSeconds? hrange
    rw [resolve_of_forall_not_shows (not_exists.mp hskipped), ht]
    exact ⟨hseconds, hnanos⟩
  · intro amount unit direction d e wall hd he hseconds hnanos hshown
    rw [shift_eq_resolve hd he hseconds hnanos]
    have hleast := resolve_isLeast hshown
    exact ⟨hleast, localSecond_of_shows hleast.1 hseconds
      (now.instant.localSecond_nonneg now.offset) (now.instant.localSecond_lt now.offset)⟩

/-- Clocks skip the first hour of 4 November 2018 and repeat that of 17 February 2019. Half an hour
after midnight on 17 March 2019, an age of one month reaches back to the first of two instants that
show half past midnight; the repeated midnight is taken the first time, and the skipped one three
hours late in UTC, as clocks are now. -/
theorem resolve_across_transitions_summer :
    ∃ (now : ZonedTime) (skipped repeated : Date) (wall : Instant),
      (skipped.year, skipped.month, skipped.day) = (2018, 11, 4) ∧
        (repeated.year, repeated.month, repeated.day) = (2019, 2, 17) ∧
        now.zone.Shows ⟨1550370600, 0, by decide, by decide, by decide⟩ wall ∧
        now.zone.Shows ⟨1550374200, 0, by decide, by decide, by decide⟩ wall ∧
        IsLeast {t | now.zone.Shows t wall} (now.shift 1 .month .back) ∧
        (now.shift 1 .month .back).localSecond
          (now.zone.offsetAt (now.shift 1 .month .back).seconds) = 1800 ∧
        IsLeast {t | now.zone.Shows t (.ofDate repeated)} (now.startOfDay repeated) ∧
        (now.startOfDay skipped).seconds = skipped.dayNumber * secondsPerDay + 10800 := by
  obtain ⟨standard, hstandard⟩ : ∃ o : Offset, o = ⟨-10800, by decide, by decide⟩ := ⟨_, rfl⟩
  obtain ⟨summer, hsummer⟩ : ∃ o : Offset, o = ⟨-7200, by decide, by decide⟩ := ⟨_, rfl⟩
  obtain ⟨now, hnow⟩ : ∃ now : ZonedTime, now =
      ⟨⟨1552793400, 0, by decide, by decide, by decide⟩,
        ⟨standard, [⟨1541300400, summer⟩, ⟨1550372400, standard⟩]⟩⟩ := ⟨_, rfl⟩
  subst hstandard hsummer
  obtain ⟨skipped, hskipped⟩ : ∃ d : Date, d = ⟨2018, 11, 4, by decide, by decide, by decide,
    by decide, by decide, by decide⟩ := ⟨_, rfl⟩
  obtain ⟨repeated, hrepeated⟩ : ∃ d : Date, d = ⟨2019, 2, 17, by decide, by decide, by decide,
    by decide, by decide, by decide⟩ := ⟨_, rfl⟩
  obtain ⟨today, htoday⟩ : ∃ d : Date, d = ⟨2019, 3, 17, by decide, by decide, by decide,
    by decide, by decide, by decide⟩ := ⟨_, rfl⟩
  obtain ⟨wall, hwall⟩ : ∃ wall : Instant, wall =
    ⟨1550363400, 0, by decide, by decide, by decide⟩ := ⟨_, rfl⟩
  have hfirst : now.zone.Shows ⟨1550370600, 0, by decide, by decide, by decide⟩ wall := by
    rw [hnow, hwall]
    decide +kernel
  have hsecond : now.zone.Shows ⟨1550374200, 0, by decide, by decide, by decide⟩ wall := by
    rw [hnow, hwall]
    decide +kernel
  have hmidnight : now.zone.Shows ⟨1550368800, 0, by decide, by decide, by decide⟩
      (.ofDate repeated) := by
    rw [hnow, hrepeated]
    decide +kernel
  have hnone : now.zone.instantsShowing (.ofDate skipped) = [] := by
    rw [hnow, hskipped]
    decide +kernel
  obtain ⟨-, hfallback, hage, hday⟩ := resolve_across_transitions now
  obtain ⟨hleast, -, hlocal⟩ := hage 1 .month .back today repeated wall
    (by rw [hnow, htoday]; decide +kernel)
    (by rw [htoday, hrepeated]; constructor <;> decide +kernel)
    (by rw [hnow, hrepeated, hwall]; decide +kernel) (by rw [hnow, hwall]) ⟨_, hfirst⟩
  obtain ⟨hseconds, -⟩ := hfallback (.ofDate skipped)
    (fun ⟨t, ht⟩ => List.not_mem_nil (hnone ▸ Zone.mem_instantsShowing.mpr ht))
    (by rw [hnow, hskipped]; decide +kernel)
  refine ⟨now, skipped, repeated, wall, by rw [hskipped], by rw [hrepeated], hfirst, hsecond, hleast,
    hlocal.trans (by rw [hnow]; decide +kernel), hday repeated ⟨_, hmidnight⟩, hseconds.trans ?_⟩
  rw [hnow]
  rfl

end ZonedTime

end TrackCriteria.Calendar
