import TrackCriteria.Proofs.Calendar.Timestamp
import TrackCriteria.Proofs.Predicate.Comparison
import TrackCriteria.Proofs.Predicate.Reading

/-!
# Longer ages reach further

On a clock with one offset, an age of more units reaches further back and further ahead, or as far
(`ZonedTime.shift_back_le`, `ZonedTime.shift_ahead_le`), so the windows of its operators contain
those of an age of fewer units, or lie within them (`Criteria.satisfies_age_of_le`).

Readings that lie a day or more apart stand for instants in the same order
(`ZonedTime.resolve_fixed_le`): whether or not a reading is taken for one in UTC moves it by less
than a day. The end of time is past all of them, if now is not in a leap second.
-/

namespace TrackCriteria

open Calendar (InRange Instant Offset Zone ZonedTime secondsPerDay)

namespace Calendar.ZonedTime

section Fixed

variable {now : Instant} {o : Offset} {unit : AgeUnit} {direction : Direction}
  {amount amount' : UInt32}

theorem resolve_fixed_le {wall wall' : Instant}
    (h : wall.seconds + secondsPerDay ≤ wall'.seconds) :
    resolve ⟨now, .fixed o⟩ wall ≤ resolve ⟨now, .fixed o⟩ wall' := by
  have hneg := o.neg_day_lt
  have hpos := o.lt_day
  -- Each reading is either moved by the offset or stays.
  have hseconds : ∀ w : Instant, (resolve ⟨now, .fixed o⟩ w).seconds = w.seconds - o.seconds ∨
      (resolve ⟨now, .fixed o⟩ w).seconds = w.seconds := by
    intro w
    obtain ⟨hin, hout⟩ := resolve_fixed_seconds now o w
    by_cases hrange : InRange (w.seconds - o.seconds)
    · exact .inl (hin hrange).1
    · exact .inr (congrArg Instant.seconds (hout hrange))
  have hfirst := hseconds wall
  have hsecond := hseconds wall'
  rw [Instant.le_def]
  omega

theorem nanos_shift_lt (hnow : InRange (now.seconds + o.seconds)) (h : now.nanos < 1000000000) :
    (shift ⟨now, .fixed o⟩ amount unit direction).nanos < 1000000000 := by
  by_cases hreading : InRange (readingAfter ⟨now, .fixed o⟩ unit (direction.signed amount.toNat))
  · obtain ⟨wall, -, hnanos, hshift⟩ := exists_shift_eq_resolve hnow hreading
    have hwall : wall.nanos < 1000000000 := hnanos ▸ h
    obtain ⟨hin, hout⟩ := resolve_fixed_seconds now o wall
    rw [hshift]
    by_cases hrange : InRange (wall.seconds - o.seconds)
    · rw [(hin hrange).2]
      exact hwall
    · rw [hout hrange]
      exact hwall
  · -- Neither end of time is in a leap second.
    rw [shift_eq_limit hnow hreading]
    cases direction <;> decide

theorem shift_back_le (unit : AgeUnit) (hnow : InRange (now.seconds + o.seconds))
    (h : amount ≤ amount') :
    shift ⟨now, .fixed o⟩ amount' unit .back ≤ shift ⟨now, .fixed o⟩ amount unit .back := by
  obtain hlt | heq := Nat.lt_or_eq_of_le (UInt32.le_iff_toNat_le.mp h)
  · obtain hlimit | ⟨wall, wall', hwall, hwall', hshift, hshift'⟩ :=
      shift_eq_limit_or_resolve ⟨now, .fixed o⟩ unit .back hnow hlt.le
    · rw [hlimit]
      exact Instant.first_le _
    · rw [hshift, hshift']
      refine resolve_fixed_le ?_
      rw [hwall, hwall']
      exact readingAfter_add_le (Int.neg_lt_neg (Int.ofNat_lt.mpr hlt))
  · rw [UInt32.toNat_inj.mp heq]

theorem shift_ahead_le (unit : AgeUnit) (hnow : InRange (now.seconds + o.seconds))
    (hnanos : now.nanos < 1000000000) (h : amount ≤ amount') :
    shift ⟨now, .fixed o⟩ amount unit .ahead ≤ shift ⟨now, .fixed o⟩ amount' unit .ahead := by
  obtain hlt | heq := Nat.lt_or_eq_of_le (UInt32.le_iff_toNat_le.mp h)
  · obtain hlimit | ⟨wall, wall', hwall, hwall', hshift, hshift'⟩ :=
      shift_eq_limit_or_resolve ⟨now, .fixed o⟩ unit .ahead hnow hlt.le
    · rw [hlimit]
      exact Instant.le_last (nanos_shift_lt hnow hnanos)
    · rw [hshift, hshift']
      refine resolve_fixed_le ?_
      rw [hwall, hwall']
      exact readingAfter_add_le (Int.ofNat_lt.mpr hlt)
  · rw [UInt32.toNat_inj.mp heq]

end Fixed

end Calendar.ZonedTime

namespace Criteria

/-- **Longer ages reach further.** On a clock with one offset that shows a reading now, and no leap
second, an age of more units reaches at least as far back and as far ahead as one of fewer units. So
a date that equals the shorter age, is less than it or at most it, has the same relation to the
longer one; a date that is greater than the longer age, or at least it, has the same relation to the
shorter one. -/
theorem satisfies_age_of_le (now : Instant) (o : Offset) (hnow : InRange (now.seconds + o.seconds))
    (hnanos : now.nanos < 1000000000) {amount amount' : UInt32} (hle : amount ≤ amount')
    (unit : AgeUnit) (field : DateField) (track : Track) :
    (track.Satisfies ⟨now, .fixed o⟩ (.date field .eq (.age amount unit)) →
        track.Satisfies ⟨now, .fixed o⟩ (.date field .eq (.age amount' unit))) ∧
      (track.Satisfies ⟨now, .fixed o⟩ (.date field .lt (.age amount unit)) →
        track.Satisfies ⟨now, .fixed o⟩ (.date field .lt (.age amount' unit))) ∧
      (track.Satisfies ⟨now, .fixed o⟩ (.date field .le (.age amount unit)) →
        track.Satisfies ⟨now, .fixed o⟩ (.date field .le (.age amount' unit))) ∧
      (track.Satisfies ⟨now, .fixed o⟩ (.date field .gt (.age amount' unit)) →
        track.Satisfies ⟨now, .fixed o⟩ (.date field .gt (.age amount unit))) ∧
      (track.Satisfies ⟨now, .fixed o⟩ (.date field .ge (.age amount' unit)) →
        track.Satisfies ⟨now, .fixed o⟩ (.date field .ge (.age amount unit))) ∧
      ZonedTime.shift ⟨now, .fixed o⟩ amount' unit .back ≤
        ZonedTime.shift ⟨now, .fixed o⟩ amount unit .back ∧
      ZonedTime.shift ⟨now, .fixed o⟩ amount unit .ahead ≤
        ZonedTime.shift ⟨now, .fixed o⟩ amount' unit .ahead := by
  have hback := ZonedTime.shift_back_le unit hnow hle
  have hahead := ZonedTime.shift_ahead_le unit hnow hnanos hle
  simp only [Track.satisfies_age, Comparison.HoldsOfAge]
  refine ⟨?_, ?_, ?_, ?_, ?_, hback, hahead⟩
  · rintro ⟨hafter, hbefore⟩
    exact ⟨hback.trans_lt hafter, hbefore.trans_le hahead⟩
  · exact hback.trans_lt
  · exact hback.trans
  · exact fun h => h.trans_le hback
  · exact fun h => h.trans hback

/-- On a clock one hour ahead of UTC that shows half past midnight, 264143 years lead to a reading
whose instant is past the end of time, and 264144 years to none. What has been added less than the
former number of years ago has been added less than the latter ago. -/
theorem satisfies_age_of_le_hourAhead :
    ∃ (now : Instant) (o : Offset) (track : Track),
      ZonedTime.ofText? "2000-01-01T00:30:00+01:00" = some ⟨now, .fixed o⟩ ∧
        track.dateAdded.text = "-262143-01-01T00:30:00.000000001Z" ∧
        track.Satisfies ⟨now, .fixed o⟩ (.date .added .lt (.age 264144 .year)) ∧
        ZonedTime.shift ⟨now, .fixed o⟩ 264144 .year .back ≤
          ZonedTime.shift ⟨now, .fixed o⟩ 264143 .year .back := by
  obtain ⟨now, hnow⟩ : ∃ now : Instant, now = ⟨946683000, 0, by decide, by decide, by decide⟩ :=
    ⟨_, rfl⟩
  obtain ⟨o, ho⟩ : ∃ o : Offset, o = ⟨3600, by decide, by decide⟩ := ⟨_, rfl⟩
  obtain ⟨track, htrack⟩ : ∃ track : Track, track = ⟨"", false, "", [], [],
      ⟨Calendar.minSeconds + 1800, 1, by decide, by decide, by decide⟩, .first⟩ := ⟨_, rfl⟩
  have htext : ZonedTime.ofText? "2000-01-01T00:30:00+01:00" = some ⟨now, .fixed o⟩ := by
    rw [hnow, ho]
    decide +kernel
  have hrange : InRange (now.seconds + o.seconds) := ZonedTime.inRange_of_ofText? htext
  obtain ⟨-, hlt, -, -, -, hback, -⟩ := satisfies_age_of_le now o hrange (by rw [hnow]; decide)
    (by decide : (264143 : UInt32) ≤ 264144) .year .added track
  exact ⟨now, o, track, htext, by rw [htrack]; decide +kernel,
    hlt (by rw [hnow, ho, htrack]; decide +kernel), hback⟩

end Criteria

end TrackCriteria
