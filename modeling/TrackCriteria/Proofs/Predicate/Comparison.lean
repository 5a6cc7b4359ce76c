import TrackCriteria.Proofs.Predicate.Age

/-!
# The operators beside each other

Whatever instants the dates of a comparison are resolved by, in whatever zone, the five operators
fit together (`Criteria.satisfies_comparisons`). Each comparison is one of the date of a track with
two instants, those of an age (`Track.satisfies_age`) or those of a calendar day
(`Track.satisfies_calendar`), so that only the order of instants counts.
-/

namespace TrackCriteria

open Calendar (Instant Offset Zone ZonedTime)

/-- Whether a track satisfies criteria that consist of one test, at a point in time. -/
def Track.Satisfies (track : Track) (now : ZonedTime) (test : Atom) : Prop :=
  (Criteria.resolve (.atom test) now).matches track = true

instance (track : Track) (now : ZonedTime) (test : Atom) : Decidable (track.Satisfies now test) :=
  inferInstanceAs (Decidable (_ = true))

/-- Whether the operator holds between an instant and a calendar day from `start` to `stop`. -/
def Comparison.HoldsOfDay (op : Comparison) (start stop t : Instant) : Prop :=
  match op with
  | .eq => start ≤ t ∧ t < stop
  | .lt => t < start
  | .le => t < stop
  | .gt => stop ≤ t
  | .ge => start ≤ t

variable {track : Track} {now : ZonedTime} {field : DateField} {op : Comparison}

theorem Track.satisfies_age {amount : UInt32} {unit : AgeUnit} :
    track.Satisfies now (.date field op (.age amount unit)) ↔
      op.HoldsOfAge (now.shift amount unit .back) (now.shift amount unit .ahead)
        (track.date field) :=
  matches_resolveAge field op _ _ track

theorem Track.satisfies_calendar {date : Calendar.Date} {precision : Precision} :
    track.Satisfies now (.date field op (.calendar date precision)) ↔
      op.HoldsOfDay (now.startOfDay date) (now.endOfDay date) (track.date field) := by
  unfold Satisfies
  cases op <;>
    simp [Criteria.resolve, Formula.bind, Atom.resolve, DateSpec.resolve, resolveDay, boundedDate,
      Predicate.matches, Formula.eval, Test.matches, Bound.contains, Comparison.HoldsOfDay]

/-- **The operators are consistent.** At any time in any zone, `>=` is the negation of `<` and `>`
that of `<=`. A date equals a calendar day iff it is neither before nor after it. A date that equals
an age is less than it, and what is less or greater is also less or equal, or greater or equal. -/
theorem Criteria.satisfies_comparisons (track : Track) (now : ZonedTime) (field : DateField)
    (value : DateSpec) :
    (track.Satisfies now (.date field .ge value) ↔ ¬track.Satisfies now (.date field .lt value)) ∧
      (track.Satisfies now (.date field .gt value) ↔
        ¬track.Satisfies now (.date field .le value)) ∧
      (∀ date precision, value = .calendar date precision →
        (track.Satisfies now (.date field .eq value) ↔
          track.Satisfies now (.date field .le value) ∧
            track.Satisfies now (.date field .ge value))) ∧
      ∀ amount unit, value = .age amount unit →
        (track.Satisfies now (.date field .eq value) →
          track.Satisfies now (.date field .lt value) ∧
            track.Satisfies now (.date field .le value)) ∧
        (track.Satisfies now (.date field .lt value) →
          track.Satisfies now (.date field .le value)) ∧
        (track.Satisfies now (.date field .gt value) →
          track.Satisfies now (.date field .ge value)) := by
  cases value with
  | age amount unit =>
    -- The limit of an age belongs to neither side but to `<=` and `>=`.
    simp only [Track.satisfies_age, Comparison.HoldsOfAge]
    refine ⟨not_lt.symm, not_le.symm, by rintro date precision ⟨⟩, ?_⟩
    rintro _ _ -
    exact ⟨fun h => ⟨h.1, h.1.le⟩, le_of_lt, le_of_lt⟩
  | calendar date precision =>
    simp only [Track.satisfies_calendar, Comparison.HoldsOfDay]
    refine ⟨not_lt.symm, not_lt.symm, ?_, by rintro amount unit ⟨⟩⟩
    rintro _ _ -
    exact and_comm

/-- In a zone whose clocks skip the midnight at which 4 November 2018 should start, a track that is
added when this midnight is taken to be satisfies `=` for the day and for an age of seven days from
10 November, hence `<=`, `>=` and not `<` for the day, and `<` and `<=` for the age. -/
theorem Criteria.satisfies_comparisons_skippedMidnight :
    ∃ (now : ZonedTime) (date : Calendar.Date) (track : Track),
      (date.year, date.month, date.day) = (2018, 11, 4) ∧
        now.zone.instantsShowing (.ofDate date) = [] ∧ track.dateAdded = now.startOfDay date ∧
        track.Satisfies now (.date .added .le (.calendar date .day)) ∧
        track.Satisfies now (.date .added .ge (.calendar date .day)) ∧
        ¬track.Satisfies now (.date .added .lt (.calendar date .day)) ∧
        track.Satisfies now (.date .added .lt (.age 7 .day)) ∧
        track.Satisfies now (.date .added .le (.age 7 .day)) := by
  obtain ⟨standard, hstandard⟩ : ∃ o : Offset, o = ⟨-10800, by decide, by decide⟩ := ⟨_, rfl⟩
  obtain ⟨summer, hsummer⟩ : ∃ o : Offset, o = ⟨-7200, by decide, by decide⟩ := ⟨_, rfl⟩
  obtain ⟨now, hnow⟩ : ∃ now : ZonedTime, now =
      ⟨⟨1541858400, 0, by decide, by decide, by decide⟩,
        ⟨standard, [⟨1541300400, summer⟩, ⟨1550372400, standard⟩]⟩⟩ := ⟨_, rfl⟩
  obtain ⟨date, hdate⟩ : ∃ d : Calendar.Date, d = ⟨2018, 11, 4, by decide, by decide, by decide,
    by decide, by decide, by decide⟩ := ⟨_, rfl⟩
  obtain ⟨track, htrack⟩ : ∃ track : Track,
      track = ⟨"", false, "", [], [], now.startOfDay date, .first⟩ := ⟨_, rfl⟩
  obtain ⟨hday, -, heq, -⟩ := satisfies_comparisons track now .added (.calendar date .day)
  obtain ⟨-, -, -, hage⟩ := satisfies_comparisons track now .added (.age 7 .day)
  obtain ⟨hle, hge⟩ := (heq date .day rfl).mp
    (by rw [htrack, hnow, hdate, hstandard, hsummer]; decide +kernel)
  obtain ⟨hlt, hle'⟩ := (hage 7 .day rfl).1
    (by rw [htrack, hnow, hdate, hstandard, hsummer]; decide +kernel)
  refine ⟨now, date, track, by rw [hdate], ?_, by rw [htrack], hle, hge, hday.mp hge, hlt, hle'⟩
  rw [hnow, hdate, hstandard, hsummer]
  decide +kernel

end TrackCriteria
