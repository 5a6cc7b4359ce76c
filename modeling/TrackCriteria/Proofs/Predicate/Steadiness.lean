import TrackCriteria.Proofs.Predicate.Comparison
import TrackCriteria.Proofs.Predicate.LocalDay

/-!
# Absolute criteria as time goes on

A reading that clocks in a zone show stands for the same instant at any time
(`ZonedTime.resolve_eq_resolve`); only a reading that they skip is read at the offset of now. So
criteria that compare dates with calendar days whose midnights are shown become the same predicate
whenever they are resolved, and each day ends when the next one starts
(`Criteria.resolve_eq_resolve_of_isAbsolute`).
-/

namespace TrackCriteria

open Calendar (Date Instant Offset Zone ZonedTime)

/-! ### Days in a zone -/

/-- Whether clocks in the zone show the midnights at which a day starts and ends. -/
structure Calendar.Zone.ShowsDay (z : Zone) (day : Date) : Prop where
  /-- The midnight at which the day starts is not skipped. -/
  start : ∃ t, z.Shows t (.ofDate day)
  /-- Neither is the midnight at which the day after it starts. -/
  stop : ∀ next : Date, next.dayNumber = day.dayNumber + 1 → ∃ t, z.Shows t (.ofDate next)

namespace Calendar.ZonedTime

variable {z : Zone} {date next : Date}

/-- What a reading stands for does not depend on now if clocks show it. -/
theorem resolve_eq_resolve {wall : Instant} (h : ∃ t, z.Shows t wall) (now now' : Instant) :
    resolve ⟨now, z⟩ wall = resolve ⟨now', z⟩ wall :=
  IsLeast.unique (@resolve_isLeast ⟨now, z⟩ wall h) (@resolve_isLeast ⟨now', z⟩ wall h)

/-- A day ends when the next one starts. -/
theorem endOfDay_eq (now : ZonedTime) (h : next.dayNumber = date.dayNumber + 1) :
    now.endOfDay date = now.startOfDay next := by
  have hnext : date.next? = some next := by
    rw [Date.next?, ← h]
    exact next.ofDayNumber?_dayNumber
  unfold endOfDay
  rw [hnext]

end Calendar.ZonedTime

/-! ### Absolute criteria -/

/-- A test of a date becomes the same predicate at any time if the midnights of its day are
shown. -/
theorem Atom.resolve_eq_resolve {z : Zone} {a : Atom} (habsolute : a.IsAbsolute)
    (hday : ∀ field op date precision, a = .date field op (.calendar date precision) →
      (∃ next : Date, next.dayNumber = date.dayNumber + 1) ∧ z.ShowsDay date)
    (now now' : Instant) : a.resolve ⟨now, z⟩ = a.resolve ⟨now', z⟩ := by
  cases a with
  | clean => rfl
  | explicit => rfl
  | unlabeled => rfl
  | text field value => rfl
  | date field op value =>
    cases value with
    | age amount unit => exact habsolute.elim
    | calendar date precision =>
      obtain ⟨⟨next, hnext⟩, hstart, hstop⟩ := hday field op date precision rfl
      -- Both ends of the day are midnights that clocks show, so they do not depend on now.
      have hstart : ZonedTime.startOfDay ⟨now, z⟩ date = ZonedTime.startOfDay ⟨now', z⟩ date :=
        ZonedTime.resolve_eq_resolve hstart now now'
      have hstop : ZonedTime.startOfDay ⟨now, z⟩ next = ZonedTime.startOfDay ⟨now', z⟩ next :=
        ZonedTime.resolve_eq_resolve (hstop next hnext) now now'
      simp only [resolve, DateSpec.resolve, ZonedTime.endOfDay_eq _ hnext, hstart, hstop]

/-- **Absolute criteria do not drift.** Criteria that compare dates with days of years from 0 to
9999 only, whose midnights clocks in the zone show, become the same predicate at any two times. Each
of the days ends at the instant at which the next one starts: to be on the day or before it is to be
before the next one, and to be after it is to be on the next one or after it. So what is neither
before the day nor after the next one is on one of the two. -/
theorem Criteria.resolve_eq_resolve_of_isAbsolute {z : Zone} {e : Criteria}
    (habsolute : ∀ a ∈ e.atoms, a.IsAbsolute)
    (hdays : ∀ field op date precision, .date field op (.calendar date precision) ∈ e.atoms →
      (0 ≤ date.year ∧ date.year ≤ 9999) ∧ z.ShowsDay date) (now now' : Instant) :
    e.resolve ⟨now, z⟩ = e.resolve ⟨now', z⟩ ∧
      ∀ field op date precision, .date field op (.calendar date precision) ∈ e.atoms →
        ∃ next : Date, next.dayNumber = date.dayNumber + 1 ∧
          ZonedTime.endOfDay ⟨now, z⟩ date = ZonedTime.startOfDay ⟨now', z⟩ next ∧
          (Atom.date field .le (.calendar date precision)).resolve ⟨now, z⟩ =
            (Atom.date field .lt (.calendar next .day)).resolve ⟨now', z⟩ ∧
          (Atom.date field .gt (.calendar date precision)).resolve ⟨now, z⟩ =
            (Atom.date field .ge (.calendar next .day)).resolve ⟨now', z⟩ ∧
          ∀ track : Track, track.Satisfies ⟨now, z⟩ (.date field .ge (.calendar date precision)) →
            track.Satisfies ⟨now, z⟩ (.date field .le (.calendar next .day)) →
              track.Satisfies ⟨now, z⟩ (.date field .eq (.calendar date precision)) ∨
                track.Satisfies ⟨now, z⟩ (.date field .eq (.calendar next .day)) := by
  have hnext : ∀ field op date precision, .date field op (.calendar date precision) ∈ e.atoms →
      ∃ next : Date, next.dayNumber = date.dayNumber + 1 := by
    intro field op date precision hmem
    obtain ⟨-, hmax⟩ := Calendar.Date.dayNumber_of_year (hdays field op date precision hmem).1
    obtain ⟨next, -, hnumber⟩ := Date.exists_next? hmax
    exact ⟨next, hnumber⟩
  constructor
  · apply Formula.bind_congr
    intro a ha
    refine Atom.resolve_eq_resolve (habsolute a ha) ?_ now now'
    rintro field op date precision rfl
    exact ⟨hnext field op date precision ha, (hdays field op date precision ha).2⟩
  · intro field op date precision hmem
    obtain ⟨next, hnumber⟩ := hnext field op date precision hmem
    have hshown := (hdays field op date precision hmem).2.stop next hnumber
    have hstop : ZonedTime.startOfDay ⟨now, z⟩ next = ZonedTime.startOfDay ⟨now', z⟩ next :=
      ZonedTime.resolve_eq_resolve hshown now now'
    have hend := ZonedTime.endOfDay_eq ⟨now, z⟩ hnumber
    refine ⟨next, hnumber, hend.trans hstop, ?_, ?_, ?_⟩
    · simp only [Atom.resolve, DateSpec.resolve, resolveDay, hend, hstop]
    · simp only [Atom.resolve, DateSpec.resolve, resolveDay, hend, hstop]
    · intro track hge hle
      simp only [Track.satisfies_calendar, Comparison.HoldsOfDay, hend] at hge hle ⊢
      -- What lies between the two days is divided by the midnight at which the later one starts.
      rcases lt_or_ge (track.date field) (ZonedTime.startOfDay ⟨now, z⟩ next) with hbefore | hafter
      · exact .inl ⟨hge, hbefore⟩
      · exact .inr ⟨hafter, hle⟩

/-- Clocks show the midnight of 17 February 2019 twice. Criteria for this day become the same
predicate in January, when clocks are two hours behind UTC, and in March, when they are three hours
behind, and the day ends when 18 February starts. -/
theorem Criteria.resolve_eq_resolve_of_isAbsolute_repeated :
    ∃ (z : Zone) (date next : Date) (e : Criteria) (now now' : Instant),
      (date.year, date.month, date.day) = (2019, 2, 17) ∧
        e = .and (.atom (.date .added .eq (.calendar date .day))) (.not (.atom .clean)) ∧
        (z.offsetAt now.seconds).seconds = -7200 ∧ (z.offsetAt now'.seconds).seconds = -10800 ∧
        e.resolve ⟨now, z⟩ = e.resolve ⟨now', z⟩ ∧ next.dayNumber = date.dayNumber + 1 ∧
        ZonedTime.endOfDay ⟨now, z⟩ date = ZonedTime.startOfDay ⟨now', z⟩ next := by
  obtain ⟨standard, hstandard⟩ : ∃ o : Offset, o = ⟨-10800, by decide, by decide⟩ := ⟨_, rfl⟩
  obtain ⟨summer, hsummer⟩ : ∃ o : Offset, o = ⟨-7200, by decide, by decide⟩ := ⟨_, rfl⟩
  obtain ⟨z, hz⟩ : ∃ z : Zone, z = ⟨standard, [⟨1541300400, summer⟩, ⟨1550372400, standard⟩]⟩ :=
    ⟨_, rfl⟩
  obtain ⟨date, hdate⟩ : ∃ d : Date, d = ⟨2019, 2, 17, by decide, by decide, by decide,
    by decide, by decide, by decide⟩ := ⟨_, rfl⟩
  obtain ⟨now, hnow⟩ : ∃ now : Instant, now = ⟨1547000000, 0, by decide, by decide, by decide⟩ :=
    ⟨_, rfl⟩
  obtain ⟨now', hnow'⟩ : ∃ now : Instant, now = ⟨1552793400, 0, by decide, by decide, by decide⟩ :=
    ⟨_, rfl⟩
  have hshows : z.ShowsDay date := by
    constructor
    · refine ⟨⟨1550368800, 0, by decide, by decide, by decide⟩, ?_⟩
      rw [hz, hdate, hstandard, hsummer]
      decide +kernel
    · intro next hnext
      refine ⟨⟨1550458800, 0, by decide, by decide, by decide⟩, ?_, rfl⟩
      show _ = next.dayNumber * Calendar.secondsPerDay
      rw [hnext, hz, hdate, hstandard, hsummer]
      decide +kernel
  obtain ⟨e, he⟩ : ∃ e : Criteria,
      e = .and (.atom (.date .added .eq (.calendar date .day))) (.not (.atom .clean)) := ⟨_, rfl⟩
  have hatoms : e.atoms = [.date .added .eq (.calendar date .day), .clean] := by
    rw [he]
    rfl
  have habsolute : ∀ a ∈ e.atoms, a.IsAbsolute := by
    rw [hatoms]
    simp [Atom.IsAbsolute]
  have hdays : ∀ field op day precision, .date field op (.calendar day precision) ∈ e.atoms →
      (0 ≤ day.year ∧ day.year ≤ 9999) ∧ z.ShowsDay day := by
    rw [hatoms]
    intro field op day precision hmem
    simp only [List.mem_cons, Atom.date.injEq, DateSpec.calendar.injEq, reduceCtorEq,
      List.not_mem_nil, or_false] at hmem
    obtain ⟨-, -, rfl, -⟩ := hmem
    exact ⟨by rw [hdate]; decide, hshows⟩
  obtain ⟨heq, hend⟩ := resolve_eq_resolve_of_isAbsolute habsolute hdays now now'
  obtain ⟨next, hnumber, hnext, -⟩ := hend .added .eq date .day (by rw [hatoms]; simp)
  refine ⟨z, date, next, e, now, now', by rw [hdate], he, ?_, ?_, heq, hnumber, hnext⟩
  · rw [hz, hnow, hstandard, hsummer]
    decide +kernel
  · rw [hz, hnow', hstandard, hsummer]
    decide +kernel

end TrackCriteria
