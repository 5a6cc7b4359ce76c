import TrackCriteria.Calendar.Timestamp
import TrackCriteria.Predicate.Resolve
import TrackCriteria.Proofs.Calendar.Civil
import TrackCriteria.Proofs.Calendar.Zone
import TrackCriteria.Proofs.Criteria.DateLiteral
import TrackCriteria.Proofs.Parser.Completeness

/-!
# Comparing calendar days

Criteria that compare dates with calendar days only are absolute. On a clock with one offset the
predicate that they become holds of a track iff the criteria do when each date of the track stands
for the day that the clock shows then (`Criteria.matches_resolve_of_isAbsolute`).

* On such a clock a day starts at its midnight less the offset (`startOfDay_fixed`), so an instant
  lies before the start iff the clock shows an earlier day (`lt_startOfDay_iff`), and before the end
  iff it does not show a later one (`lt_endOfDay_iff`).
* Hence the window of each operator is the comparison of two days (`matches_resolveDay`).

The days that can be written are far from the ends of the calendar (`Date.dayNumber_of_year`), where
a window would be cut short.
-/

namespace TrackCriteria

open Calendar (Date Instant Offset Zone ZonedTime secondsPerDay minDayNumber maxDayNumber)

/-! ### Days on a clock -/

/-- The number of the day that a clock with the offset shows. -/
def Calendar.Instant.localDay (t : Instant) (o : Offset) : Int :=
  (t.seconds + o.seconds) / secondsPerDay

/-- Whether the operator holds between two days, given by their numbers. -/
def Comparison.holdsOfDays (op : Comparison) (day other : Int) : Bool :=
  match op with
  | .eq => day = other
  | .lt => day < other
  | .le => day ≤ other
  | .gt => other < day
  | .ge => other ≤ day

/-- The 1 January of the date's year. -/
def Calendar.Date.newYear (d : Date) : Date :=
  ⟨d.year, 1, 1, d.minYear_le, d.le_maxYear, by decide, by decide, by decide,
    by cases Calendar.isLeapYear d.year <;> decide⟩

/-- The calendar day that a date is compared with, unless that is an age. -/
def DateSpec.day? : DateSpec → Option Date
  | .age _ _ => none
  | .calendar date .year => some date.newYear
  | .calendar date .day => some date

/-! ### Absolute criteria -/

/-- Whether the test does not compare a date with an age. -/
def Atom.IsAbsolute : Atom → Prop
  | .date _ _ (.age _ _) => False
  | _ => True

/-- Whether a test holds of a track when each of its dates stands for a day on a clock with the
offset. -/
def Atom.holdsLocally (o : Offset) (track : Track) : Atom → Bool
  | .clean => !track.explicit
  | .explicit => track.explicit
  | .unlabeled => track.labels.isEmpty
  | .text .name value => track.name = value
  | .text .label value => value ∈ track.labels
  | .text .album value => track.album = value
  | .text .artist value => value ∈ track.artists
  | .date field op value =>
    value.day?.any fun day => op.holdsOfDays ((track.date field).localDay o) day.dayNumber

/-- Whether criteria hold of a track, read as a statement about its tests, when each of its dates
stands for a day on a clock with the offset. -/
def Criteria.HoldsLocally (o : Offset) (track : Track) : Criteria → Prop
  | .atom a => a.holdsLocally o track = true
  | .not e => ¬HoldsLocally o track e
  | .and e f => HoldsLocally o track e ∧ HoldsLocally o track f
  | .or e f => HoldsLocally o track e ∨ HoldsLocally o track f

theorem Criteria.eval_holdsLocally_iff {o : Offset} {track : Track} {e : Criteria} :
    e.eval (Atom.holdsLocally o track) = true ↔ HoldsLocally o track e := by
  induction e with
  | atom a => exact Iff.rfl
  | not e ih => rw [Formula.eval, Bool.not_eq_true', ← Bool.not_eq_true, ih, HoldsLocally]
  | and e f ihe ihf => rw [Formula.eval, Bool.and_eq_true, ihe, ihf, HoldsLocally]
  | or e f ihe ihf => rw [Formula.eval, Bool.or_eq_true, ihe, ihf, HoldsLocally]

/-! ### Windows on a clock with one offset -/

section Fixed

variable (now t : Instant) (o : Offset) {date : Date}

/-- A day starts when a clock in UTC shows its midnight less the offset. The first day of the
calendar could start before all instants. -/
theorem startOfDay_fixed (h : minDayNumber < date.dayNumber) :
    (ZonedTime.startOfDay ⟨now, .fixed o⟩ date).seconds =
        date.dayNumber * secondsPerDay - o.seconds ∧
      (ZonedTime.startOfDay ⟨now, .fixed o⟩ date).nanos = 0 := by
  have hmax := date.le_maxDayNumber
  have hneg := o.neg_day_lt
  have hpos := o.lt_day
  -- The offset is less than a day, so only the first day of all could start too early.
  have hrange : Calendar.minSeconds ≤ date.dayNumber * secondsPerDay - o.seconds ∧
      date.dayNumber * secondsPerDay - o.seconds ≤ Calendar.maxSeconds := by
    simp only [minDayNumber, maxDayNumber, Calendar.minSeconds, Calendar.maxSeconds,
      secondsPerDay] at *
    omega
  obtain ⟨start, hstart, hseconds, hnanos⟩ := (Instant.ofDate date).exists_withSeconds? hrange
  rw [ZonedTime.startOfDay, ZonedTime.resolve_fixed]
  unfold Instant.ofDate at hstart ⊢
  rw [hstart]
  exact ⟨hseconds, hnanos⟩

theorem lt_startOfDay_iff (h : minDayNumber < date.dayNumber) :
    t < ZonedTime.startOfDay ⟨now, .fixed o⟩ date ↔ t.localDay o < date.dayNumber := by
  obtain ⟨hseconds, hnanos⟩ := startOfDay_fixed now o h
  rw [Instant.lt_def, hseconds, hnanos]
  unfold Instant.localDay secondsPerDay
  omega

theorem lt_endOfDay_iff (hmin : minDayNumber < date.dayNumber)
    (hmax : date.dayNumber < maxDayNumber) :
    t < ZonedTime.endOfDay ⟨now, .fixed o⟩ date ↔ t.localDay o ≤ date.dayNumber := by
  obtain ⟨next, hnext, hnumber⟩ := Date.exists_next? hmax
  have hstart : minDayNumber < next.dayNumber := by
    rw [hnumber]
    exact Int.lt_trans hmin (Int.lt_succ _)
  unfold ZonedTime.endOfDay
  rw [hnext]
  dsimp only
  rw [lt_startOfDay_iff now t o hstart, hnumber]
  exact Int.lt_add_one_iff

/-- The window of an operator is a comparison of days. -/
theorem matches_resolveDay (hmin : minDayNumber < date.dayNumber)
    (hmax : date.dayNumber < maxDayNumber) (field : DateField) (op : Comparison) (track : Track) :
    (resolveDay field op (ZonedTime.startOfDay ⟨now, .fixed o⟩ date)
        (ZonedTime.endOfDay ⟨now, .fixed o⟩ date)).matches track =
      op.holdsOfDays ((track.date field).localDay o) date.dayNumber := by
  have hbefore := lt_startOfDay_iff now (track.date field) o hmin
  have hwithin := lt_endOfDay_iff now (track.date field) o hmin hmax
  generalize ZonedTime.startOfDay ⟨now, .fixed o⟩ date = start at hbefore ⊢
  generalize ZonedTime.endOfDay ⟨now, .fixed o⟩ date = stop at hwithin ⊢
  have hfrom : start ≤ track.date field ↔ date.dayNumber ≤ (track.date field).localDay o := by
    rw [← not_lt, hbefore, Int.not_lt]
  have hafter : stop ≤ track.date field ↔ date.dayNumber < (track.date field).localDay o := by
    rw [← not_lt, hwithin, Int.not_le]
  have heq : (track.date field).localDay o = date.dayNumber ↔
      date.dayNumber ≤ (track.date field).localDay o ∧
        (track.date field).localDay o ≤ date.dayNumber := by
    omega
  -- Each operator bounds the date by the start of the day, by its end, or by both.
  cases op <;>
    simp [resolveDay, boundedDate, Predicate.matches, Formula.eval, Test.matches, Bound.contains,
      Comparison.holdsOfDays, hbefore, hwithin, hfrom, hafter, heq]

end Fixed

/-! ### Days that can be written -/

theorem DateSpec.day?_calendar {date : Date} {precision : Precision}
    (h : (DateSpec.calendar date precision).IsExpressible) :
    (DateSpec.calendar date precision).day? = some date := by
  cases precision with
  | day => rfl
  | year =>
    obtain ⟨hmonth, hday⟩ := h.2 rfl
    obtain ⟨year, month, day, _⟩ := date
    obtain rfl : month = 1 := hmonth
    obtain rfl : day = 1 := hday
    rfl

/-- The years of four digits are far from the ends of the calendar. -/
theorem Calendar.Date.dayNumber_of_year {date : Date} (h : 0 ≤ date.year ∧ date.year ≤ 9999) :
    minDayNumber < date.dayNumber ∧ date.dayNumber < maxDayNumber := by
  have hin := Calendar.daysBeforeMonth_add_le date.one_le_month date.month_le date.day_le
  have hyear : (if Calendar.isLeapYear date.year then 366 else 365) ≤ 366 := by
    split_ifs <;> decide
  unfold minDayNumber maxDayNumber dayNumber Calendar.daysBeforeYear
  omega

/-! ### Absolute criteria as predicates -/

/-- A date that is spelled as a day is compared with this day by every operator. -/
theorem Spells.exists_day {ks : List Token.Kind} {field : DateField} {op : Comparison}
    {value : DateSpec} (h : Spells ks (.date field op value))
    (habsolute : (Atom.date field op value).IsAbsolute) :
    ∃ day, value.day? = some day ∧ ∀ (op' : Comparison) (now : Instant) (o : Offset)
      (track : Track), ((Atom.date field op' value).resolve ⟨now, .fixed o⟩).matches track =
        op'.holdsOfDays ((track.date field).localDay o) day.dayNumber := by
  cases h with
  | date _ _ hliteral =>
    have hexpressible := DateSpec.isExpressible_of_ofLiteral? hliteral
    cases value with
    | age amount unit => exact habsolute.elim
    | calendar date precision =>
      obtain ⟨hmin, hmax⟩ := Calendar.Date.dayNumber_of_year hexpressible.1
      exact ⟨date, DateSpec.day?_calendar hexpressible,
        fun op' now o track => matches_resolveDay now o hmin hmax field op' track⟩

theorem Spells.matches_resolve {ks : List Token.Kind} {a : Atom} (h : Spells ks a)
    (habsolute : a.IsAbsolute) (now : Instant) (o : Offset) (track : Track) :
    (a.resolve ⟨now, .fixed o⟩).matches track = a.holdsLocally o track := by
  cases a with
  | clean => rfl
  | explicit => rfl
  | unlabeled => rfl
  | text field value =>
    cases field <;>
      simp [Atom.resolve, Predicate.matches, Formula.eval, Test.matches, Atom.holdsLocally,
        Track.texts, eq_comm]
  | date field op value =>
    -- A date that is spelled is a day far from the ends of the calendar.
    obtain ⟨day, hday, hmatches⟩ := h.exists_day habsolute
    rw [hmatches, Atom.holdsLocally, hday, Option.any_some]

/-- Of two days, one is the earlier one unless they are the same. -/
theorem Comparison.existsUnique_holdsOfDays (day other : Int) :
    ∃! op : Comparison, (op = .lt ∨ op = .eq ∨ op = .gt) ∧ op.holdsOfDays day other = true := by
  have hunique : ∀ op op' : Comparison, (op = .lt ∨ op = .eq ∨ op = .gt) →
      (op' = .lt ∨ op' = .eq ∨ op' = .gt) → op.holdsOfDays day other = true →
        op'.holdsOfDays day other = true → op' = op := by
    rintro _ _ (rfl | rfl | rfl) (rfl | rfl | rfl) h h' <;>
      simp only [holdsOfDays, decide_eq_true_eq] at h h' ⊢ <;>
      omega
  obtain ⟨op, hop, hholds⟩ : ∃ op : Comparison, (op = .lt ∨ op = .eq ∨ op = .gt) ∧
      op.holdsOfDays day other = true := by
    rcases Int.lt_trichotomy day other with h | h | h
    · exact ⟨.lt, .inl rfl, decide_eq_true h⟩
    · exact ⟨.eq, .inr (.inl rfl), decide_eq_true h⟩
    · exact ⟨.gt, .inr (.inr rfl), decide_eq_true h⟩
  exact ⟨op, ⟨hop, hholds⟩, fun op' h => hunique op op' hop h.1 hholds h.2⟩

namespace Criteria

/-- What a parser answers with compares days of the local clock if it is absolute, and each date of
a track is before a day, on it or after it. -/
theorem matches_resolve_of_isAbsolute {p : Parser} {e : Criteria} (h : p.parse.1 = .ok e)
    (habsolute : ∀ a ∈ e.atoms, a.IsAbsolute) (now : Instant) (o : Offset) (track : Track) :
    ((e.resolve ⟨now, .fixed o⟩).matches track = true ↔ HoldsLocally o track e) ∧
      ∀ field op value, .date field op value ∈ e.atoms →
        ∃! op' : Comparison, (op' = .lt ∨ op' = .eq ∨ op' = .gt) ∧
          (Criteria.resolve (.atom (.date field op' value)) ⟨now, .fixed o⟩).matches track
            = true := by
  obtain ⟨d, -, hderives⟩ := Parser.derives_rest_of_parse h
  constructor
  · have heval : (e.resolve ⟨now, .fixed o⟩).matches track = e.eval (Atom.holdsLocally o track) := by
      unfold Criteria.resolve Predicate.matches
      rw [Formula.eval_bind]
      -- Only the tests count, and each of them has been spelled by tokens.
      refine Formula.eval_congr fun a ha => ?_
      obtain ⟨ks, -, hspells⟩ := hderives.exists_spells ha
      exact hspells.matches_resolve (habsolute a ha) now o track
    rw [heval, eval_holdsLocally_iff]
  · intro field op value hmem
    obtain ⟨ks, -, hspells⟩ := hderives.exists_spells hmem
    obtain ⟨day, -, hmatches⟩ := hspells.exists_day (habsolute _ hmem)
    have hresolve : ∀ op', (Criteria.resolve (.atom (.date field op' value))
        ⟨now, .fixed o⟩).matches track =
          op'.holdsOfDays ((track.date field).localDay o) day.dayNumber :=
      fun op' => hmatches op' now o track
    simp only [hresolve]
    exact Comparison.existsUnique_holdsOfDays _ _

/-- On a clock five hours behind UTC, the last moment of 29 February 2020 belongs to this day,
though it is in March in UTC. -/
theorem matches_resolve_of_isAbsolute_leapDay :
    ∃ (tokens : List Token) (e : Criteria) (now : Instant) (o : Offset) (track : Track),
      tokens.map (·.kind) = [.keyword (.date .added), .comparison .eq, .value "2-29-2020"] ∧
        o.seconds = -18000 ∧ track.dateAdded.text = "2020-03-01T04:59:60.999999999Z" ∧
        (Parser.ofTokens tokens).parse.1 = .ok e ∧ (∀ a ∈ e.atoms, a.IsAbsolute) ∧
        (e.resolve ⟨now, .fixed o⟩).matches track = true ∧
        ∀ field op value, .date field op value ∈ e.atoms →
          ∃! op' : Comparison, (op' = .lt ∨ op' = .eq ∨ op' = .gt) ∧
            (Criteria.resolve (.atom (.date field op' value)) ⟨now, .fixed o⟩).matches track
              = true := by
  have hliteral : DateSpec.ofLiteral? "2-29-2020".toList = some (.calendar
      ⟨2020, 2, 29, by decide, by decide, by decide, by decide, by decide, by decide⟩ .day) := by
    decide +kernel
  have htest := Derives.test (.date .added .eq hliteral)
  have hderives := Derives.disjunction (.conjunction (.operand htest))
  obtain ⟨tokens, hkinds⟩ : ∃ tokens : List Token, tokens.map (·.kind) = [.keyword (.date .added),
      .comparison .eq, .value "2-29-2020"] :=
    ⟨[⟨_, ⟨0, 0⟩⟩, ⟨_, ⟨0, 0⟩⟩, ⟨_, ⟨0, 0⟩⟩], rfl⟩
  rw [← hkinds] at hderives
  have hparse := (Parser.parse_of_derives hderives).1 (by decide)
  obtain ⟨hmatches, hunique⟩ := matches_resolve_of_isAbsolute hparse
    (List.forall_mem_singleton.mpr trivial) .first ⟨-18000, by decide, by decide⟩
    ⟨"", false, "", [], [], ⟨1583038799, 1999999999, by decide, by decide, by decide⟩, .first⟩
  have hday : Comparison.eq.holdsOfDays (Instant.localDay
      ⟨1583038799, 1999999999, by decide, by decide, by decide⟩ ⟨-18000, by decide, by decide⟩)
      (Date.dayNumber ⟨2020, 2, 29, by decide, by decide, by decide, by decide, by decide,
        by decide⟩) = true := by
    decide +kernel
  exact ⟨tokens, _, _, _, _, hkinds, rfl, by decide +kernel, hparse,
    List.forall_mem_singleton.mpr trivial, hmatches.mpr hday, hunique⟩

end Criteria

end TrackCriteria
