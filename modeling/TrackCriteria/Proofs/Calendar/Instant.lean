import TrackCriteria.Calendar.Instant
import Mathlib.Order.Defs.LinearOrder

/-!
# The order of instants

Instants are in a linear order, in which the first instant comes first and, leap seconds apart, the
last one last (`first_le`, `le_last`). An instant is known by its seconds and its nanoseconds
(`eq_of_seconds_of_nanos`), so an instant can be moved to other seconds iff these are in range, and
then in one way only (`withSeconds?_eq_some`, `withSeconds?_eq_none`).
-/

namespace TrackCriteria.Calendar

/-- Whether an instant can have these whole seconds. -/
def InRange (seconds : Int) : Prop :=
  minSeconds ≤ seconds ∧ seconds ≤ maxSeconds

instance (seconds : Int) : Decidable (InRange seconds) :=
  inferInstanceAs (Decidable (_ ∧ _))

/-- All seconds of a day are in range, or none is. -/
theorem inRange_day_iff {day second : Int} (hpos : 0 ≤ second) (hlt : second < secondsPerDay) :
    InRange (day * secondsPerDay + second) ↔ minDayNumber ≤ day ∧ day ≤ maxDayNumber := by
  unfold InRange minSeconds maxSeconds minDayNumber maxDayNumber
  unfold secondsPerDay at hlt ⊢
  omega

namespace Instant

variable {s t : Instant}

theorem inRange (t : Instant) : InRange t.seconds :=
  ⟨t.minSeconds_le, t.le_maxSeconds⟩

/-! ### The linear order -/

theorem eq_of_seconds_of_nanos (hseconds : s.seconds = t.seconds) (hnanos : s.nanos = t.nanos) :
    s = t := by
  cases s
  cases t
  cases hseconds
  cases hnanos
  rfl

instance : LinearOrder Instant where
  le_refl t := le_def.mpr (.inr ⟨rfl, Nat.le_refl _⟩)
  le_trans a b c hab hbc := by
    rw [le_def] at *
    omega
  lt_iff_le_not_ge a b := by
    rw [lt_def, le_def, le_def]
    omega
  le_antisymm a b hab hba := by
    rw [le_def] at hab hba
    exact eq_of_seconds_of_nanos (by omega) (by omega)
  le_total a b := by
    rw [le_def, le_def]
    omega
  toDecidableLE := inferInstance
  toDecidableEq := inferInstance
  toDecidableLT := inferInstance

theorem first_le (t : Instant) : first ≤ t := by
  rw [le_def]
  obtain hlt | heq := Int.lt_or_eq_of_le t.minSeconds_le
  · exact .inl hlt
  · exact .inr ⟨heq, Nat.zero_le _⟩

/-- Leap seconds apart, no instant is after the last one. -/
theorem le_last (h : t.nanos < 1000000000) : t ≤ last := by
  rw [le_def]
  obtain hlt | heq := Int.lt_or_eq_of_le t.le_maxSeconds
  · exact .inl hlt
  · exact .inr ⟨heq, Nat.le_of_lt_succ h⟩

/-! ### Moving an instant -/

theorem withSeconds?_eq_some {seconds : Int} :
    s.withSeconds? seconds = some t ↔ t.seconds = seconds ∧ t.nanos = s.nanos := by
  unfold withSeconds?
  constructor
  · intro h
    split at h
    · cases h
      exact ⟨rfl, rfl⟩
    · cases h
  · rintro ⟨rfl, hnanos⟩
    rw [dif_pos ⟨t.minSeconds_le, t.le_maxSeconds⟩]
    exact congrArg some (eq_of_seconds_of_nanos rfl hnanos.symm)

theorem withSeconds?_eq_none {seconds : Int} :
    s.withSeconds? seconds = none ↔ ¬InRange seconds :=
  dite_eq_right_iff.trans (by simp [InRange])

theorem exists_withSeconds? (t : Instant) {seconds : Int} (h : InRange seconds) :
    ∃ t', t.withSeconds? seconds = some t' ∧ t'.seconds = seconds ∧ t'.nanos = t.nanos :=
  ⟨_, dif_pos h, rfl, rfl⟩

/-- Of the instant that is moved, only the nanoseconds matter. -/
theorem withSeconds?_congr (h : s.nanos = t.nanos) (seconds : Int) :
    s.withSeconds? seconds = t.withSeconds? seconds := by
  unfold withSeconds?
  split
  · exact congrArg some (eq_of_seconds_of_nanos rfl h)
  · rfl

end Instant

end TrackCriteria.Calendar
