import TrackCriteria.Calendar.Zone
import TrackCriteria.Proofs.Calendar.Instant
import Mathlib.Order.Bounds.Basic

/-!
# What clocks show

An instant shows a reading in a zone if the reading is the instant put ahead by the offset that is
in force then (`Zone.Shows`). A reading stands for the earliest instant that shows it
(`ZonedTime.resolve_isLeast`), and where none does, for the one that would show it at the offset of
now (`ZonedTime.resolve_of_forall_not_shows`). In a zone with one offset the two are the same
(`ZonedTime.resolve_fixed`).

The candidates are found by trying every offset of the zone. None is missed, since the offset in
force is always one of them (`Zone.offsetAt_mem_offsets`), whatever the order of the transitions.
-/

namespace TrackCriteria.Calendar

/-- Whether clocks in the zone show the reading at the instant. -/
def Zone.Shows (z : Zone) (t wall : Instant) : Prop :=
  t.seconds + (z.offsetAt t.seconds).seconds = wall.seconds ∧ t.nanos = wall.nanos

instance (z : Zone) (t wall : Instant) : Decidable (z.Shows t wall) :=
  inferInstanceAs (Decidable (_ ∧ _))

/-! ### The candidates -/

theorem Zone.offsetAt_mem_offsets (z : Zone) (seconds : Int) : z.offsetAt seconds ∈ z.offsets := by
  obtain ⟨initial, transitions⟩ := z
  unfold offsetAt offsets
  dsimp only
  -- The transitions that have happened replace the initial offset one after the other.
  induction transitions generalizing initial with
  | nil => exact List.mem_singleton.mpr rfl
  | cons transition rest ih =>
    rw [List.foldl_cons, List.map_cons]
    obtain heq | hmem := List.mem_cons.mp
      (ih (if transition.start ≤ seconds then transition.offset else initial))
    · rw [heq]
      split
      · exact List.mem_cons_of_mem _ List.mem_cons_self
      · exact List.mem_cons_self
    · exact List.mem_cons_of_mem _ (List.mem_cons_of_mem _ hmem)

theorem Zone.mem_instantsShowing {z : Zone} {t wall : Instant} :
    t ∈ z.instantsShowing wall ↔ z.Shows t wall := by
  simp only [instantsShowing, List.mem_filterMap, Option.filter_eq_some_iff, decide_eq_true_eq,
    Instant.withSeconds?_eq_some]
  constructor
  · rintro ⟨o, -, ⟨hseconds, hnanos⟩, rfl⟩
    exact ⟨by omega, hnanos⟩
  · rintro ⟨hseconds, hnanos⟩
    exact ⟨z.offsetAt t.seconds, z.offsetAt_mem_offsets t.seconds, ⟨by omega, hnanos⟩, rfl⟩

/-! ### The earliest one -/

theorem foldl_earliest_isLeast (ts : List Instant) (t : Instant) :
    IsLeast {u | u ∈ t :: ts} (ts.foldl (fun a b => if b < a then b else a) t) := by
  induction ts generalizing t with
  | nil => exact ⟨List.mem_singleton.mpr rfl, fun u hu => (List.mem_singleton.mp hu).ge⟩
  | cons b ts ih =>
    -- The fold goes on with the earlier one of the first two.
    obtain ⟨hmem, hle⟩ := ih (if b < t then b else t)
    rw [List.foldl_cons]
    generalize ts.foldl (fun a b => if b < a then b else a) (if b < t then b else t) = r at *
    constructor
    · obtain rfl | htail := List.mem_cons.mp hmem
      · split
        · exact List.mem_cons_of_mem _ List.mem_cons_self
        · exact List.mem_cons_self
      · exact List.mem_cons_of_mem _ (List.mem_cons_of_mem _ htail)
    · have hfirst : r ≤ t ∧ r ≤ b := by
        have h := hle List.mem_cons_self
        split at h
        · exact ⟨h.trans (le_of_lt ‹b < t›), h⟩
        · exact ⟨h, h.trans (le_of_not_gt ‹¬b < t›)⟩
      intro u hu
      obtain rfl | htail := List.mem_cons.mp hu
      · exact hfirst.1
      · obtain rfl | htail := List.mem_cons.mp htail
        · exact hfirst.2
        · exact hle (List.mem_cons_of_mem _ htail)

theorem earliest?_isLeast {ts : List Instant} {t : Instant} (h : earliest? ts = some t) :
    IsLeast {u | u ∈ ts} t := by
  cases ts with
  | nil => cases h
  | cons first ts =>
    obtain rfl := Option.some.inj h
    exact foldl_earliest_isLeast ts first

theorem earliest?_eq_none {ts : List Instant} : earliest? ts = none ↔ ts = [] := by
  cases ts <;> simp [earliest?]

/-! ### Readings as instants -/

namespace ZonedTime

variable {now : ZonedTime} {wall : Instant}

/-- A reading that clocks show at some time stands for the earliest instant of those. -/
theorem resolve_isLeast (h : ∃ t, now.zone.Shows t wall) :
    IsLeast {t | now.zone.Shows t wall} (now.resolve wall) := by
  obtain ⟨t, ht⟩ := h
  have hmem := Zone.mem_instantsShowing.mpr ht
  unfold resolve
  cases hearliest : earliest? (now.zone.instantsShowing wall) with
  | some s =>
    have hleast := earliest?_isLeast hearliest
    simp only [Zone.mem_instantsShowing] at hleast
    exact hleast
  | none =>
    rw [earliest?_eq_none.mp hearliest] at hmem
    cases hmem

/-- A reading that clocks never show is read at the offset of now, or else in UTC. -/
theorem resolve_of_forall_not_shows (h : ∀ t, ¬now.zone.Shows t wall) :
    now.resolve wall = (wall.withSeconds? (wall.seconds - now.offset.seconds)).getD wall := by
  have hnone : now.zone.instantsShowing wall = [] :=
    List.eq_nil_iff_forall_not_mem.mpr fun t ht => h t (Zone.mem_instantsShowing.mp ht)
  unfold resolve
  rw [hnone]
  rfl

/-- On a clock with one offset, an instant in range that shows the reading is the only one. -/
theorem resolve_fixed (now : Instant) (o : Offset) (wall : Instant) :
    resolve ⟨now, .fixed o⟩ wall = (wall.withSeconds? (wall.seconds - o.seconds)).getD wall := by
  cases hmoved : wall.withSeconds? (wall.seconds - o.seconds) with
  | some t =>
    have hshows : (Zone.fixed o).instantsShowing wall = [t] := by
      simp [Zone.fixed, Zone.instantsShowing, Zone.offsets, Zone.offsetAt, hmoved, Option.filter]
    unfold resolve
    rw [hshows]
    rfl
  | none =>
    -- An instant that shows the reading would be the moved one, which is out of range.
    refine (resolve_of_forall_not_shows ?_).trans (congrArg (Option.getD · wall) hmoved)
    rintro t ⟨hseconds, -⟩
    refine Instant.withSeconds?_eq_none.mp hmoved ?_
    have hseconds : t.seconds + o.seconds = wall.seconds := hseconds
    rw [← hseconds, Int.add_sub_cancel]
    exact t.inRange

end ZonedTime

end TrackCriteria.Calendar
