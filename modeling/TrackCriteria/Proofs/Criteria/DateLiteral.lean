import TrackCriteria.Criteria.Canonical
import TrackCriteria.Criteria.DateLiteral
import TrackCriteria.Proofs.Calendar.Civil
import TrackCriteria.Proofs.Text.Digits

/-!
# Literals of dates and ages

A literal denotes only what is expressible: a year that is written with four digits, and with a bare
year its first day (`isExpressible_of_ofLiteral?`). The canonical text of what is expressible is a
literal that denotes it (`ofLiteral?_canonical`).
-/

namespace TrackCriteria

open Text (isAsciiDigit isValueChar)
open Text.Decimal (padded paddedDigits paddedInt value)

namespace DateSpec

variable {c : Char} {cs digits : List Char}

/-- Whether it can be written as a literal: a year in four digits, and a bare year only for its
first day. -/
def IsExpressible : DateSpec → Prop
  | .age _ _ => True
  | .calendar date precision =>
    (0 ≤ date.year ∧ date.year ≤ 9999) ∧ (precision = .year → date.month = 1 ∧ date.day = 1)

/-! ### The parts of a literal -/

theorem isDigits_iff {min max : Nat} :
    isDigits min max cs = true ↔
      min ≤ cs.length ∧ cs.length ≤ max ∧ ∀ c ∈ cs, isAsciiDigit c = true := by
  rw [isDigits, Bool.and_eq_true, Bool.and_eq_true, decide_eq_true_iff, decide_eq_true_iff,
    List.all_eq_true, and_assoc]

theorem isDigits_paddedDigits {width max n : Nat} (hmax : 0 < max) (hwidth : width ≤ max)
    (hn : n < 10 ^ max) : isDigits width max (paddedDigits width n) = true :=
  isDigits_iff.mpr ⟨Text.Decimal.le_length_paddedDigits _ _,
    Text.Decimal.length_paddedDigits_le hmax hwidth hn,
    fun _ => Text.Decimal.isAsciiDigit_of_mem_paddedDigits⟩

theorem splitHyphens_of_notMem (h : '-' ∉ cs) : splitHyphens cs = [cs] := by
  induction cs with
  | nil => rfl
  | cons c cs ih =>
    rw [List.mem_cons, not_or] at h
    obtain ⟨hc, hcs⟩ := h
    rw [splitHyphens, if_neg (Ne.symm hc), ih hcs]

theorem splitHyphens_append (h : '-' ∉ cs) (rest : List Char) :
    splitHyphens (cs ++ '-' :: rest) = cs :: splitHyphens rest := by
  induction cs with
  | nil => rfl
  | cons c cs ih =>
    rw [List.mem_cons, not_or] at h
    obtain ⟨hc, hcs⟩ := h
    rw [List.cons_append, splitHyphens, if_neg (Ne.symm hc), ih hcs]

theorem hyphen_notMem (h : ∀ c ∈ cs, isAsciiDigit c = true) : '-' ∉ cs := by
  intro hmem
  cases h _ hmem

/-! ### The last character of a literal -/

theorem ofLetter?_letter (unit : AgeUnit) : AgeUnit.ofLetter? unit.letter = some unit := by
  cases unit <;> decide

theorem ofLetter?_of_isAsciiDigit (h : isAsciiDigit c = true) : AgeUnit.ofLetter? c = none :=
  Text.of_isAsciiDigit (p := fun c => AgeUnit.ofLetter? c = none) (by decide) h

/-- A letter at the end makes a literal an age. -/
theorem ofLiteral?_letter (digits : List Char) (unit : AgeUnit) :
    ofLiteral? (digits ++ [unit.letter]) = ageOfDigits? unit digits := by
  simp only [ofLiteral?, List.getLast?_concat, ofLetter?_letter, List.dropLast_concat]

/-- A digit at the end makes a literal a day of the calendar. -/
theorem ofLiteral?_digits (front : List Char) (hne : digits ≠ [])
    (hdigits : ∀ c ∈ digits, isAsciiDigit c = true) :
    ofLiteral? (front ++ digits) = calendarOfPieces? (splitHyphens (front ++ digits)) := by
  obtain ⟨cs, c, rfl⟩ := (List.eq_nil_or_concat digits).resolve_left hne
  rw [List.concat_eq_append] at hdigits ⊢
  have hc : isAsciiDigit c = true := hdigits c (List.mem_append_right _ List.mem_cons_self)
  rw [← List.append_assoc]
  simp only [ofLiteral?, List.getLast?_concat, ofLetter?_of_isAsciiDigit hc]

/-! ### What literals denote -/

theorem isExpressible_of_calendarOfPieces? {pieces : List (List Char)} {spec : DateSpec}
    (h : calendarOfPieces? pieces = some spec) : spec.IsExpressible := by
  -- Four digits denote less than ten thousand.
  have hyear : ∀ {year : List Char} {date : Calendar.Date}, isDigits 4 4 year = true →
      date.year = value year → 0 ≤ date.year ∧ date.year ≤ 9999 := by
    intro year date hdigits hdate
    obtain ⟨-, hlength, hall⟩ := isDigits_iff.mp hdigits
    have hlt : value year < 10 ^ 4 :=
      Nat.lt_of_lt_of_le (Text.Decimal.value_lt hall) (Nat.pow_le_pow_right (by decide) hlength)
    omega
  unfold calendarOfPieces? at h
  split at h
  · split at h
    · next hdigits =>
      obtain ⟨date, hdate, rfl⟩ := Option.map_eq_some_iff.mp h
      obtain ⟨hdate, hmonth, hday⟩ := Calendar.Date.of?_eq_some.mp hdate
      exact ⟨hyear hdigits hdate, fun _ => ⟨hmonth, hday⟩⟩
    · cases h
  · split at h
    · next hdigits =>
      obtain ⟨date, hdate, rfl⟩ := Option.map_eq_some_iff.mp h
      rw [Bool.and_eq_true] at hdigits
      exact ⟨hyear hdigits.2 (Calendar.Date.of?_eq_some.mp hdate).1, by rintro ⟨⟩⟩
    · cases h
  · cases h

/-- A literal denotes only what is expressible. -/
theorem isExpressible_of_ofLiteral? {spec : DateSpec} (h : ofLiteral? cs = some spec) :
    spec.IsExpressible := by
  -- The last character is missing, or it is the letter of a unit, or it belongs to a day.
  unfold ofLiteral? at h
  split at h
  · cases h
  · split at h
    · unfold ageOfDigits? at h
      split at h
      · split at h
        · cases h
          exact trivial
        · cases h
      · cases h
    · exact isExpressible_of_calendarOfPieces? h

/-! ### Canonical texts as literals -/

theorem toList_paddedInt {year : Int} (h : 0 ≤ year) (width : Nat) :
    (paddedInt width year).toList = paddedDigits width year.natAbs := by
  rw [paddedInt, if_neg (by omega), padded, String.toList_ofList]

theorem toList_canonical_age (amount : UInt32) (unit : AgeUnit) :
    (DateSpec.age amount unit).canonical.toList =
      paddedDigits 1 amount.toNat ++ [unit.letter] := by
  rw [canonical, String.toList_append, padded, String.toList_ofList, String.toList_singleton]

theorem toList_canonical_year {date : Calendar.Date} (h : 0 ≤ date.year) :
    (DateSpec.calendar date .year).canonical.toList = paddedDigits 4 date.year.natAbs :=
  toList_paddedInt h 4

theorem toList_canonical_day {date : Calendar.Date} (h : 0 ≤ date.year) :
    (DateSpec.calendar date .day).canonical.toList =
      paddedDigits 1 date.month ++ '-' ::
        (paddedDigits 1 date.day ++ '-' :: paddedDigits 4 date.year.natAbs) := by
  simp only [canonical, String.toList_append, toList_paddedInt h, padded, String.toList_ofList,
    List.append_assoc]
  rfl

/-- The text of an age is a literal that denotes the age. -/
theorem ofLiteral?_canonical_age (amount : UInt32) (unit : AgeUnit) :
    ofLiteral? (DateSpec.age amount unit).canonical.toList = some (.age amount unit) := by
  have hdigits : isDigits 1 (paddedDigits 1 amount.toNat).length (paddedDigits 1 amount.toNat) =
      true :=
    isDigits_iff.mpr ⟨Text.Decimal.le_length_paddedDigits _ _, Nat.le_refl _,
      fun _ => Text.Decimal.isAsciiDigit_of_mem_paddedDigits⟩
  have hvalue := Text.Decimal.value_paddedDigits 1 amount.toNat
  have hlt : value (paddedDigits 1 amount.toNat) < UInt32.size := by
    rw [hvalue]
    exact amount.toNat_lt
  rw [toList_canonical_age, ofLiteral?_letter, ageOfDigits?, dif_pos hlt, if_pos hdigits]
  have hamount : UInt32.ofNatLT (value (paddedDigits 1 amount.toNat)) hlt = amount := by
    rw [← UInt32.toNat_inj, UInt32.toNat_ofNatLT, hvalue]
  rw [hamount]

/-- The text of an expressible day is a literal that denotes the day. -/
theorem ofLiteral?_canonical_calendar {date : Calendar.Date} {precision : Precision}
    (h : (DateSpec.calendar date precision).IsExpressible) :
    ofLiteral? (DateSpec.calendar date precision).canonical.toList =
      some (.calendar date precision) := by
  obtain ⟨⟨hyear, hyear'⟩, hfirst⟩ := h
  have hall : ∀ {width n : Nat}, ∀ c ∈ paddedDigits width n, isAsciiDigit c = true :=
    fun _ => Text.Decimal.isAsciiDigit_of_mem_paddedDigits
  have hne : paddedDigits 4 date.year.natAbs ≠ [] :=
    List.ne_nil_of_length_pos (Nat.lt_of_lt_of_le (by decide)
      (Text.Decimal.le_length_paddedDigits 4 _))
  have hdigits : isDigits 4 4 (paddedDigits 4 date.year.natAbs) = true :=
    isDigits_paddedDigits (by decide) (Nat.le_refl _) (by omega)
  have hnatAbs : date.year = (date.year.natAbs : Int) := by omega
  cases precision with
  | year =>
    obtain ⟨hmonth, hday⟩ := hfirst rfl
    have hdate : Calendar.Date.of? date.year.natAbs 1 1 = some date :=
      Calendar.Date.of?_eq_some.mpr ⟨hnatAbs, hmonth, hday⟩
    -- The whole text is one run of digits, so there is one piece.
    have hlast := ofLiteral?_digits [] hne hall
    rw [List.nil_append] at hlast
    rw [toList_canonical_year hyear, hlast, splitHyphens_of_notMem (hyphen_notMem hall)]
    simp only [calendarOfPieces?, hdigits, if_true, Text.Decimal.value_paddedDigits, hdate,
      Option.map_some]
  | day =>
    have hdate : Calendar.Date.of? date.year.natAbs date.month date.day = some date :=
      Calendar.Date.of?_eq_some.mpr ⟨hnatAbs, rfl, rfl⟩
    have hmonth : isDigits 1 2 (paddedDigits 1 date.month) = true := by
      have hle := date.month_le
      exact isDigits_paddedDigits (by decide) (by decide) (by omega)
    have hday : isDigits 1 2 (paddedDigits 1 date.day) = true := by
      have hle := date.day_le_thirtyOne
      exact isDigits_paddedDigits (by decide) (by decide) (by omega)
    -- The last piece decides that the literal is a day, and the hyphens separate three of them.
    have hlast := ofLiteral?_digits (paddedDigits 1 date.month ++ '-' ::
      (paddedDigits 1 date.day ++ ['-'])) hne hall
    rw [List.append_assoc, List.cons_append, List.append_assoc, List.singleton_append] at hlast
    rw [toList_canonical_day hyear, hlast, splitHyphens_append (hyphen_notMem hall),
      splitHyphens_append (hyphen_notMem hall), splitHyphens_of_notMem (hyphen_notMem hall)]
    simp only [calendarOfPieces?, hmonth, hday, hdigits, Bool.and_self, if_true,
      Text.Decimal.value_paddedDigits, hdate, Option.map_some]

/-- The canonical text of what is expressible is a literal that denotes it. -/
theorem ofLiteral?_canonical {spec : DateSpec} (h : spec.IsExpressible) :
    ofLiteral? spec.canonical.toList = some spec := by
  cases spec with
  | age amount unit => exact ofLiteral?_canonical_age amount unit
  | calendar date precision => exact ofLiteral?_canonical_calendar h

/-- The canonical text of what is expressible is a digit and then characters of a literal. -/
theorem toList_canonical_eq_cons {spec : DateSpec} (h : spec.IsExpressible) :
    ∃ c cs, spec.canonical.toList = c :: cs ∧ isAsciiDigit c = true ∧
      ∀ c ∈ cs, isValueChar c = true := by
  -- In each form the text starts with a number, and what follows is read on.
  have hpadded : ∀ {width : Nat} (n : Nat) {tail : List Char}, 0 < width →
      (∀ c ∈ tail, isValueChar c = true) → ∃ c cs, paddedDigits width n ++ tail = c :: cs ∧
        isAsciiDigit c = true ∧ ∀ c ∈ cs, isValueChar c = true := by
    intro width n tail hwidth htail
    obtain ⟨c, cs, hcons, hc, hcs⟩ :=
      Text.Decimal.exists_paddedDigits_append_eq_cons hwidth n tail
    exact ⟨c, cs ++ tail, hcons, hc, List.forall_mem_append.mpr ⟨hcs, htail⟩⟩
  have hnumber : ∀ {width n : Nat}, ∀ c ∈ paddedDigits width n, isValueChar c = true :=
    fun _ => Text.Decimal.isValueChar_of_mem_paddedDigits
  cases spec with
  | age amount unit =>
    rw [toList_canonical_age]
    refine hpadded _ (by decide) (List.forall_mem_singleton.mpr ?_)
    cases unit <;> decide
  | calendar date precision =>
    obtain ⟨⟨hyear, -⟩, -⟩ := h
    cases precision with
    | year =>
      rw [toList_canonical_year hyear, ← List.append_nil (paddedDigits 4 _)]
      exact hpadded _ (by decide) (List.forall_mem_nil _)
    | day =>
      rw [toList_canonical_day hyear]
      refine hpadded _ (by decide) (List.forall_mem_cons.mpr ⟨by decide, ?_⟩)
      exact List.forall_mem_append.mpr ⟨hnumber, List.forall_mem_cons.mpr ⟨by decide, hnumber⟩⟩

end DateSpec

end TrackCriteria
