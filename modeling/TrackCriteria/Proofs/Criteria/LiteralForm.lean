import TrackCriteria.Proofs.Criteria.DateLiteral
import TrackCriteria.Proofs.Text.LetterCase

/-!
# The forms of literals

A date or duration is written in one of three forms: an age, a year or a day (`DateSpec.Denotes`).
A literal denotes what its form says, and a text that has none of the forms denotes nothing
(`DateSpec.ofLiteral?_eq_some_iff_denotes`). The last character tells an age from the other two, and
the hyphens tell a year from a day.
-/

namespace TrackCriteria

open Text (isAsciiDigit)
open Text.Decimal (value)

/-! ### Letters of units -/

theorem AgeUnit.ofLetter?_eq_some {c : Char} {unit : AgeUnit} :
    ofLetter? c = some unit ↔ c = unit.letter ∨ c = unit.letter.toUpper := by
  have hletter : unit.letter = c.toLower ↔ c = unit.letter ∨ c = unit.letter.toUpper := by
    have hcapital : unit.letter.toUpper.toNat + 32 = unit.letter.toNat := by
      cases unit <;> decide
    have hsmall := Text.toLower_eq_iff (c := c) (x := unit.letter) (by cases unit <;> decide)
    rw [eq_comm, hsmall, ← hcapital, Nat.add_right_cancel_iff, Char.toNat_inj]
  rw [← hletter]
  unfold ofLetter?
  constructor
  · intro h
    simpa using List.find?_some h
  · intro h
    cases unit <;> simp [← h, AgeUnit.letter]

namespace DateSpec

variable {cs digits : List Char} {spec : DateSpec}

/-! ### The three forms -/

/-- Whether a text is a number of digits, at least `min` and at most `max` of them. There may be
zeros at the front. -/
structure IsNumber (min max : Nat) (cs : List Char) : Prop where
  le_length : min ≤ cs.length
  length_le : cs.length ≤ max
  digits : ∀ c ∈ cs, isAsciiDigit c = true

/-- What a text denotes as a date or duration. -/
inductive Denotes : List Char → DateSpec → Prop where
  /-- An amount below 2³² and the letter of a unit, in either case. -/
  | age {digits : List Char} {letter : Char} {amount : UInt32} {unit : AgeUnit}
    (hdigits : IsNumber 1 digits.length digits) (hamount : value digits = amount.toNat)
    (hletter : letter = unit.letter ∨ letter = unit.letter.toUpper) :
    Denotes (digits ++ [letter]) (.age amount unit)
  /-- Four digits stand for the first day of a year. -/
  | year {year : List Char} {date : Calendar.Date} (hyear : IsNumber 4 4 year)
    (hdate : date.year = value year ∧ date.month = 1 ∧ date.day = 1) :
    Denotes year (.calendar date .year)
  /-- A month, a day of the month and four digits for the year, with hyphens between them. -/
  | day {month day year : List Char} {date : Calendar.Date} (hmonth : IsNumber 1 2 month)
    (hday : IsNumber 1 2 day) (hyear : IsNumber 4 4 year)
    (hdate : date.year = value year ∧ date.month = value month ∧ date.day = value day) :
    Denotes (month ++ '-' :: (day ++ '-' :: year)) (.calendar date .day)

theorem isNumber_iff {min max : Nat} : isDigits min max cs = true ↔ IsNumber min max cs := by
  rw [isDigits_iff]
  constructor
  · rintro ⟨hmin, hmax, hdigits⟩
    exact ⟨hmin, hmax, hdigits⟩
  · rintro ⟨hmin, hmax, hdigits⟩
    exact ⟨hmin, hmax, hdigits⟩

theorem IsNumber.ne_nil {min max : Nat} (h : IsNumber min max cs) (hmin : 0 < min) : cs ≠ [] :=
  List.ne_nil_of_length_pos (Nat.lt_of_lt_of_le hmin h.le_length)

/-! ### Pieces between hyphens -/

theorem splitHyphens_ne_nil (cs : List Char) : splitHyphens cs ≠ [] := by
  cases cs with
  | nil => simp [splitHyphens]
  | cons c cs =>
    rw [splitHyphens]
    split_ifs
    · simp
    · split <;> simp

/-- The first piece reaches to the first hyphen, or to the end if there is none. -/
theorem splitHyphens_eq_cons {piece : List Char} {pieces : List (List Char)}
    (h : splitHyphens cs = piece :: pieces) :
    pieces = [] ∧ cs = piece ∨ ∃ rest, cs = piece ++ '-' :: rest ∧ splitHyphens rest = pieces := by
  induction cs generalizing piece pieces with
  | nil =>
    cases h
    exact .inl ⟨rfl, rfl⟩
  | cons c cs ih =>
    obtain ⟨piece', pieces', hsplit⟩ := List.exists_cons_of_ne_nil (splitHyphens_ne_nil cs)
    rw [splitHyphens, hsplit] at h
    -- A hyphen ends the first piece, and any other character is put in front of it.
    split_ifs at h with hc
    · cases h
      exact .inr ⟨cs, by rw [hc, List.nil_append], hsplit⟩
    · cases h
      rcases ih hsplit with ⟨hpieces, hcs⟩ | ⟨rest, hcs, hrest⟩
      · exact .inl ⟨hpieces, by rw [hcs]⟩
      · exact .inr ⟨rest, by rw [hcs, List.cons_append], hrest⟩

theorem splitHyphens_eq_singleton {piece : List Char} (h : splitHyphens cs = [piece]) :
    cs = piece := by
  rcases splitHyphens_eq_cons h with ⟨-, hcs⟩ | ⟨rest, -, hrest⟩
  · exact hcs
  · exact absurd hrest (splitHyphens_ne_nil rest)

theorem splitHyphens_eq_triple {month day year : List Char}
    (h : splitHyphens cs = [month, day, year]) :
    cs = month ++ '-' :: (day ++ '-' :: year) := by
  rcases splitHyphens_eq_cons h with ⟨hnil, -⟩ | ⟨rest, hcs, hrest⟩
  · cases hnil
  rcases splitHyphens_eq_cons hrest with ⟨hnil, -⟩ | ⟨rest', hrest, hyear⟩
  · cases hnil
  rw [hcs, hrest, splitHyphens_eq_singleton hyear]

/-! ### Literals and their forms -/

theorem ageOfDigits?_eq_some {unit : AgeUnit} :
    ageOfDigits? unit digits = some spec ↔
      ∃ amount, IsNumber 1 digits.length digits ∧ value digits = amount.toNat ∧
        spec = .age amount unit := by
  unfold ageOfDigits?
  constructor
  · intro h
    split_ifs at h with hlt hdigits
    obtain rfl := Option.some.inj h
    exact ⟨_, isNumber_iff.mp hdigits, (UInt32.toNat_ofNatLT ..).symm, rfl⟩
  · rintro ⟨amount, hdigits, hvalue, rfl⟩
    have hlt : value digits < UInt32.size := hvalue ▸ amount.toNat_lt
    have hamount : UInt32.ofNatLT (value digits) hlt = amount := by
      rw [← UInt32.toNat_inj, UInt32.toNat_ofNatLT, hvalue]
    rw [dif_pos hlt, if_pos (isNumber_iff.mpr hdigits), hamount]

/-- The last character says whether a text is an age. -/
theorem ofLiteral?_concat (front : List Char) (c : Char) :
    ofLiteral? (front ++ [c]) =
      (AgeUnit.ofLetter? c).elim (calendarOfPieces? (splitHyphens (front ++ [c])))
        (ageOfDigits? · front) := by
  unfold ofLiteral?
  rw [List.getLast?_concat, List.dropLast_concat]
  dsimp only
  cases AgeUnit.ofLetter? c with
  | none => rfl
  | some unit => rfl

theorem denotes_of_calendarOfPieces? (h : calendarOfPieces? (splitHyphens cs) = some spec) :
    Denotes cs spec := by
  unfold calendarOfPieces? at h
  -- One piece is a year and three are a day. No other number of them means anything.
  split at h
  · next year hpieces =>
    split_ifs at h with hyear
    obtain ⟨date, hdate, rfl⟩ := Option.map_eq_some_iff.mp h
    rw [splitHyphens_eq_singleton hpieces]
    exact .year (isNumber_iff.mp hyear) (Calendar.Date.of?_eq_some.mp hdate)
  · next month day year hpieces =>
    split_ifs at h with hnumbers
    simp only [Bool.and_eq_true, isNumber_iff] at hnumbers
    obtain ⟨⟨hmonth, hday⟩, hyear⟩ := hnumbers
    obtain ⟨date, hdate, rfl⟩ := Option.map_eq_some_iff.mp h
    rw [splitHyphens_eq_triple hpieces]
    exact .day hmonth hday hyear (Calendar.Date.of?_eq_some.mp hdate)
  · cases h

theorem denotes_of_ofLiteral? (h : ofLiteral? cs = some spec) : Denotes cs spec := by
  rcases List.eq_nil_or_concat cs with rfl | ⟨front, c, rfl⟩
  · cases h
  rw [List.concat_eq_append] at h ⊢
  rw [ofLiteral?_concat] at h
  -- With the letter of a unit at its end the literal is an age, and otherwise a day.
  cases hunit : AgeUnit.ofLetter? c with
  | none =>
    rw [hunit] at h
    exact denotes_of_calendarOfPieces? h
  | some unit =>
    rw [hunit] at h
    obtain ⟨amount, hdigits, hamount, rfl⟩ := ageOfDigits?_eq_some.mp h
    exact .age hdigits hamount (AgeUnit.ofLetter?_eq_some.mp hunit)

theorem ofLiteral?_of_denotes (h : Denotes cs spec) : ofLiteral? cs = some spec := by
  cases h with
  | age hdigits hamount hletter =>
    rw [ofLiteral?_concat, AgeUnit.ofLetter?_eq_some.mpr hletter]
    exact ageOfDigits?_eq_some.mpr ⟨_, hdigits, hamount, rfl⟩
  | year hyear hdate =>
    have hlast := ofLiteral?_digits [] (hyear.ne_nil (by decide)) hyear.digits
    have hof := Calendar.Date.of?_eq_some.mpr hdate
    rw [List.nil_append, splitHyphens_of_notMem (hyphen_notMem hyear.digits)] at hlast
    rw [hlast, calendarOfPieces?, if_pos (isNumber_iff.mpr hyear), hof, Option.map_some]
  | @day month day year date hmonth hday hyear hdate =>
    have hlast := ofLiteral?_digits (month ++ '-' :: (day ++ ['-'])) (hyear.ne_nil (by decide))
      hyear.digits
    have hof := Calendar.Date.of?_eq_some.mpr hdate
    -- The number at the end is the year, and each hyphen ends one of the other two.
    simp only [List.append_assoc, List.cons_append, List.nil_append] at hlast
    rw [hlast, splitHyphens_append (hyphen_notMem hmonth.digits),
      splitHyphens_append (hyphen_notMem hday.digits),
      splitHyphens_of_notMem (hyphen_notMem hyear.digits)]
    simp only [calendarOfPieces?, isNumber_iff.mpr hmonth, isNumber_iff.mpr hday,
      isNumber_iff.mpr hyear, Bool.and_self, if_true, hof, Option.map_some]

/-! ### Texts that denote nothing -/

theorem exists_date_iff {year : Int} (hyear : Calendar.minYear ≤ year ∧ year ≤ Calendar.maxYear)
    (month day : Nat) :
    (∃ date : Calendar.Date, date.year = year ∧ date.month = month ∧ date.day = day) ↔
      (1 ≤ month ∧ month ≤ 12) ∧
        1 ≤ day ∧ day ≤ Calendar.monthLength (Calendar.isLeapYear year) month := by
  constructor
  · rintro ⟨date, rfl, rfl, rfl⟩
    exact ⟨⟨date.one_le_month, date.month_le⟩, date.one_le_day, date.day_le⟩
  · rintro ⟨hmonth, hday⟩
    exact ⟨⟨year, month, day, hyear.1, hyear.2, hmonth.1, hmonth.2, hday.1, hday.2⟩, rfl, rfl, rfl⟩

/-- Years of four digits are years of the calendar. -/
theorem IsNumber.inRange {year : List Char} (h : IsNumber 4 4 year) :
    Calendar.minYear ≤ value year ∧ value year ≤ Calendar.maxYear := by
  have hlt := Text.Decimal.value_lt h.digits
  have hlength : year.length = 4 := Nat.le_antisymm h.length_le h.le_length
  rw [hlength] at hlt
  unfold Calendar.minYear Calendar.maxYear
  omega

/-- **A literal denotes what its form says.** It is an amount below 2³² with the letter of a unit in
either case, a year of four digits, which stands for its first day, or a day `M-D-YYYY` of the
calendar, with one or two digits for the month and for the day. A text of another form denotes
nothing, and neither does an age with a larger amount or a day that does not exist. -/
theorem ofLiteral?_eq_some_iff_denotes (cs : List Char) :
    (∀ spec, ofLiteral? cs = some spec ↔ Denotes cs spec) ∧
      (ofLiteral? cs = none ↔
        (∀ digits letter, ∀ unit : AgeUnit, cs = digits ++ [letter] →
          IsNumber 1 digits.length digits → letter = unit.letter ∨ letter = unit.letter.toUpper →
            UInt32.size ≤ value digits) ∧
        ¬IsNumber 4 4 cs ∧
        ∀ month day year, cs = month ++ '-' :: (day ++ '-' :: year) → IsNumber 1 2 month →
          IsNumber 1 2 day → IsNumber 4 4 year →
            ¬((1 ≤ value month ∧ value month ≤ 12) ∧ 1 ≤ value day ∧
              value day ≤ Calendar.monthLength (Calendar.isLeapYear (value year))
                (value month))) := by
  have hiff : ∀ spec, ofLiteral? cs = some spec ↔ Denotes cs spec :=
    fun spec => ⟨denotes_of_ofLiteral?, ofLiteral?_of_denotes⟩
  refine ⟨hiff, ?_⟩
  rw [Option.eq_none_iff_forall_ne_some]
  constructor
  · -- A literal of one of the forms would denote something.
    intro hnone
    refine ⟨?_, ?_, ?_⟩
    · rintro digits letter unit rfl hdigits hletter
      by_contra hlt
      have hamount := UInt32.toNat_ofNatLT (h := Nat.not_le.mp hlt)
      exact hnone _ ((hiff _).mpr (.age hdigits hamount.symm hletter))
    · intro hyear
      obtain ⟨date, hdate⟩ := (exists_date_iff hyear.inRange 1 1).mpr
        (by cases Calendar.isLeapYear (value cs) <;> decide)
      exact hnone _ ((hiff _).mpr (.year hyear hdate))
    · rintro month day year rfl hmonth hday hyear hexists
      obtain ⟨date, hdate⟩ := (exists_date_iff hyear.inRange _ _).mpr hexists
      exact hnone _ ((hiff _).mpr (.day hmonth hday hyear hdate))
  · -- What is denoted is denoted by one of the three forms, and each is excluded.
    rintro ⟨hage, hyear, hday⟩ spec hspec
    cases (hiff spec).mp hspec with
    | @age digits letter amount unit hdigits hamount hletter =>
      have hsize := hage digits letter unit rfl hdigits hletter
      have hlt := amount.toNat_lt_size
      omega
    | year hnumber => exact hyear hnumber
    | day hm hd hy hdate =>
      exact hday _ _ _ rfl hm hd hy ((exists_date_iff hy.inRange _ _).mp ⟨_, hdate⟩)

example : ofLiteral? "007D".toList = some (.age 7 .day) ∧ ofLiteral? "2-29-2023".toList = none := by
  decide +kernel

end DateSpec

end TrackCriteria
