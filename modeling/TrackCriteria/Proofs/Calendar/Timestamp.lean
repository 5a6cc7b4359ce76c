import TrackCriteria.Calendar.Timestamp.Reader
import TrackCriteria.Proofs.Calendar.Civil
import TrackCriteria.Proofs.Calendar.Instant
import TrackCriteria.Proofs.Text.Digits
import Mathlib.Data.Option.Basic

/-!
# Reading the interchange form of an instant

The text of an instant is read back as the instant (`Instant.ofText?_text`). There are two halves to
this: the relaxed grammar finds the fields that were written (`relaxedFields_text`), and the fields
of an instant denote it again (`resolve?_fields`). Every field is read in front of whatever follows
it; only a year with a sign and the fraction, which have no fixed width, must not be followed by a
digit.

A leap second after any other second than the last one of a minute is written like the next second,
so it is not read back (`Instant.HasClockTime`).
-/

namespace TrackCriteria.Calendar

open Text (isAsciiDigit isWhiteSpace skipWhiteSpace)
open Text.Decimal (padded paddedDigits value)

namespace Timestamp

variable {α β : Type} {c : Char} {cs rest : List Char}

/-! ### Single fields -/

/-- What comes after a reader goes on where the reader stopped. -/
theorem bind_of_eq_some {reader : Reader α} {a : α} (h : reader cs = some (a, rest))
    (next : α → Reader β) : (reader >>= next) cs = next a rest := by
  calc (reader >>= next) cs = (reader cs).bind fun found => next found.1 found.2 := rfl
    _ = next a rest := by rw [h, Option.bind_some]

theorem number_paddedDigits {min max width n : Nat} (hmin : min ≤ width)
    (hmax : (paddedDigits width n).length ≤ max)
    (hend : (paddedDigits width n).length = max ∨ ∀ c ∈ rest.head?, isAsciiDigit c = false) :
    number min max (paddedDigits width n ++ rest) = some (n, rest) := by
  have hle := Text.Decimal.le_length_paddedDigits width n
  have htake := Text.Decimal.takeDigits_append
    (fun _ => Text.Decimal.isAsciiDigit_of_mem_paddedDigits) (Nat.le_trans hmin hle) hmax hend
  simp only [number, htake, Option.bind_eq_bind, Option.bind_some,
    Text.Decimal.value_paddedDigits, Option.pure_def]

theorem blanks_of_head (h : ∀ c ∈ cs.head?, isWhiteSpace c = false) : blanks cs = some ((), cs) := by
  have hskip : skipWhiteSpace cs = cs := Text.dropWhile_append_of_head (List.forall_mem_nil _) h
  rw [blanks, hskip]

theorem relaxedNumber_paddedDigits {n : Nat} (hn : n < 100) :
    relaxedNumber (paddedDigits 2 n ++ rest) = some (n, rest) := by
  have hblanks : blanks (paddedDigits 2 n ++ rest) = some ((), paddedDigits 2 n ++ rest) := by
    rw [blanks, Text.Decimal.skipWhiteSpace_paddedDigits (by decide)]
  have hlength : (paddedDigits 2 n).length = 2 :=
    Text.Decimal.length_paddedDigits_eq (by decide) hn
  rw [relaxedNumber, bind_of_eq_some hblanks]
  exact number_paddedDigits (by decide) (Nat.le_of_eq hlength) (.inl hlength)

theorem relaxedLiteral_cons (hc : isWhiteSpace c = false) :
    relaxedLiteral c (c :: rest) = some ((), rest) := by
  have hblanks : blanks (c :: rest) = some ((), c :: rest) := by
    refine blanks_of_head ?_
    rintro c ⟨⟩
    exact hc
  rw [relaxedLiteral, bind_of_eq_some hblanks, literal, if_pos rfl]

/-- Without a sign, a year has at most four digits. -/
theorem relaxedYear_of_isAsciiDigit (hc : isAsciiDigit c = true) :
    relaxedYear (c :: cs) = (number 1 4 (c :: cs)).map fun (n, rest) => ((n : Int), rest) := by
  have hspace : ¬isWhiteSpace c = true := by
    rw [Text.isWhiteSpace_of_isAsciiDigit hc]
    exact Bool.false_ne_true
  have hskip : skipWhiteSpace (c :: cs) = c :: cs := List.dropWhile_cons_of_neg hspace
  rw [relaxedYear, hskip]
  -- No digit is a sign.
  split
  · next heq =>
    cases heq
    cases hc
  · next heq =>
    cases heq
    cases hc
  · rfl

/-- A year is read in front of a hyphen. -/
theorem relaxedYear_yearText (year : Int) :
    relaxedYear ((yearText year).toList ++ '-' :: rest) = some (year, '-' :: rest) := by
  -- Behind a sign, the digits go on as far as they can.
  have hsigned : number 1 (paddedDigits 4 year.natAbs ++ '-' :: rest).length
      (paddedDigits 4 year.natAbs ++ '-' :: rest) = some (year.natAbs, '-' :: rest) := by
    refine number_paddedDigits (by decide) ?_ (.inr ?_)
    · rw [List.length_append]
      exact Nat.le_add_right _ _
    · rintro c ⟨⟩
      decide
  by_cases hfour : 0 ≤ year ∧ year ≤ 9999
  · have hlength : (paddedDigits 4 year.toNat).length = 4 :=
      Text.Decimal.length_paddedDigits_eq (by decide) (by omega)
    have hnumber : number 1 4 (paddedDigits 4 year.toNat ++ '-' :: rest) =
        some (year.toNat, '-' :: rest) :=
      number_paddedDigits (by decide) (Nat.le_of_eq hlength) (.inl hlength)
    obtain ⟨c, cs, hcons, hc, -⟩ := Text.Decimal.exists_paddedDigits_append_eq_cons
      (show 0 < 4 by decide) year.toNat ('-' :: rest)
    have hyear : ((year.toNat : Nat) : Int) = year := Int.toNat_of_nonneg hfour.1
    rw [yearText, if_pos hfour, padded, String.toList_ofList, hcons,
      relaxedYear_of_isAsciiDigit hc, ← hcons]
    simp only [hnumber, Option.map_some, hyear]
  · rw [yearText, if_neg hfour, padded, String.toList_append, String.toList_ofList]
    by_cases hneg : year < 0
    · have hyear : -(year.natAbs : Int) = year := by omega
      rw [if_pos hneg]
      calc relaxedYear ('-' :: (paddedDigits 4 year.natAbs ++ '-' :: rest))
          = (number 1 (paddedDigits 4 year.natAbs ++ '-' :: rest).length
              (paddedDigits 4 year.natAbs ++ '-' :: rest)).map
                fun (n, rest) => (-(n : Int), rest) := rfl
        _ = some (year, '-' :: rest) := by simp only [hsigned, Option.map_some, hyear]
    · have hyear : (year.natAbs : Int) = year := by omega
      rw [if_neg hneg]
      calc relaxedYear ('+' :: (paddedDigits 4 year.natAbs ++ '-' :: rest))
          = (number 1 (paddedDigits 4 year.natAbs ++ '-' :: rest).length
              (paddedDigits 4 year.natAbs ++ '-' :: rest)).map
                fun (n, rest) => ((n : Int), rest) := rfl
        _ = some (year, '-' :: rest) := by simp only [hsigned, Option.map_some, hyear]

/-- Digits after a point count as if there were nine of them. -/
theorem fraction_point {width n : Nat} (hpos : 0 < width) (hnine : width ≤ 9) (hn : n < 10 ^ width)
    (hrest : ∀ c ∈ rest.head?, isAsciiDigit c = false) :
    fraction ('.' :: (paddedDigits width n ++ rest)) = some (n * 10 ^ (9 - width), rest) := by
  have hlength := Text.Decimal.length_paddedDigits_eq hpos hn
  have htake : Text.Decimal.takeDigits 1 9 (paddedDigits width n ++ rest) =
      some (paddedDigits width n, rest) :=
    Text.Decimal.takeDigits_append (fun _ => Text.Decimal.isAsciiDigit_of_mem_paddedDigits)
      (Nat.le_trans hpos hlength.ge) (Nat.le_trans hlength.le hnine) (.inr hrest)
  have hdrop : rest.dropWhile isAsciiDigit = rest :=
    Text.dropWhile_append_of_head (List.forall_mem_nil _) hrest
  simp only [fraction, htake, Option.bind_eq_bind, Option.bind_some, Option.pure_def, hlength,
    Text.Decimal.value_append_zeros, Text.Decimal.value_paddedDigits, hdrop]

theorem fraction_fractionText (nanos : Nat) :
    fraction ((fractionText nanos).toList ++ 'Z' :: rest) =
      some (nanos % 1000000000, 'Z' :: rest) := by
  have hend : ∀ c ∈ ('Z' :: rest).head?, isAsciiDigit c = false := by
    rintro c ⟨⟩
    decide
  have hlt := Nat.mod_lt nanos (show 0 < 1000000000 by decide)
  -- What is cut off are zeros.
  have hgroups : ∀ {width n : Nat}, 0 < width → width ≤ 9 → n < 10 ^ width →
      n * 10 ^ (9 - width) = nanos % 1000000000 →
      fraction (("." ++ padded width n).toList ++ 'Z' :: rest) =
        some (nanos % 1000000000, 'Z' :: rest) := by
    intro width n hpos hnine hn hvalue
    have htext : ("." ++ padded width n).toList = '.' :: paddedDigits width n := by
      rw [padded, String.toList_append, String.toList_ofList, String.toList_ofList,
        List.singleton_append]
    rw [htext, List.cons_append, fraction_point hpos hnine hn hend, hvalue]
  unfold fractionText
  dsimp only
  split_ifs with hzero hmillis hmicros
  · rw [hzero]
    rfl
  · exact hgroups (by decide) (by decide) (by omega) (by omega)
  · exact hgroups (by decide) (by decide) (by omega) (by omega)
  · exact hgroups (by decide) (by decide) (by omega) (by omega)

end Timestamp

/-! ### All fields -/

namespace Instant

/-- Every instant lies in a day of the calendar. -/
theorem exists_date (t : Instant) :
    ∃ date : Date, date.dayNumber = t.seconds / secondsPerDay ∧
      civil (t.seconds / secondsPerDay) = (date.year, date.month, date.day) := by
  have hmin := t.minSeconds_le
  have hmax := t.le_maxSeconds
  unfold minSeconds at hmin
  unfold maxSeconds at hmax
  obtain ⟨date, -, hday⟩ := Date.exists_ofDayNumber? (n := t.seconds / secondsPerDay)
    (by unfold minDayNumber secondsPerDay; omega) (by unfold maxDayNumber secondsPerDay; omega)
  exact ⟨date, hday, by rw [← hday, civil_dayNumber]⟩

/-- Whether a clock in UTC comes to the instant: a leap second follows the last second of a
minute. -/
def HasClockTime (t : Instant) : Prop :=
  1000000000 ≤ t.nanos → t.seconds % 60 = 59

/-- The fields that a clock in UTC shows at an instant. -/
def fields (t : Instant) : Timestamp.Fields :=
  let (year, month, day) := civil (t.seconds / secondsPerDay)
  let ofDay := (t.seconds % secondsPerDay).toNat
  ⟨year, month, day, ofDay / 3600, ofDay / 60 % 60, ofDay % 60 + t.nanos / 1000000000,
    t.nanos % 1000000000, 0⟩

end Instant

namespace Timestamp

/-- The fields are read as they were written. -/
theorem relaxedFields_text (t : Instant) : relaxedFields t.text.toList = some (t.fields, []) := by
  obtain ⟨date, -, hcivil⟩ := t.exists_date
  have hmonth := date.month_le
  have hdate := date.day_le_thirtyOne
  have hnanos := t.nanos_lt
  have hofDay : (t.seconds % secondsPerDay).toNat < 86400 := by
    unfold secondsPerDay
    omega
  obtain ⟨ofDay, hseconds⟩ : ∃ n, (t.seconds % secondsPerDay).toNat = n := ⟨_, rfl⟩
  rw [hseconds] at hofDay
  have htext : t.text.toList = (yearText date.year).toList ++ '-' ::
      (paddedDigits 2 date.month ++ '-' :: (paddedDigits 2 date.day ++ 'T' ::
        (paddedDigits 2 (ofDay / 3600) ++ ':' :: (paddedDigits 2 (ofDay / 60 % 60) ++ ':' ::
          (paddedDigits 2 (ofDay % 60 + t.nanos / 1000000000) ++
            ((fractionText t.nanos).toList ++ ['Z'])))))) := by
    simp only [Instant.text, dateTimeText, dateText, timeText, hcivil, hseconds, padded,
      String.toList_append, String.toList_ofList, List.append_assoc, String.reduceToList,
      List.cons_append, List.nil_append]
  have hhyphen : isWhiteSpace '-' = false := by decide
  have hcolon : isWhiteSpace ':' = false := by decide
  have hzulu : blanks ['Z'] = some ((), ['Z']) := by decide
  -- One field after the other is read in front of what is left of the text.
  rw [htext, relaxedFields, bind_of_eq_some (relaxedYear_yearText _),
    bind_of_eq_some (relaxedLiteral_cons hhyphen),
    bind_of_eq_some (relaxedNumber_paddedDigits (by omega)),
    bind_of_eq_some (relaxedLiteral_cons hhyphen),
    bind_of_eq_some (relaxedNumber_paddedDigits (by omega)), bind_of_eq_some (a := ()) rfl,
    bind_of_eq_some (relaxedNumber_paddedDigits (by omega)),
    bind_of_eq_some (relaxedLiteral_cons hcolon),
    bind_of_eq_some (relaxedNumber_paddedDigits (by omega)),
    bind_of_eq_some (relaxedLiteral_cons hcolon),
    bind_of_eq_some (relaxedNumber_paddedDigits (by omega)),
    bind_of_eq_some (fraction_fractionText t.nanos), bind_of_eq_some hzulu]
  simp only [Instant.fields, hcivil, hseconds]
  rfl

/-- An instant is denoted by fields that have its seconds and nanoseconds. -/
theorem Fields.resolve?_eq_some {f : Fields} {date : Date} {offset : Offset} {t : Instant}
    (hrange : f.hour < 24 ∧ f.minute < 60 ∧ f.second ≤ 60 ∧ f.nanos < 1000000000)
    (hdate : Date.of? f.year f.month f.day = some date) (hoffset : Offset.of? f.offset = some offset)
    (hseconds : t.seconds = date.dayNumber * secondsPerDay + f.hour * 3600 + f.minute * 60 +
      (if f.second = 60 then 59 else f.second : Nat) - offset.seconds)
    (hnanos : t.nanos = if f.second = 60 then f.nanos + 1000000000 else f.nanos) :
    f.resolve? = some (t, offset) := by
  obtain ⟨seconds, nanos, hmin, hmax, hlt⟩ := t
  subst hseconds hnanos
  simp only [Fields.resolve?, guard, if_pos hrange, hdate, hoffset]
  exact dif_pos ⟨⟨hmin, hmax⟩, hlt⟩

/-- The fields of an instant denote it, at the offset of UTC. -/
theorem resolve?_fields {t : Instant} (h : t.HasClockTime) :
    t.fields.resolve? = some (t, Offset.utc) := by
  obtain ⟨date, hday, hcivil⟩ := t.exists_date
  have hdate : Date.of? date.year date.month date.day = some date :=
    Date.of?_eq_some.mpr ⟨rfl, rfl, rfl⟩
  have hnanos := t.nanos_lt
  unfold Instant.HasClockTime at h
  simp only [Instant.fields, hcivil]
  unfold secondsPerDay at hday ⊢
  have hoffset : Offset.of? 0 = some Offset.utc := rfl
  -- The fields are in range. A leap second is the second 60, and the seconds and nanoseconds that
  -- come from it are those of the instant.
  refine Fields.resolve?_eq_some ?_ hdate hoffset ?_ ?_
  · dsimp only
    omega
  · rw [hday]
    unfold secondsPerDay Offset.utc
    dsimp only
    split_ifs <;> omega
  · dsimp only
    split_ifs <;> omega

/-- Fields are read as a time that a clock with the offset can show. -/
theorem Fields.inRange_of_resolve? {f : Fields} {t : Instant} {o : Offset}
    (h : f.resolve? = some (t, o)) : InRange (t.seconds + o.seconds) := by
  simp only [resolve?, Option.bind_eq_bind, Option.bind_eq_some_iff, Option.guard_eq_some',
    Option.dite_none_right_eq_some, Option.pure_def] at h
  obtain ⟨-, hfields, date, -, offset, -, hrange, h⟩ := h
  obtain ⟨rfl, rfl⟩ := Prod.mk.inj (Option.some.inj h)
  dsimp only
  rw [Int.sub_add_cancel, Int.add_assoc, Int.add_assoc]
  refine (inRange_day_iff ?_ ?_).mpr ⟨date.minDayNumber_le, date.le_maxDayNumber⟩
  · omega
  · unfold secondsPerDay
    split <;> omega

end Timestamp

/-- A time that is written down with its offset is one that a clock can show. -/
theorem ZonedTime.inRange_of_ofText? {s : String} {now : ZonedTime} (h : ofText? s = some now) :
    InRange (now.instant.seconds + now.offset.seconds) := by
  simp only [ofText?, Option.bind_eq_bind, Option.bind_eq_some_iff, Option.pure_def] at h
  obtain ⟨⟨fields, rest⟩, -, ⟨instant, offset⟩, hresolve, h⟩ := h
  cases h
  exact Timestamp.Fields.inRange_of_resolve? hresolve

/-- The text of an instant is read back. -/
theorem Instant.ofText?_text {t : Instant} (h : t.HasClockTime) : ofText? t.text = some t := by
  simp only [ofText?, Timestamp.relaxedFields_text, Timestamp.resolve?_fields h,
    Option.bind_eq_bind, Option.bind_some, Option.pure_def]

end TrackCriteria.Calendar
