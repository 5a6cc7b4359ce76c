import TrackCriteria.Text.Alphabetic
import TrackCriteria.Text.Numeric
import TrackCriteria.Text.Unprintable

/-!
# Character classes

The classes that the criteria language and its text formats are written in. White space,
letters and numbers are those of Unicode; the digits and letters of a date or duration are ASCII.

Main facts: white space belongs to no word (`not_isWordChar_of_isWhiteSpace`) and to no date or
duration (`not_isValueChar_of_isWhiteSpace`).
-/

namespace TrackCriteria.Text

/-! ### White space, letters and numbers -/

/-- The ranges of the Unicode property `White_Space`. -/
def whiteSpaceRanges : List CharRange :=
  [(0x9, 0xd), (0x20, 0x20), (0x85, 0x85), (0xa0, 0xa0), (0x1680, 0x1680), (0x2000, 0x200a),
   (0x2028, 0x2029), (0x202f, 0x202f), (0x205f, 0x205f), (0x3000, 0x3000)]

/-- Whether the character is white space. -/
def isWhiteSpace (c : Char) : Bool :=
  inRanges whiteSpaceRanges c

/-- Whether the character is one of the digits `0` to `9`. -/
def isAsciiDigit (c : Char) : Bool :=
  '0' ≤ c && c ≤ '9'

/-- Whether the character is an ASCII letter of either case. -/
def isAsciiLetter (c : Char) : Bool :=
  ('a' ≤ c && c ≤ 'z') || ('A' ≤ c && c ≤ 'Z')

/-- Whether the character is alphabetic. ASCII is answered without the table. -/
def isAlphabetic (c : Char) : Bool :=
  if c.toNat < 0x80 then isAsciiLetter c else inRanges alphabeticRanges c

/-- Whether the character is a number of any script. ASCII is answered without the table. -/
def isNumeric (c : Char) : Bool :=
  if c.toNat < 0x80 then isAsciiDigit c else inRanges numericRanges c

/-! ### The characters of words and values -/

/-- Whether a word goes on with the character: a letter, a number or an underscore. -/
def isWordChar (c : Char) : Bool :=
  isAlphabetic c || isNumeric c || c == '_'

/-- Whether a date or duration goes on with the character: an ASCII letter or digit, or `-`. -/
def isValueChar (c : Char) : Bool :=
  isAsciiLetter c || isAsciiDigit c || c == '-'

/-! ### Characters shown by their code point -/

/-- Whether quoted text shows the character by its code point. -/
def isUnprintable (c : Char) : Bool :=
  if c.toNat < 0x80 then c.toNat < 0x20 || c.toNat == 0x7f else inRanges unprintableRanges c

/-! ### Trimming -/

/-- The characters after the white space at the front. -/
def skipWhiteSpace (cs : List Char) : List Char :=
  cs.dropWhile isWhiteSpace

/-- The text without the white space at either end. -/
def trim (s : String) : String :=
  String.ofList (skipWhiteSpace (skipWhiteSpace s.toList).reverse).reverse

/-- Whether the text holds nothing but white space. -/
def isBlank (s : String) : Bool :=
  s.toList.all isWhiteSpace

/-! ### White space is outside words and values -/

/-- The code points of white space, one by one. -/
def whiteSpaceCodes : List Nat :=
  whiteSpaceRanges.flatMap fun r => (List.range (r.2 + 1 - r.1)).map (r.1 + ·)

theorem toNat_mem_whiteSpaceCodes {c : Char} (h : isWhiteSpace c = true) :
    c.toNat ∈ whiteSpaceCodes := by
  obtain ⟨r, hr, hlo, hhi⟩ := inRanges_iff.1 h
  exact List.mem_flatMap.2 ⟨r, hr, List.mem_map.2 ⟨c.toNat - r.1, List.mem_range.2 (by omega),
    by omega⟩⟩

/-- A property that fails at each code point of white space fails at all white space. -/
theorem eq_false_of_isWhiteSpace {p : Char → Bool}
    (hp : ∀ n ∈ whiteSpaceCodes, p (Char.ofNat n) = false) {c : Char}
    (h : isWhiteSpace c = true) : p c = false := by
  have := hp _ (toNat_mem_whiteSpaceCodes h)
  rwa [Char.ofNat_toNat] at this

theorem not_isWordChar_of_isWhiteSpace {c : Char} (h : isWhiteSpace c = true) :
    isWordChar c = false :=
  eq_false_of_isWhiteSpace (by decide +kernel) h

theorem not_isValueChar_of_isWhiteSpace {c : Char} (h : isWhiteSpace c = true) :
    isValueChar c = false :=
  eq_false_of_isWhiteSpace (by decide +kernel) h

end TrackCriteria.Text
