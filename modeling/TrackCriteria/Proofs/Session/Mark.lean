import TrackCriteria.Proofs.Parser.Citation
import TrackCriteria.Proofs.Token.Span
import TrackCriteria.Proofs.Token.Spelling
import TrackCriteria.Session

/-!
# The mark under an error

An error with a place can be shown under its source, and it says what stands there
(`exists_cuts_of_parse_eq_error`): the place is that of one token, its ends are between characters,
and the mark stands under the characters of the token.
-/

namespace TrackCriteria

open Text (byteLength)

namespace Session

/-- The characters before a text in which one starts are those in front of it. -/
theorem charsBefore_append (front cs : List Char) :
    charsBefore (front ++ cs) (byteLength front) = front.length := by
  induction front with
  | nil =>
    cases cs <;> rfl
  | cons c front ih =>
    have hpos := c.utf8Size_pos
    rw [List.cons_append, charsBefore, byteLength, if_neg (by omega), Nat.add_sub_cancel_left, ih,
      List.length_cons]

theorem charsBefore_utf8ByteSize (front back : String) :
    charsBefore (front ++ back).toList front.utf8ByteSize = front.length := by
  have hbefore := charsBefore_append front.toList back.toList
  rwa [← Text.utf8ByteSize_ofList, String.ofList_toList, ← String.toList_append] at hbefore

/-- A mark stands under the characters of its span, and is not empty. -/
theorem marked_of_cuts {source pre text post : String} {span : Span}
    (h : span.Cuts source pre text post) :
    marked source span = line ("  " ++ source) ++
      line ("  " ++ times pre.length ' ' ++ times (max 1 text.length) '^') := by
  have hstart : charsBefore source.toList span.start = pre.length := by
    rw [h.source_eq, String.append_assoc, h.start_eq]
    exact charsBefore_utf8ByteSize pre (text ++ post)
  have hstop : charsBefore source.toList span.stop = (pre ++ text).length := by
    rw [h.source_eq, h.stop_eq]
    exact charsBefore_utf8ByteSize (pre ++ text) post
  simp only [marked, hstart, hstop, String.length_append, Nat.add_sub_cancel_left]

end Session

namespace Criteria

/-- **Every error can be shown under its source, and quotes it faithfully.** An error with a place
is about one token, whose span is that of no other one, or it is about operands that are nested too
deep at the end of the tokens. Both ends of the place stand between two characters of the source,
what is between them is spelled as the error says, and the mark stands under all of it. -/
theorem exists_cuts_of_parse_eq_error {source : String} {err : SyntaxError} {span : Span}
    (h : Criteria.parse source = .error err) (hspan : err.span? = some span) :
    ∃ pre text post, span.Cuts source pre text post ∧
      (span.start ≤ span.stop ∧ span.stop ≤ source.utf8ByteSize ∧
        ∃ start stop : source.Pos, start.offset.byteIdx = span.start ∧
          stop.offset.byteIdx = span.stop ∧ start ≤ stop ∧ source.extract start stop = text) ∧
      (err = .nestingTooDeep ⟨0, 0⟩ ∧ (Parser.ofTokens (Token.scan source)).parse.2.rest = [] ∨
        span.start < span.stop ∧ ∃ before t after, Token.scan source = before ++ t :: after ∧
          err.IsAbout t ∧ t.span = span ∧ ∀ u ∈ before ++ after, u.span ≠ span) ∧
      (∀ kind ∈ err.kind?, kind.IsSpelled text post) ∧
      Session.marked source span = Session.line ("  " ++ source) ++
        Session.line ("  " ++ Session.times pre.length ' ' ++
          Session.times (max 1 text.length) '^') := by
  -- The error has no place, or that of the token it is about, or the one at the very front.
  rcases isCited_of_parse_eq_error h with hnone | ⟨t, ht, habout⟩ | ⟨rfl, hrest⟩
  · rw [hspan] at hnone
    cases hnone
  · obtain ⟨pre, text, post, hcuts, htext, hspelled⟩ := Token.exists_cuts_of_mem_scan ht
    obtain rfl : t.span = span := Option.some.inj (habout.span_eq.symm.trans hspan)
    obtain ⟨before, after, hscan⟩ := List.append_of_mem ht
    refine ⟨pre, text, post, hcuts, ⟨hcuts.start_le_stop, hcuts.stop_le, hcuts.exists_extract⟩,
      .inr ⟨hcuts.start_lt_stop htext, before, t, after, hscan, habout, rfl,
        Token.span_ne_of_scan hscan⟩,
      fun kind hkind => habout.kind_eq kind hkind ▸ hspelled, Session.marked_of_cuts hcuts⟩
  · obtain rfl : ⟨0, 0⟩ = span := Option.some.inj hspan
    have hcuts := Span.Cuts.empty source
    refine ⟨"", "", source, hcuts, ⟨hcuts.start_le_stop, hcuts.stop_le, hcuts.exists_extract⟩,
      .inl ⟨rfl, hrest⟩, ?_, Session.marked_of_cuts hcuts⟩
    rintro kind ⟨⟩

/-- In `name:"Café" && moody`, the unknown word stands one byte further on than the mark under it,
since `é` takes up two bytes. -/
theorem exists_cuts_of_parse_eq_error_accent :
    Criteria.parse "name:\"Café\" && moody" = .error (.unknownKeyword "moody" ⟨16, 21⟩) ∧
      (∃ start stop : String.Pos "name:\"Café\" && moody", start.offset.byteIdx = 16 ∧
        stop.offset.byteIdx = 21 ∧ start ≤ stop ∧ String.extract start stop = "moody") ∧
      Session.marked "name:\"Café\" && moody" ⟨16, 21⟩ =
        "  name:\"Café\" && moody\n                 ^^^^^\n" := by
  have hparse : Criteria.parse "name:\"Café\" && moody" =
      .error (.unknownKeyword "moody" ⟨16, 21⟩) := by decide +kernel
  obtain ⟨pre, text, post, -, ⟨-, -, hextract⟩, -, hspelled, -⟩ :=
    exists_cuts_of_parse_eq_error hparse rfl
  obtain rfl : text = "moody" := hspelled _ rfl
  exact ⟨hparse, hextract, by decide +kernel⟩

end Criteria

end TrackCriteria
