import TrackCriteria.Proofs.Token.Seam

/-!
# The text of a token

A span cuts a source in three: what stands before it, what it holds, and what stands after it
(`Span.Cuts`). What the span of a token holds is how the token is spelled
(`exists_cuts_of_mem_scan`).
-/

namespace TrackCriteria

/-! ### Stretches of a text -/

/-- Whether a span is that of `text` between `pre` and `post`. -/
structure Span.Cuts (s : Span) (source pre text post : String) : Prop where
  source_eq : source = pre ++ text ++ post
  start_eq : s.start = pre.utf8ByteSize
  stop_eq : s.stop = (pre ++ text).utf8ByteSize

namespace Span.Cuts

variable {s : Span} {source pre text post : String}

/-- The empty span at the front of a text. -/
theorem empty (source : String) : Span.Cuts ⟨0, 0⟩ source "" "" source :=
  ⟨by simp, rfl, rfl⟩

theorem start_le_stop (h : s.Cuts source pre text post) : s.start ≤ s.stop := by
  rw [h.start_eq, h.stop_eq, String.utf8ByteSize_append]
  exact Nat.le_add_right _ _

theorem stop_le (h : s.Cuts source pre text post) : s.stop ≤ source.utf8ByteSize := by
  rw [h.stop_eq, h.source_eq, String.utf8ByteSize_append (s := pre ++ text)]
  exact Nat.le_add_right _ _

/-- A span of some text is not empty. -/
theorem start_lt_stop (h : s.Cuts source pre text post) (htext : text ≠ "") : s.start < s.stop := by
  have hpos : text.utf8ByteSize ≠ 0 := mt String.utf8ByteSize_eq_zero_iff.mp htext
  rw [h.start_eq, h.stop_eq, String.utf8ByteSize_append]
  omega

/-- Both ends of a span stand between two characters, and the text is what is between them. -/
theorem exists_extract (h : s.Cuts source pre text post) :
    ∃ start stop : source.Pos, start.offset.byteIdx = s.start ∧ stop.offset.byteIdx = s.stop ∧
      start ≤ stop ∧ source.extract start stop = text := by
  have hstart : String.Pos.Raw.IsValid source ⟨s.start⟩ := by
    rw [String.Pos.Raw.isValid_iff_exists_append, h.start_eq, h.source_eq, String.append_assoc]
    exact ⟨pre, text ++ post, rfl, rfl⟩
  have hstop : String.Pos.Raw.IsValid source ⟨s.stop⟩ := by
    rw [String.Pos.Raw.isValid_iff_exists_append, h.stop_eq]
    exact ⟨pre ++ text, post, h.source_eq, rfl⟩
  refine ⟨⟨_, hstart⟩, ⟨_, hstop⟩, rfl, rfl, h.start_le_stop, ?_⟩
  -- The bytes of the text are those between the bytes of what stands before and after it.
  have hbytes : source.toByteArray =
      pre.toByteArray ++ (text.toByteArray ++ post.toByteArray) := by
    rw [h.source_eq, String.toByteArray_append, String.toByteArray_append, ByteArray.append_assoc]
  have hsize : s.stop = pre.utf8ByteSize + text.toByteArray.size := by
    rw [h.stop_eq, String.utf8ByteSize_append, String.size_toByteArray]
  have hfront : (pre.toByteArray ++ (text.toByteArray ++ post.toByteArray)).extract
      (pre.utf8ByteSize + 0) (pre.utf8ByteSize + text.toByteArray.size) =
      (text.toByteArray ++ post.toByteArray).extract 0 text.toByteArray.size :=
    ByteArray.extract_append_size_add' String.size_toByteArray.symm
  rw [← String.toByteArray_inj, String.toByteArray_extract, hbytes]
  simp only [h.start_eq, hsize]
  exact hfront.trans (ByteArray.extract_append_eq_left rfl)

/-- A span has one text only. -/
theorem text_unique {pre' text' post' : String} (h : s.Cuts source pre text post)
    (h' : s.Cuts source pre' text' post') : text = text' := by
  obtain ⟨start, stop, hstart, hstop, -, rfl⟩ := h.exists_extract
  obtain ⟨start', stop', hstart', hstop', -, rfl⟩ := h'.exists_extract
  have hstarts : start = start' := String.Pos.ext (String.Pos.Raw.ext (hstart.trans hstart'.symm))
  have hstops : stop = stop' := String.Pos.ext (String.Pos.Raw.ext (hstop.trans hstop'.symm))
  rw [hstarts, hstops]

end Span.Cuts

/-! ### How tokens are spelled -/

namespace Token

/-- Whether a token of a kind is spelled as `text` in front of `post`. -/
def Kind.IsSpelled (kind : Kind) (text post : String) : Prop :=
  match kind with
  | .keyword k => text.toList.map Char.toLower = k.word.toList
  | .identifier word => text = word
  | .string content => text = "\"" ++ content ++ "\"" ∧ '"' ∉ content.toList
  | .value literal => text = literal
  | .leftParen => text = "("
  | .rightParen => text = ")"
  | .colon => text = ":"
  | .not => text = "!"
  | .and => text = "&&"
  | .or => text = "||"
  | .comparison op => text = op.symbol
  | .illegal c => text = String.singleton c
  | .unterminatedString => (∃ content, '"' ∉ content.toList ∧ text = "\"" ++ content) ∧ post = ""

theorem isSpelled_wordKind (w : List Char) (post : String) :
    (wordKind w).IsSpelled (String.ofList w) post := by
  unfold wordKind
  split
  · next k hk =>
    rw [Keyword.ofWord?] at hk
    have hword := List.find?_some hk
    simp only [decide_eq_true_eq] at hword
    simp only [Kind.IsSpelled, String.toList_ofList, hword]
  · rfl

theorem isSpelled_pair {c second : Char} {double single : Kind} {post : String}
    (hdouble : double.IsSpelled (String.ofList [c, second]) post)
    (hsingle : single.IsSpelled (String.ofList [c]) post) (cs : List Char) :
    (pair second double single cs).1.IsSpelled
      (String.ofList (c :: (pair second double single cs).2)) post := by
  unfold pair
  split
  · exact hdouble
  · exact hsingle

theorem isSpelled_quoted (cs : List Char) :
    (quoted cs).1.IsSpelled (String.ofList ('"' :: (quoted cs).2))
      (String.ofList (cs.drop (quoted cs).2.length)) := by
  by_cases h : '"' ∈ cs
  · obtain ⟨content, rest, rfl, hcontent⟩ := List.eq_append_cons_of_mem h
    rw [quoted_append hcontent]
    refine ⟨?_, ?_⟩
    · rw [String.ofList_cons, String.ofList_append, ← String.append_assoc]
      rfl
    · rwa [String.toList_ofList]
  · rw [quoted_of_notMem h, List.drop_length]
    refine ⟨⟨String.ofList cs, ?_, String.ofList_cons⟩, rfl⟩
    rwa [String.toList_ofList]

/-- The characters that a token takes spell it. -/
theorem isSpelled_first (c : Char) (cs : List Char) :
    (first c cs).1.IsSpelled (String.ofList (c :: (first c cs).2))
      (String.ofList (cs.drop (first c cs).2.length)) := by
  have hfirst := goesOn_first c
  generalize first c = step at hfirst ⊢
  cases hfirst with
  | single hmark =>
    have hspelled : ∀ e ∈ singleMarks, ∀ post, e.2.IsSpelled (String.ofList [e.1]) post := by
      simp only [singleMarks, List.forall_mem_cons]
      exact ⟨fun _ => rfl, fun _ => rfl, fun _ => rfl, fun _ => rfl, fun _ => rfl, by simp⟩
    exact hspelled _ hmark _
  | pair hmark =>
    have hspelled : ∀ e ∈ pairMarks, ∀ post, e.2.2.1.IsSpelled (String.ofList [e.1, e.2.1]) post ∧
        e.2.2.2.IsSpelled (String.ofList [e.1]) post := by
      simp only [pairMarks, List.forall_mem_cons]
      exact ⟨fun _ => ⟨rfl, rfl⟩, fun _ => ⟨rfl, rfl⟩, fun _ => ⟨rfl, rfl⟩, fun _ => ⟨rfl, rfl⟩,
        by simp⟩
    exact isSpelled_pair (hspelled _ hmark _).1 (hspelled _ hmark _).2 cs
  | quoted hquote =>
    rw [hquote]
    exact isSpelled_quoted cs
  | value => rfl
  | word => exact isSpelled_wordKind _ _
  | illegal => rfl

/-- Every token stands for the text under its span. -/
theorem exists_cuts_of_mem_scan {source : String} {t : Token} (h : t ∈ scan source) :
    ∃ pre text post, t.span.Cuts source pre text post ∧ text ≠ "" ∧
      t.kind.IsSpelled text post := by
  obtain ⟨pre, c, more, hsource, hkind, hspan⟩ := exists_first_of_mem_scanFrom h
  refine ⟨String.ofList pre, String.ofList (c :: (first c more).2),
    String.ofList (more.drop (first c more).2.length), ?_, ?_, hkind ▸ isSpelled_first c more⟩
  · have hmore := List.prefix_iff_eq_append.mp (prefix_of_first c more)
    rw [Nat.zero_add] at hspan
    constructor
    · rw [← String.ofList_append, ← String.ofList_append, List.append_assoc, List.cons_append,
        hmore, ← hsource, String.ofList_toList]
    · rw [hspan, Text.utf8ByteSize_ofList]
    · rw [hspan, String.utf8ByteSize_append, Text.utf8ByteSize_ofList, Text.utf8ByteSize_ofList]
  · simp

end Token

end TrackCriteria
