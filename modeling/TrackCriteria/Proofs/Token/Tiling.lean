import TrackCriteria.Proofs.Token.Lexeme

/-!
# Tokens and white space make up the source

A scan asks for the next token until there is none (`next?`, `Yields`): white space is passed over,
and then a token is taken. Each time the text gets shorter, so this comes to an end, and what it
yields is the scan (`yields_iff_eq_scan`).

What one token leaves to the next one is the text behind it, so the tokens stand one after the other
(`Yields.pairwise`) and every character is one of a token or white space (`Yields.isWhiteSpace`).
Together with the form of each token that is all there is to say about a scan (`scan_partitions`).
-/

namespace TrackCriteria.Token

open Text (byteLength byteLength_append isWhiteSpace)

/-! ### Asking for the next token -/

/-- The next token of a text that starts at a byte of the source, and the text behind the token. -/
def next? (start : Nat) (cs : List Char) : Option (Token × List Char) :=
  match cs.dropWhile isWhiteSpace with
  | [] => none
  | c :: cs' =>
    let start := start + byteLength (cs.takeWhile isWhiteSpace)
    let more := (first c cs').2
    some (⟨(first c cs').1, start, start + byteLength (c :: more)⟩, cs'.drop more.length)

/-- Whether a text that starts at a byte of the source yields just these tokens, one after the other.
-/
inductive Yields : Nat → List Char → List Token → Prop where
  | stop {start : Nat} {cs : List Char} (h : next? start cs = none) : Yields start cs []
  | token {start : Nat} {cs rest : List Char} {t : Token} {ts : List Token}
    (h : next? start cs = some (t, rest)) (hrest : Yields t.span.stop rest ts) :
    Yields start cs (t :: ts)

variable {start : Nat} {cs rest : List Char} {t : Token} {ts : List Token}

/-- There is no next token iff only white space is left. -/
theorem next?_eq_none : next? start cs = none ↔ ∀ c ∈ cs, isWhiteSpace c = true := by
  rw [← List.dropWhile_eq_nil_iff]
  unfold next?
  split
  · next h => exact iff_of_true rfl h
  · next h => exact iff_of_false (by rintro ⟨⟩) (by rw [h]; rintro ⟨⟩)

/-- What the next token takes: white space is in front of it, and the rest is left as it is. -/
theorem next?_eq_some (h : next? start cs = some (t, rest)) :
    ∃ blanks c more, cs = blanks ++ (c :: more ++ rest) ∧ (∀ b ∈ blanks, isWhiteSpace b = true) ∧
      isWhiteSpace c = false ∧ first c (more ++ rest) = (t.kind, more) ∧
      t.span = ⟨start + byteLength blanks, start + byteLength (blanks ++ (c :: more))⟩ := by
  unfold next? at h
  split at h
  · cases h
  · next c cs' hdrop =>
    simp only [Option.some.injEq, Prod.mk.injEq] at h
    obtain ⟨rfl, rfl⟩ := h
    have hmore := List.prefix_iff_eq_append.mp (prefix_of_first c cs')
    -- What is left of the text without its blanks does not start with one.
    have hc : isWhiteSpace c = false := by
      have hhead := List.head?_dropWhile_not isWhiteSpace cs
      rwa [hdrop] at hhead
    refine ⟨cs.takeWhile isWhiteSpace, c, (first c cs').2, ?_, fun b => List.mem_takeWhile_imp, hc,
      ?_, ?_⟩
    · rw [List.cons_append, hmore, ← hdrop, List.takeWhile_append_dropWhile]
    · rw [hmore]
    · rw [byteLength_append, Nat.add_assoc]

/-! ### What is yielded in the end -/

theorem Yields.unique {ts' : List Token} (h : Yields start cs ts) (h' : Yields start cs ts') :
    ts = ts' := by
  -- The next token is a function of the text, so both lists have it or both end.
  induction h generalizing ts' with
  | stop hnone =>
    cases h' with
    | stop => rfl
    | token hsome =>
      rw [hnone] at hsome
      cases hsome
  | token hsome _ ih =>
    cases h' with
    | stop hnone =>
      rw [hsome] at hnone
      cases hnone
    | token hsome' hrest' =>
      rw [hsome] at hsome'
      obtain ⟨rfl, rfl⟩ := Prod.mk.inj (Option.some.inj hsome')
      rw [ih hrest']

/-- The characters of a token that has been read are passed over. -/
theorem scanFrom_eq (start taken : Nat) (cs : List Char) :
    scanFrom start taken cs = scanFrom (start + byteLength (cs.take taken)) 0 (cs.drop taken) := by
  induction cs generalizing start taken with
  | nil => rw [List.take_nil, List.drop_nil, scanFrom, scanFrom]
  | cons c cs ih =>
    cases taken with
    | zero => rfl
    | succ taken =>
      rw [scanFrom, ih, List.take_succ_cons, List.drop_succ_cons, byteLength, Nat.add_assoc]

theorem scanFrom_blanks {blanks : List Char} (h : ∀ b ∈ blanks, isWhiteSpace b = true) (start : Nat)
    (cs : List Char) :
    scanFrom start 0 (blanks ++ cs) = scanFrom (start + byteLength blanks) 0 cs := by
  induction blanks generalizing start with
  | nil => rfl
  | cons b blanks ih =>
    obtain ⟨hb, hblanks⟩ := List.forall_mem_cons.mp h
    rw [List.cons_append, scanFrom, if_pos hb, ih hblanks, byteLength, Nat.add_assoc]

/-- A scan takes a token at the front and goes on behind it. -/
theorem scanFrom_append_of_first {kind : Kind} {c : Char} {more : List Char}
    (hc : isWhiteSpace c = false) (hfirst : first c (more ++ rest) = (kind, more)) (start : Nat) :
    scanFrom start 0 (c :: (more ++ rest)) = ⟨kind, start, start + byteLength (c :: more)⟩ ::
      scanFrom (start + byteLength (c :: more)) 0 rest := by
  have hmore : scanFrom (start + c.utf8Size) more.length (more ++ rest) =
      scanFrom (start + byteLength (c :: more)) 0 rest := by
    rw [scanFrom_eq, List.take_left, List.drop_left, byteLength, Nat.add_assoc]
  rw [scanFrom, if_neg (by rw [hc]; exact Bool.false_ne_true), hfirst, ← hmore]

/-- A scan goes on behind the next token. -/
theorem scanFrom_of_next? (h : next? start cs = some (t, rest)) :
    scanFrom start 0 cs = t :: scanFrom t.span.stop 0 rest := by
  obtain ⟨blanks, c, more, rfl, hblanks, hc, hfirst, hspan⟩ := next?_eq_some h
  obtain ⟨kind, span⟩ := t
  obtain rfl : span = _ := hspan
  rw [scanFrom_blanks hblanks, List.cons_append, scanFrom_append_of_first hc hfirst, Nat.add_assoc,
    ← byteLength_append]

/-- Asking for tokens comes to an end, since each of them makes the text shorter. -/
theorem yields_scanFrom (start : Nat) (cs : List Char) :
    Yields start cs (scanFrom start 0 cs) := by
  -- By induction on the length of the text, as a token takes an unknown number of characters.
  induction hn : cs.length using Nat.strong_induction_on generalizing start cs with
  | _ n ih =>
    cases hnext : next? start cs with
    | none =>
      have hblank := scanFrom_blanks (next?_eq_none.mp hnext) start []
      rw [List.append_nil] at hblank
      rw [hblank]
      exact .stop hnext
    | some next =>
      obtain ⟨t, rest⟩ := next
      obtain ⟨blanks, c, more, hcs, -⟩ := next?_eq_some hnext
      have hlt : rest.length < n := by
        rw [← hn, hcs]
        simp only [List.length_append, List.length_cons]
        omega
      rw [scanFrom_of_next? hnext]
      exact .token hnext (ih _ hlt _ _ rfl)

theorem yields_iff_eq_scan {source : String} {ts : List Token} :
    Yields 0 source.toList ts ↔ ts = scan source := by
  constructor
  · intro h
    exact h.unique (yields_scanFrom 0 source.toList)
  · rintro rfl
    exact yields_scanFrom 0 source.toList

/-! ### Where the tokens stand -/

/-- The next token starts and stops behind the start of the text. -/
theorem start_le_of_next? (h : next? start cs = some (t, rest)) :
    start ≤ t.span.start ∧ t.span.start ≤ t.span.stop := by
  obtain ⟨blanks, c, more, -, -, -, -, hspan⟩ := next?_eq_some h
  rw [hspan, byteLength_append]
  dsimp only
  omega

theorem Yields.start_le (h : Yields start cs ts) : ∀ t ∈ ts, start ≤ t.span.start := by
  induction h with
  | stop => exact List.forall_mem_nil _
  | token hnext _ ih =>
    obtain ⟨hstart, hstop⟩ := start_le_of_next? hnext
    refine List.forall_mem_cons.mpr ⟨hstart, fun t ht => ?_⟩
    have hle := ih t ht
    omega

/-- The tokens stand one after the other. -/
theorem Yields.pairwise (h : Yields start cs ts) :
    ts.Pairwise fun t u => t.span.stop ≤ u.span.start := by
  induction h with
  | stop => exact List.Pairwise.nil
  | token _ hrest ih => exact List.pairwise_cons.mpr ⟨hrest.start_le, ih⟩

/-- Every token is the first one of what is left of the text where it starts. -/
theorem Yields.exists_first (h : Yields start cs ts) (ht : t ∈ ts) :
    ∃ pre c more post, cs = pre ++ (c :: more ++ post) ∧ isWhiteSpace c = false ∧
      first c (more ++ post) = (t.kind, more) ∧
      t.span = ⟨start + byteLength pre, start + byteLength (pre ++ (c :: more))⟩ := by
  induction h with
  | stop => cases ht
  | @token start cs rest u ts hnext _ ih =>
    obtain ⟨blanks, c, more, rfl, -, hc, hfirst, hspan⟩ := next?_eq_some hnext
    -- It is the next token, or it is a token of the rest, in front of which stands the next one.
    rcases List.mem_cons.mp ht with rfl | ht
    · exact ⟨blanks, c, more, rest, rfl, hc, hfirst, hspan⟩
    · obtain ⟨pre, c', more', post, rfl, hc', hfirst', hspan'⟩ := ih ht
      refine ⟨blanks ++ (c :: more) ++ pre, c', more', post, ?_, hc', hfirst', ?_⟩
      · simp only [List.append_assoc]
      · rw [hspan', hspan]
        simp only [byteLength_append, Nat.add_assoc]

/-- Either a character stands in the first of two texts, or in the second one. -/
theorem append_eq_append_cons {pre post front back : List Char} {c : Char}
    (h : front ++ back = pre ++ c :: post) :
    (∃ more, front = pre ++ c :: more) ∨ ∃ pre', pre = front ++ pre' ∧ back = pre' ++ c :: post := by
  rcases List.append_eq_append_iff.mp h with ⟨pre', hpre, hback⟩ | ⟨more, hfront, hpost⟩
  · exact .inr ⟨pre', hpre, hback⟩
  · cases more with
    | nil =>
      rw [List.append_nil] at hfront
      exact .inr ⟨[], by rw [hfront, List.append_nil], hpost.symm⟩
    | cons d more =>
      cases hpost
      exact .inl ⟨more, hfront⟩

/-- What no token covers is white space. -/
theorem Yields.isWhiteSpace {pre post : List Char} {c : Char} (h : Yields start cs ts)
    (hcs : cs = pre ++ c :: post)
    (hout : ∀ t ∈ ts, start + byteLength pre < t.span.start ∨ t.span.stop ≤ start + byteLength pre) :
    isWhiteSpace c = true := by
  induction h generalizing pre with
  | stop hnone =>
    rw [hcs] at hnone
    exact next?_eq_none.mp hnone c (by simp)
  | @token start cs rest t ts hnext _ ih =>
    obtain ⟨blanks, c', more, hcs', hblanks, -, -, hspan⟩ := next?_eq_some hnext
    obtain ⟨ht, hts⟩ := List.forall_mem_cons.mp hout
    rw [hspan] at ht ih
    rcases append_eq_append_cons (hcs'.symm.trans hcs) with ⟨more', rfl⟩ | ⟨pre', rfl, hpre'⟩
    · exact hblanks c (by simp)
    rcases append_eq_append_cons hpre' with ⟨more', hmore⟩ | ⟨pre'', rfl, hpre''⟩
    · -- The character is one of the token.
      exfalso
      have hpos := c.utf8Size_pos
      rw [hmore] at ht
      simp only [byteLength_append, byteLength] at ht
      omega
    · refine ih hpre'' fun u hu => ?_
      have hu := hts u hu
      rw [← List.append_assoc, byteLength_append, ← Nat.add_assoc] at hu
      exact hu

/-- Nothing follows a quote that is never closed. -/
theorem Yields.eq_nil_of_unterminated {front back : List Token} (h : Yields start cs ts)
    (hts : ts = front ++ t :: back) (hkind : t.kind = .unterminatedString) :
    back = [] ∧ t.span.stop = start + byteLength cs := by
  induction h generalizing front with
  | stop => simp at hts
  | @token start cs rest u ts hnext hrest ih =>
    obtain ⟨blanks, c, more, hcs, -, -, hfirst, hspan⟩ := next?_eq_some hnext
    cases front with
    | nil =>
      obtain ⟨rfl, rfl⟩ := List.cons.inj hts
      have hspelled := isSpelled_first c (more ++ rest)
      rw [hfirst, hkind, List.drop_left] at hspelled
      -- A string without its closing quote has taken all of the text, so no token can follow.
      obtain rfl : rest = [] := by simpa [Kind.IsSpelled] using hspelled.2
      cases hrest with
      | stop => exact ⟨rfl, by rw [hspan, hcs, List.append_nil]⟩
      | token hnext' => cases hnext'
    | cons v front =>
      -- The quote is opened behind the next token, in what is left of the text.
      obtain ⟨-, hts⟩ := List.cons.inj hts
      obtain ⟨hback, hstop⟩ := ih hts
      refine ⟨hback, ?_⟩
      rw [hstop, hspan, hcs]
      simp only [byteLength_append, Nat.add_assoc]

/-! ### The tokens of a source -/

/-- The text of a token is scanned as this token where it stands alone. -/
theorem scan_of_first {kind : Kind} {c : Char} {more : List Char} (hc : isWhiteSpace c = false)
    (hfirst : first c more = (kind, more)) :
    scan (String.ofList (c :: more)) = [⟨kind, 0, byteLength (c :: more)⟩] := by
  have hnil : first c (more ++ []) = (kind, more) := by rwa [List.append_nil]
  have happend := scanFrom_append_of_first hc hnil 0
  rw [List.append_nil, Nat.zero_add] at happend
  rw [scan, String.toList_ofList, happend]
  rfl

/-- **A scan loses nothing and invents nothing.** Asking for tokens comes to an end and yields those
of the scan. Their spans are not empty, lie in the source one after the other, and their ends are
between characters; every character outside of them is white space. The text of a token is that of
its kind and goes on as far as it can, and by itself it is a token of the same kind. A quote that is
not closed is the last token and reaches to the end. -/
theorem scan_partitions (source : String) :
    (∀ ts, Yields 0 source.toList ts ↔ ts = scan source) ∧
    ((scan source).Pairwise fun t u => t.span.stop ≤ u.span.start) ∧
    (∀ t ∈ scan source, ∃ pre text post, t.span.Cuts source pre text post ∧
      t.span.start < t.span.stop ∧ t.span.stop ≤ source.utf8ByteSize ∧
      t.kind.IsSpelled text post ∧ t.kind.IsFormed text.toList ∧
      t.kind.IsMaximal text.toList post.toList ∧
      scan text = [⟨t.kind, 0, text.utf8ByteSize⟩]) ∧
    (∀ pre c post, source = pre ++ String.singleton c ++ post →
      (∀ t ∈ scan source, pre.utf8ByteSize < t.span.start ∨ t.span.stop ≤ pre.utf8ByteSize) →
        isWhiteSpace c = true) ∧
    ∀ front t back, scan source = front ++ t :: back → t.kind = .unterminatedString →
      back = [] ∧ t.span.stop = source.utf8ByteSize := by
  have hyields := yields_scanFrom 0 source.toList
  refine ⟨fun ts => yields_iff_eq_scan, hyields.pairwise, ?_, ?_, ?_⟩
  · -- A token: its place, its text, and that this text is scanned as the token alone.
    intro t ht
    obtain ⟨pre, c, more, post, hsource, hc, hfirst, hspan⟩ := hyields.exists_first ht
    have hcuts : t.span.Cuts source (String.ofList pre) (String.ofList (c :: more))
        (String.ofList post) := by
      rw [Nat.zero_add, Nat.zero_add] at hspan
      constructor
      · rw [← String.ofList_append, ← String.ofList_append, List.append_assoc, ← hsource,
          String.ofList_toList]
      · rw [hspan, Text.utf8ByteSize_ofList]
      · rw [hspan, ← String.ofList_append, Text.utf8ByteSize_ofList]
    have hspelled := isSpelled_first c (more ++ post)
    have hformed := isFormed_first c (more ++ post) hc
    have hmaximal := isMaximal_first c (more ++ post)
    have hself := first_self c (more ++ post)
    rw [hfirst] at hspelled hformed hmaximal hself
    rw [List.drop_left] at hspelled hmaximal
    refine ⟨_, _, _, hcuts, hcuts.start_lt_stop (by simp), hcuts.stop_le, hspelled, ?_, ?_, ?_⟩
    · rwa [String.toList_ofList]
    · rwa [String.toList_ofList, String.toList_ofList]
    · rw [Text.utf8ByteSize_ofList]
      exact scan_of_first hc hself
  · -- A character outside of all tokens.
    intro pre c post hsource hout
    have hchars : source.toList = pre.toList ++ c :: post.toList := by
      rw [hsource]
      simp
    refine hyields.isWhiteSpace hchars ?_
    rw [Nat.zero_add, ← Text.utf8ByteSize_ofList, String.ofList_toList]
    exact hout
  · -- A quote that is not closed.
    intro front t back hscan hkind
    obtain ⟨hback, hstop⟩ := hyields.eq_nil_of_unterminated hscan hkind
    refine ⟨hback, ?_⟩
    rw [hstop, Nat.zero_add, ← Text.utf8ByteSize_ofList, String.ofList_toList]

/-- In `7é & "x` the date ends in front of a letter that is not ASCII, a single `&` is illegal, and
the quote takes in the rest. -/
theorem scan_partitions_unclosed :
    scan "7é & \"x" = [⟨.value "7", 0, 1⟩, ⟨.identifier "é", 1, 3⟩, ⟨.illegal '&', 4, 5⟩,
        ⟨.unterminatedString, 6, 8⟩] ∧
      (∃ pre text post, Span.Cuts ⟨0, 1⟩ "7é & \"x" pre text post ∧ text = "7" ∧
        (Kind.value "7").IsFormed text.toList ∧
        (Kind.value "7").IsMaximal text.toList post.toList ∧
        scan text = [⟨.value "7", 0, text.utf8ByteSize⟩]) ∧
      isWhiteSpace ' ' = true ∧ (8 : Nat) = "7é & \"x".utf8ByteSize := by
  have hscan : scan "7é & \"x" = [⟨.value "7", 0, 1⟩, ⟨.identifier "é", 1, 3⟩,
      ⟨.illegal '&', 4, 5⟩, ⟨.unterminatedString, 6, 8⟩] := by decide +kernel
  obtain ⟨-, -, htokens, hblank, hlast⟩ := scan_partitions "7é & \"x"
  rw [hscan] at htokens hblank hlast
  obtain ⟨pre, text, post, hcuts, -, -, hspelled, hformed, hmaximal, hself⟩ :=
    htokens _ List.mem_cons_self
  refine ⟨hscan, ⟨pre, text, post, hcuts, hspelled, hformed, hmaximal, hself⟩, ?_, ?_⟩
  · exact hblank "7é" ' ' "& \"x" (by decide) (by decide)
  · exact (hlast [⟨.value "7", 0, 1⟩, ⟨.identifier "é", 1, 3⟩, ⟨.illegal '&', 4, 5⟩] _ [] rfl rfl).2

end TrackCriteria.Token
