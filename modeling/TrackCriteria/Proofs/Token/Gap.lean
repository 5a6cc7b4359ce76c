import TrackCriteria.Proofs.Token.Span
import TrackCriteria.Proofs.Token.Tiling

/-!
# White space between tokens

A text can be cut where no token is in the way, and the tokens of the whole are those of the two
parts (`scanFrom_append_of_gap`). No token goes on into white space. So white space can be put in
between any two tokens, where there has been some or not: the tokens stay what they are, and those
behind the gap move by as many bytes as are put in (`scanFrom_insert`).
-/

namespace TrackCriteria

/-- A span so many bytes further on. -/
def Span.later (s : Span) (n : Nat) : Span :=
  ⟨s.start + n, s.stop + n⟩

theorem Span.later_later (s : Span) (m n : Nat) : (s.later m).later n = s.later (m + n) := by
  simp [later, Nat.add_assoc]

namespace Token

open Text (byteLength byteLength_append isWhiteSpace prefix_of_byteLength_le)

variable {cs rest : List Char} {t : Token} {start taken : Nat}

/-! ### Cutting a text between tokens -/

/-- Whether a token does not go on across a byte of the source. -/
def IsBeside (t : Token) (byte : Nat) : Prop :=
  byte ≤ t.span.start ∨ t.span.stop ≤ byte

instance (t : Token) (byte : Nat) : Decidable (t.IsBeside byte) :=
  inferInstanceAs (Decidable (_ ∨ _))

/-- The tokens of a text are those in front of a gap and those behind it. -/
theorem scanFrom_append_of_gap (htaken : taken ≤ cs.length)
    (hgap : ∀ t ∈ scanFrom start taken (cs ++ rest), t.IsBeside (start + byteLength cs)) :
    scanFrom start taken (cs ++ rest) =
      scanFrom start taken cs ++ scanFrom (start + byteLength cs) 0 rest := by
  induction cs generalizing start taken with
  | nil =>
    obtain rfl := Nat.le_zero.mp htaken
    rfl
  | cons c cs ih =>
    rw [byteLength, ← Nat.add_assoc] at hgap ⊢
    cases taken with
    | succ taken => exact ih (Nat.le_of_succ_le_succ htaken) hgap
    | zero =>
      rw [List.cons_append, scanFrom] at hgap
      rw [List.cons_append, scanFrom, scanFrom]
      split
      · next h =>
        rw [if_pos h] at hgap
        exact ih (Nat.zero_le _) hgap
      · next h =>
        rw [if_neg h] at hgap
        obtain ⟨hfirst, hgap⟩ := List.forall_mem_cons.mp hgap
        -- The token at the front starts before the gap, so it ends before it too.
        replace hfirst : start + c.utf8Size + byteLength cs ≤ start ∨
            start + (c.utf8Size + byteLength (first c (cs ++ rest)).2) ≤
              start + c.utf8Size + byteLength cs := hfirst
        have hle : byteLength (first c (cs ++ rest)).2 ≤ byteLength cs := by
          have hpos := c.utf8Size_pos
          omega
        have hprefix : (first c (cs ++ rest)).2 <+: cs :=
          prefix_of_byteLength_le (prefix_of_first c _) (List.prefix_append _ _) hle
        have hsame : first c cs = first c (cs ++ rest) :=
          first_of_isPrefix c _ hprefix (List.prefix_append _ _)
        rw [hsame, List.cons_append]
        exact congrArg _ (ih hprefix.length_le hgap)

/-- No token goes on into white space. -/
theorem isSeam_of_isWhiteSpace {c : Char} (h : isWhiteSpace c = true) : IsSeam (c :: rest) := by
  rintro _ ⟨⟩
  refine ⟨Text.not_isWordChar_of_isWhiteSpace h, Text.not_isValueChar_of_isWhiteSpace h, ?_⟩
  intro hc
  simp only [List.mem_cons, List.not_mem_nil, or_false] at hc
  rcases hc with rfl | rfl | rfl <;> exact absurd h (by decide)

/-! ### Moving tokens -/

/-- A text that starts later has the same tokens later. -/
theorem scanFrom_add (start n taken : Nat) (cs : List Char) :
    scanFrom (start + n) taken cs =
      (scanFrom start taken cs).map fun t => ⟨t.kind, t.span.later n⟩ := by
  -- By induction on the text. The kinds come from the characters, and only the places are counted
  -- on.
  induction cs generalizing start taken with
  | nil => rfl
  | cons c cs ih =>
    cases taken with
    | succ taken =>
      rw [scanFrom, scanFrom, Nat.add_right_comm]
      exact ih _ _
    | zero =>
      rw [scanFrom, scanFrom, Nat.add_right_comm]
      split
      · exact ih _ _
      · dsimp only
        rw [List.map_cons, ih, Span.later, Nat.add_right_comm start]

/-- Every token of a text starts in it. -/
theorem start_lt_of_mem_scanFrom (h : t ∈ scanFrom start taken cs) :
    t.span.start < start + byteLength cs := by
  obtain ⟨pre, c, more, rfl, -, hspan⟩ := exists_first_of_mem_scanFrom h
  have hpos := c.utf8Size_pos
  rw [hspan, byteLength_append]
  simp only [byteLength]
  omega

/-- No token is empty. -/
theorem start_lt_stop_of_mem_scanFrom (h : t ∈ scanFrom start taken cs) :
    t.span.start < t.span.stop := by
  obtain ⟨pre, c, more, -, -, hspan⟩ := exists_first_of_mem_scanFrom h
  have hpos := c.utf8Size_pos
  rw [hspan]
  simp only [byteLength]
  omega

/-- No token has the empty span at the front of the source. -/
theorem span_ne_front {source : String} (h : t ∈ scan source) : t.span ≠ ⟨0, 0⟩ := by
  intro hfront
  have hlt := start_lt_stop_of_mem_scanFrom h
  rw [hfront] at hlt
  exact Nat.lt_irrefl _ hlt

/-! ### Putting white space in -/

/-- White space between two tokens leaves them what they are and moves those behind it. -/
theorem scanFrom_insert {pre blanks post : List Char}
    (hblanks : ∀ b ∈ blanks, isWhiteSpace b = true)
    (hgap : ∀ t ∈ scanFrom 0 0 (pre ++ post), t.IsBeside (byteLength pre))
    (hclosed : ∀ t ∈ scanFrom 0 0 (pre ++ post), t.kind ≠ .unterminatedString) :
    scanFrom 0 0 (pre ++ (blanks ++ post)) = (scanFrom 0 0 (pre ++ post)).map fun t =>
      ⟨t.kind, t.span.later (if byteLength pre ≤ t.span.start then byteLength blanks else 0)⟩ := by
  have hcut := scanFrom_append_of_gap (Nat.zero_le pre.length) (by rwa [Nat.zero_add])
  rw [Nat.zero_add] at hcut
  have hfront : ∀ t ∈ scanFrom 0 0 pre, ¬byteLength pre ≤ t.span.start := by
    intro t ht
    have hlt := start_lt_of_mem_scanFrom ht
    omega
  have hback : ∀ t ∈ scanFrom (byteLength pre) 0 post, byteLength pre ≤ t.span.start :=
    fun t => le_start_of_mem_scanFrom
  rw [hcut] at hclosed ⊢
  -- What is in front of the gap is not changed by what is put in.
  have hjoin : scanFrom 0 0 (pre ++ (blanks ++ post)) =
      scanFrom 0 0 pre ++ scanFrom (byteLength pre) 0 (blanks ++ post) := by
    cases blanks with
    | nil => exact hcut
    | cons b blanks =>
      have hseam : IsSeam (b :: (blanks ++ post)) :=
        isSeam_of_isWhiteSpace (hblanks b List.mem_cons_self)
      have happend := scanFrom_append (Nat.zero_le pre.length)
        (fun t ht => hclosed t (List.mem_append_left _ ht)) hseam
      rwa [Nat.zero_add] at happend
  rw [hjoin, scanFrom_blanks hblanks, scanFrom_add, List.map_append]
  congr 1
  · refine (List.map_id _).symm.trans (List.map_congr_left fun t ht => ?_)
    rw [if_neg (hfront t ht)]
    rfl
  · refine List.map_congr_left fun t ht => ?_
    rw [if_pos (hback t ht)]

end Token

end TrackCriteria
