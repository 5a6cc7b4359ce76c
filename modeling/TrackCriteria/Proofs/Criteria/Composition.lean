import TrackCriteria.Predicate.Resolve
import TrackCriteria.Proofs.Criteria.Canonical
import TrackCriteria.Proofs.Token.Seam

/-!
# Criteria made from the texts of others

A text that was read can be put in parentheses, negated, and joined to another one by `&&` or `||`;
the result is read as the tree that is made from the two trees in the same way
(`readsWithin_composed`). Each pair of parentheses and each `!` takes a level of nesting, and the
only thing that can go wrong is that there are too many of them.
-/

namespace TrackCriteria

open Calendar (ZonedTime)
open Token (kinds Scans)

/-! ### Texts in parentheses -/

theorem Token.isSeam_rightParen (rest : List Char) : Token.IsSeam (')' :: rest) := by
  rintro c ⟨⟩
  decide

/-- The tokens of a text in parentheses. A parenthesis in a quoted text is not one of them. -/
theorem Token.scans_group {source : String} (h : ∀ k ∈ kinds source.toList, k.IsLegal) :
    Scans ("(" ++ source ++ ")") (.leftParen :: (kinds source.toList ++ [.rightParen])) := by
  intro rest _
  have hclosed : .unterminatedString ∉ kinds source.toList := fun hmem => (h _ hmem).1 rfl
  have hsource : kinds (source.toList ++ ')' :: rest) =
      kinds source.toList ++ .rightParen :: kinds rest := by
    rw [kinds_append_of_isSeam hclosed (isSeam_rightParen rest), kinds_rightParen]
  rw [String.toList_append, String.toList_append, List.append_assoc, List.append_assoc,
    List.cons_append, List.append_assoc, List.singleton_append, ← hsource]
  exact kinds_leftParen _

namespace Criteria

/-- A source is read as criteria, unless operands that are nested `d` deep are nested too deep. -/
def ReadsWithin (source : String) (d : Nat) (e : Criteria) : Prop :=
  (d ≤ maxDepth → Criteria.parse source = .ok e) ∧
    (maxDepth < d → ∃ span, Criteria.parse source = .error (.nestingTooDeep span))

/-- A text with tokens that derive criteria is read as these. -/
theorem readsWithin_of_scans {source : String} {ks : List Token.Kind} {d : Nat} {e : Criteria}
    (hscan : Scans source ks) (h : Derives .disjunction d ks e) : ReadsWithin source d e := by
  refine parse_of_derives ?_
  rw [hscan.kinds_eq]
  exact h

end Criteria

/-- Whether a track satisfies the criteria that a source spells at a point in time. -/
def Track.satisfies (track : Track) (source : String) (now : ZonedTime) :
    Except SyntaxError Bool :=
  (Predicate.ofSource source now).map fun p => p.matches track

theorem Track.satisfies_of_parse {source : String} {e : Criteria}
    (h : Criteria.parse source = .ok e) (now : ZonedTime) (track : Track) :
    track.satisfies source now = .ok ((e.resolve now).matches track) := by
  rw [satisfies, Predicate.ofSource, h]
  rfl

/-! ### Composition -/

namespace Criteria

variable {s₁ s₂ : String} {e₁ e₂ : Criteria} {d₁ d₂ : Nat}

theorem readsWithin_group (hd₁ : Derives .disjunction d₁ (kinds s₁.toList) e₁) :
    ReadsWithin ("(" ++ s₁ ++ ")") (d₁ + 1) e₁ :=
  readsWithin_of_scans (Token.scans_group hd₁.isLegal)
    (.disjunction (.conjunction (.operand (.group hd₁))))

theorem readsWithin_not (hd₁ : Derives .disjunction d₁ (kinds s₁.toList) e₁) :
    ReadsWithin ("!(" ++ s₁ ++ ")") (d₁ + 2) (.not e₁) := by
  have htext : "!(" ++ s₁ ++ ")" = "!" ++ ("(" ++ s₁ ++ ")") := by
    rw [← String.append_assoc, ← String.append_assoc]
    rfl
  rw [htext]
  exact readsWithin_of_scans (Token.scans_group hd₁.isLegal).not
    (.disjunction (.conjunction (.not (.operand (.group hd₁)))))

/-- The text of a group, an operator and another group is that of the two groups joined. -/
theorem group_append_group (op : String) (s₁ s₂ : String) :
    "(" ++ s₁ ++ (")" ++ op ++ "(") ++ s₂ ++ ")" =
      ("(" ++ s₁ ++ ")") ++ op ++ ("(" ++ s₂ ++ ")") := by
  simp only [String.append_assoc]

theorem readsWithin_and (hd₁ : Derives .disjunction d₁ (kinds s₁.toList) e₁)
    (hd₂ : Derives .disjunction d₂ (kinds s₂.toList) e₂) :
    ReadsWithin ("(" ++ s₁ ++ ") && (" ++ s₂ ++ ")") (max (d₁ + 1) (d₂ + 1)) (.and e₁ e₂) := by
  rw [show ") && (" = ")" ++ " && " ++ "(" from rfl, group_append_group]
  exact readsWithin_of_scans
    ((Token.scans_group hd₁.isLegal).and (Token.scans_group hd₂.isLegal))
    (.disjunction (.and (.conjunction (.operand (.group hd₁))) (.operand (.group hd₂))))

theorem readsWithin_or (hd₁ : Derives .disjunction d₁ (kinds s₁.toList) e₁)
    (hd₂ : Derives .disjunction d₂ (kinds s₂.toList) e₂) :
    ReadsWithin ("(" ++ s₁ ++ ") || (" ++ s₂ ++ ")") (max (d₁ + 1) (d₂ + 1)) (.or e₁ e₂) := by
  rw [show ") || (" = ")" ++ " || " ++ "(" from rfl, group_append_group]
  exact readsWithin_of_scans
    ((Token.scans_group hd₁.isLegal).or (Token.scans_group hd₂.isLegal))
    (.or (.disjunction (.conjunction (.operand (.group hd₁))))
      (.conjunction (.operand (.group hd₂))))

/-- **Texts that were read compose through parentheses.** The negation of a text in parentheses, the
text in parentheses, and two of them joined by `&&` or `||` are read as the trees made in the same
way, and match the tracks that they should. A pair of parentheses takes one level of nesting and `!`
another one; if these are too many, that is the error. -/
theorem readsWithin_composed (h₁ : Criteria.parse s₁ = .ok e₁) (h₂ : Criteria.parse s₂ = .ok e₂)
    (hd₁ : Derives .disjunction d₁ (kinds s₁.toList) e₁)
    (hd₂ : Derives .disjunction d₂ (kinds s₂.toList) e₂) :
    ReadsWithin ("!(" ++ s₁ ++ ")") (d₁ + 2) (.not e₁) ∧
      ReadsWithin ("(" ++ s₁ ++ ")") (d₁ + 1) e₁ ∧
      ReadsWithin ("(" ++ s₁ ++ ") && (" ++ s₂ ++ ")") (max (d₁ + 1) (d₂ + 1)) (.and e₁ e₂) ∧
      ReadsWithin ("(" ++ s₁ ++ ") || (" ++ s₂ ++ ")") (max (d₁ + 1) (d₂ + 1)) (.or e₁ e₂) ∧
      ∀ (now : ZonedTime) (track : Track), ∃ b₁ b₂,
        track.satisfies s₁ now = .ok b₁ ∧ track.satisfies s₂ now = .ok b₂ ∧
          (d₁ + 2 ≤ maxDepth → track.satisfies ("!(" ++ s₁ ++ ")") now = .ok (!b₁)) ∧
          (max (d₁ + 1) (d₂ + 1) ≤ maxDepth →
            track.satisfies ("(" ++ s₁ ++ ") && (" ++ s₂ ++ ")") now = .ok (b₁ && b₂) ∧
              track.satisfies ("(" ++ s₁ ++ ") || (" ++ s₂ ++ ")") now = .ok (b₁ || b₂)) := by
  have hnot := readsWithin_not hd₁
  have hand := readsWithin_and hd₁ hd₂
  have hor := readsWithin_or hd₁ hd₂
  refine ⟨hnot, readsWithin_group hd₁, hand, hor, fun now track => ?_⟩
  refine ⟨_, _, Track.satisfies_of_parse h₁ now track, Track.satisfies_of_parse h₂ now track,
    ?_, ?_⟩
  · intro hd
    exact Track.satisfies_of_parse (hnot.1 hd) now track
  · intro hd
    exact ⟨Track.satisfies_of_parse (hand.1 hd) now track,
      Track.satisfies_of_parse (hor.1 hd) now track⟩

/-- The parentheses and operators in a quoted text are not taken for those around it. -/
theorem readsWithin_composed_quoted :
    ∃ (s₁ s₂ : String) (e₁ e₂ : Criteria), s₁ = "!album:\") || (\"" ∧ s₂ = "clean" ∧
      Criteria.parse s₁ = .ok e₁ ∧ Criteria.parse s₂ = .ok e₂ ∧
      Criteria.parse ("(" ++ s₁ ++ ") && (" ++ s₂ ++ ")") = .ok (.and e₁ e₂) := by
  have hd₁ : Derives .disjunction 2 (kinds "!album:\") || (\"".toList)
      (.not (.atom (.text .album ") || ("))) := by
    have hkinds : kinds "!album:\") || (\"".toList =
        [.not, .keyword (.text .album), .colon, .string ") || ("] := by decide +kernel
    rw [hkinds]
    exact .disjunction (.conjunction (.not (.operand (.test (.text .album _)))))
  have hd₂ : Derives .disjunction 1 (kinds "clean".toList) (.atom .clean) := by
    have hkinds : kinds "clean".toList = [.keyword .clean] := by decide +kernel
    rw [hkinds]
    exact .disjunction (.conjunction (.operand (.test .clean)))
  have h₁ := (parse_of_derives hd₁).1 (by decide)
  have h₂ := (parse_of_derives hd₂).1 (by decide)
  obtain ⟨-, -, hand, -⟩ := readsWithin_composed h₁ h₂ hd₁ hd₂
  exact ⟨_, _, _, _, rfl, rfl, h₁, h₂, hand.1 (by decide)⟩

end Criteria

end TrackCriteria
