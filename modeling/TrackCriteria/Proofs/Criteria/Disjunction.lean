import TrackCriteria.Proofs.Criteria.Composition
import Mathlib.Data.List.Forall2

/-!
# Criteria joined by `||`

Two texts that were read can be joined by `||` without parentheses. The result is read whatever the
two are, with operands nested no deeper than before, and asks for one or the other (`parse_or`).

Since chains are folded to the left, the result is not the disjunction of the two trees: the
operands of the second one are joined to the first tree one after the other. These operands are what
stands between those `||` that are outside of all parentheses (`disjuncts`).
-/

namespace TrackCriteria

open Calendar (ZonedTime)

/-! ### Cutting tokens at `||` -/

namespace Token

/-- The number of parentheses that are open after a token. -/
def Kind.groupsAfter (groups : Nat) : Kind → Nat
  | .leftParen => groups + 1
  | .rightParen => groups - 1
  | _ => groups

/-- The tokens that stand between those `||` that are outside of all parentheses, where some
parentheses are open already. -/
def disjunctsFrom : Nat → List Kind → List (List Kind)
  | _, [] => [[]]
  | groups, k :: ks =>
    if k = .or ∧ groups = 0 then [] :: disjunctsFrom 0 ks
    else (disjunctsFrom (k.groupsAfter groups) ks).modifyHead (k :: ·)

/-- The tokens that stand between those `||` that are outside of all parentheses. -/
def disjuncts (ks : List Kind) : List (List Kind) :=
  disjunctsFrom 0 ks

/-- Whether tokens are not cut anywhere, and leave as many parentheses open as there were. -/
def IsWhole (groups : Nat) (ks : List Kind) : Prop :=
  ∀ rest, disjunctsFrom groups (ks ++ rest) = (disjunctsFrom groups rest).modifyHead (ks ++ ·)

variable {groups : Nat} {k : Kind} {ks ks' : List Kind}

theorem IsWhole.append (h : IsWhole groups ks) (h' : IsWhole groups ks') :
    IsWhole groups (ks ++ ks') := by
  intro rest
  rw [List.append_assoc, h, h', List.modifyHead_modifyHead]
  simp only [Function.comp_def, List.append_assoc]

theorem isWhole_nil (groups : Nat) : IsWhole groups [] := by
  intro rest
  rw [List.nil_append]
  cases disjunctsFrom groups rest <;> rfl

theorem isWhole_singleton (hgroups : k.groupsAfter groups = groups)
    (hor : k = .or → 0 < groups) : IsWhole groups [k] := by
  intro rest
  have hcut : ¬(k = .or ∧ groups = 0) := fun ⟨hk, hzero⟩ => absurd (hor hk) (by omega)
  rw [List.singleton_append, disjunctsFrom, if_neg hcut, hgroups]
  rfl

theorem IsWhole.cons (hgroups : k.groupsAfter groups = groups) (hor : k = .or → 0 < groups)
    (h : IsWhole groups ks) : IsWhole groups (k :: ks) :=
  (isWhole_singleton hgroups hor).append h

/-- A group is not cut whatever is inside of it. -/
theorem IsWhole.group (h : IsWhole (groups + 1) ks) :
    IsWhole groups (.leftParen :: (ks ++ [.rightParen])) := by
  intro rest
  have hopen : ∀ ks, disjunctsFrom groups (.leftParen :: ks) =
      (disjunctsFrom (groups + 1) ks).modifyHead (.leftParen :: ·) :=
    fun ks => if_neg (by rintro ⟨⟨⟩, -⟩)
  have hclose : ∀ ks, disjunctsFrom (groups + 1) (.rightParen :: ks) =
      (disjunctsFrom groups ks).modifyHead (.rightParen :: ·) :=
    fun ks => if_neg (by rintro ⟨⟨⟩, -⟩)
  rw [List.cons_append, hopen, List.append_assoc, h, List.singleton_append, hclose]
  simp only [List.modifyHead_modifyHead, Function.comp_def, List.append_assoc, List.cons_append,
    List.nil_append]

/-- Tokens that are not cut themselves are what is found between the `||` that join them. -/
theorem disjuncts_append {kss : List (List Kind)} (hks : IsWhole 0 ks)
    (hkss : ∀ ks ∈ kss, IsWhole 0 ks) :
    disjuncts (ks ++ kss.flatMap (.or :: ·)) = ks :: kss := by
  rw [disjuncts, hks]
  induction kss generalizing ks with
  | nil => simp [disjunctsFrom]
  | cons ks' kss ih =>
    obtain ⟨hks', hkss⟩ := List.forall_mem_cons.mp hkss
    rw [List.flatMap_cons, List.cons_append, disjunctsFrom, if_pos ⟨rfl, rfl⟩, hks', ih hks' hkss]
    simp

end Token

open Token (kinds disjuncts IsWhole)

/-! ### The operands of a derivation -/

variable {rule : Rule} {d d₁ d₂ : Nat} {ks ks₁ : List Token.Kind} {e e₁ : Criteria}

theorem Spells.isWhole {a : Atom} (h : Spells ks a) (groups : Nat) : IsWhole groups ks := by
  have hnil := Token.isWhole_nil groups
  cases h with
  | clean | explicit | unlabeled => exact hnil.cons rfl (by simp)
  | text | date =>
    exact ((hnil.cons rfl (by simp)).cons rfl (by simp)).cons rfl (by simp)

/-- Outside of parentheses only a disjunction is cut. -/
theorem Derives.isWhole (h : Derives rule d ks e) :
    ∀ groups, (rule = .disjunction → 0 < groups) → IsWhole groups ks := by
  -- A disjunction stands in a group or nowhere, and what is in a group is not cut.
  induction h with
  | disjunction _ ih => exact fun groups _ => ih groups (by simp)
  | or _ _ ihl ihr =>
    intro groups hpos
    exact (ihl groups hpos).append ((ihr groups (by simp)).cons rfl fun _ => hpos rfl)
  | conjunction _ ih => exact fun groups _ => ih groups (by simp)
  | and _ _ ihl ihr =>
    intro groups _
    exact (ihl groups (by simp)).append ((ihr groups (by simp)).cons rfl (by simp))
  | operand _ ih => exact fun groups _ => ih groups (by simp)
  | not _ ih => exact fun groups _ => (ih groups (by simp)).cons rfl (by simp)
  | group _ ih => exact fun groups _ => (ih (groups + 1) (by simp)).group
  | test h => exact fun groups _ => h.isWhole groups

/-- Whether tokens derive criteria as conjunctions, list by list, with operands nested at most `d`
deep. -/
def DeriveConjunctions (d : Nat) (kss : List (List Token.Kind)) (es : List Criteria) : Prop :=
  List.Forall₂ (fun ks e => ∃ d' ≤ d, Derives .conjunction d' ks e) kss es

theorem DeriveConjunctions.mono {kss : List (List Token.Kind)} {es : List Criteria}
    (h : DeriveConjunctions d kss es) (hd : d ≤ d₁) : DeriveConjunctions d₁ kss es :=
  List.Forall₂.imp (fun _ _ ⟨d', hd', hderives⟩ => ⟨d', hd'.trans hd, hderives⟩) h

theorem DeriveConjunctions.isWhole {kss : List (List Token.Kind)} {es : List Criteria}
    (h : DeriveConjunctions d kss es) : ∀ ks ∈ kss, IsWhole 0 ks := by
  intro ks hks
  induction h with
  | nil => simp at hks
  | cons hderives _ ih =>
    obtain ⟨d', -, hderives⟩ := hderives
    rcases List.mem_cons.mp hks with rfl | hks
    · exact hderives.isWhole 0 (by simp)
    · exact ih hks

/-- A disjunction is a chain of conjunctions, folded to the left. -/
theorem Derives.exists_conjunctions {d : Nat} {ks : List Token.Kind} {e : Criteria} :
    Derives .disjunction d ks e → ∃ ks₀ kss e₀ es, ks = ks₀ ++ kss.flatMap (.or :: ·) ∧
      e = es.foldl .or e₀ ∧ DeriveConjunctions d (ks₀ :: kss) (e₀ :: es)
  | .disjunction h => ⟨ks, [], e, [], by simp, rfl, .cons ⟨d, Nat.le_refl d, h⟩ .nil⟩
  | @Derives.or d d' _ ks' _ right hleft hright => by
    obtain ⟨ks₀, kss, e₀, es, rfl, rfl, hes⟩ := hleft.exists_conjunctions
    have hlast : DeriveConjunctions (max d d') [ks'] [right] :=
      .cons ⟨d', Nat.le_max_right d d', hright⟩ .nil
    refine ⟨ks₀, kss ++ [ks'], e₀, es ++ [right], by simp, by simp, ?_⟩
    exact List.rel_append (hes.mono (Nat.le_max_left d d')) hlast

/-- The tokens of a disjunction are cut into those of its conjunctions. -/
theorem Derives.disjuncts_eq (h : Derives .disjunction d ks e) :
    ∃ e₀ es, DeriveConjunctions d (disjuncts ks) (e₀ :: es) ∧ e = es.foldl .or e₀ ∧
      Token.Kind.or :: ks = (disjuncts ks).flatMap (.or :: ·) := by
  obtain ⟨ks₀, kss, e₀, es, rfl, he, hes⟩ := h.exists_conjunctions
  obtain ⟨hwhole, hwholes⟩ := List.forall_mem_cons.mp hes.isWhole
  rw [Token.disjuncts_append hwhole hwholes]
  exact ⟨e₀, es, hes, he, rfl⟩

/-- Conjunctions can be joined to a disjunction one after the other. -/
theorem Derives.foldl_or {kss : List (List Token.Kind)} {es : List Criteria}
    (h₁ : Derives .disjunction d₁ ks₁ e₁) (hes : DeriveConjunctions d kss es) :
    ∃ d' ≤ max d₁ d, Derives .disjunction d' (ks₁ ++ kss.flatMap (.or :: ·))
      (es.foldl .or e₁) := by
  induction hes generalizing d₁ ks₁ e₁ with
  | nil => exact ⟨d₁, Nat.le_max_left d₁ d, by simpa using h₁⟩
  | cons hderives _ ih =>
    obtain ⟨d₂, hd₂, hderives⟩ := hderives
    obtain ⟨d', hd', hfold⟩ := ih (h₁.or hderives)
    refine ⟨d', by omega, ?_⟩
    simpa using hfold

/-! ### The meaning of a chain -/

theorem Formula.eval_foldl_or {α : Type} (v : α → Bool) (p : Formula α) (ps : List (Formula α)) :
    (ps.foldl .or p).eval v = (p.eval v || ps.any (·.eval v)) := by
  induction ps generalizing p with
  | nil => simp
  | cons q ps ih => simp [ih, eval, Bool.or_assoc]

theorem Criteria.matches_resolve (e : Criteria) (now : ZonedTime) (track : Track) :
    (e.resolve now).matches track = e.eval fun a => (a.resolve now).matches track :=
  Formula.eval_bind _ _ e

/-! ### Joined texts -/

/-- The tokens of a text, `||` and another text. -/
theorem Token.kinds_append_or {source₁ : String} (h : ∀ k ∈ kinds source₁.toList, k.IsLegal)
    (source₂ : String) : kinds (source₁ ++ " || " ++ source₂).toList =
      kinds source₁.toList ++ .or :: kinds source₂.toList := by
  have hclosed : .unterminatedString ∉ kinds source₁.toList := fun hmem => (h _ hmem).1 rfl
  have hseam : IsSeam (" || ".toList ++ source₂.toList) := by
    rintro c ⟨⟩
    decide
  have hop : kinds (" || ".toList ++ source₂.toList) = .or :: kinds source₂.toList := by
    show kinds (' ' :: '|' :: '|' :: ' ' :: source₂.toList) = _
    rw [kinds_of_isWhiteSpace (by decide), kinds_or, kinds_of_isWhiteSpace (by decide)]
  rw [String.toList_append, String.toList_append, List.append_assoc,
    kinds_append_of_isSeam hclosed hseam, hop]

/-- **Texts that were read can be joined by `||` as they are.** The operands of the second text,
which are what stands between those `||` that are outside of all parentheses, are joined to the tree
of the first one, one after the other; no parentheses are needed, and operands are nested no deeper
than before. A track satisfies the result iff it satisfies one of the two. -/
theorem Criteria.parse_or {s₁ s₂ : String} {e₁ e₂ : Criteria}
    (h₁ : Criteria.parse s₁ = .ok e₁) (h₂ : Criteria.parse s₂ = .ok e₂) :
    (∃ e₀ es, DeriveConjunctions maxDepth (disjuncts (kinds s₂.toList)) (e₀ :: es) ∧
      e₂ = es.foldl .or e₀ ∧
      Criteria.parse (s₁ ++ " || " ++ s₂) = .ok ((e₀ :: es).foldl .or e₁)) ∧
    ∀ (now : ZonedTime) (track : Track), ∃ b₁ b₂,
      track.satisfies s₁ now = .ok b₁ ∧ track.satisfies s₂ now = .ok b₂ ∧
        track.satisfies (s₁ ++ " || " ++ s₂) now = .ok (b₁ || b₂) := by
  obtain ⟨d₁, hd₁, hderives₁⟩ := parse_eq_ok.mp h₁
  obtain ⟨d₂, hd₂, hderives₂⟩ := parse_eq_ok.mp h₂
  obtain ⟨e₀, es, hes, rfl, hcut⟩ := hderives₂.disjuncts_eq
  obtain ⟨d, hd, hfold⟩ := hderives₁.foldl_or hes
  rw [← hcut, ← Token.kinds_append_or hderives₁.isLegal] at hfold
  have hparse := (parse_of_derives hfold).1 (by omega)
  refine ⟨⟨e₀, es, hes.mono hd₂, rfl, hparse⟩, fun now track => ?_⟩
  refine ⟨_, _, Track.satisfies_of_parse h₁ now track, Track.satisfies_of_parse h₂ now track, ?_⟩
  rw [Track.satisfies_of_parse hparse]
  simp [matches_resolve, Formula.eval_foldl_or, Formula.eval, Bool.or_assoc]

/-- The `||` in parentheses stays where it is. -/
theorem Criteria.parse_or_group :
    ∃ (s₁ s₂ : String) (e₁ e₂ : Criteria), s₁ = "!clean" ∧ s₂ = "explicit || (unlabeled || clean)" ∧
      Criteria.parse s₁ = .ok e₁ ∧ Criteria.parse s₂ = .ok e₂ ∧
      Criteria.parse (s₁ ++ " || " ++ s₂) =
        .ok (.or (.or (.not (.atom .clean)) (.atom .explicit))
          (.or (.atom .unlabeled) (.atom .clean))) := by
  have h₁ : Criteria.parse "!clean" = .ok (.not (.atom .clean)) := by decide +kernel
  have h₂ : Criteria.parse "explicit || (unlabeled || clean)" =
      .ok (.or (.atom .explicit) (.or (.atom .unlabeled) (.atom .clean))) := by decide +kernel
  obtain ⟨⟨e₀, es, hes, hfold, hparse⟩, -⟩ := Criteria.parse_or h₁ h₂
  -- There are two disjuncts, so one operand is joined to the first.
  have hlength : es.length = 1 := by
    have hcut : (disjuncts (kinds "explicit || (unlabeled || clean)".toList)).length = 2 := by
      decide +kernel
    have heq := List.Forall₂.length_eq hes
    rw [hcut, List.length_cons] at heq
    omega
  obtain ⟨e, rfl⟩ := List.length_eq_one_iff.mp hlength
  obtain ⟨rfl, rfl⟩ := Formula.or.inj hfold
  exact ⟨_, _, _, _, rfl, rfl, h₁, h₂, hparse⟩

end TrackCriteria
