import TrackCriteria.Text.Cluster.Role

/-!
# Clusters of characters

What a reader takes for one character may be several: a letter with its marks, a syllable, a
pictograph made of others, a flag. A text falls into such clusters by the rules of Unicode for
extended grapheme clusters; between two characters it depends on their roles, and on what stands
before the first of them, whether they belong to one cluster.

Main fact: no character is lost and none is added (`flatten_clusters`).
-/

namespace TrackCriteria.Text

namespace Cluster

/-! ### What stands before a character -/

/-- How far a conjunct of consonants has come. -/
inductive Conjunct where
  | none
  /-- A consonant, and marks that may stand inside of a conjunct. -/
  | consonant
  /-- A linker among the marks after the consonant. -/
  | linked
deriving DecidableEq

/-- How far a sequence of pictographs has come. -/
inductive Sequence where
  | none
  /-- A pictograph, and marks that extend it. -/
  | pictograph
  /-- A joiner after them. -/
  | joined
deriving DecidableEq

/-- What the characters so far mean for the next one. -/
structure Context where
  /-- The role of the last character. -/
  last : Role
  conjunct : Conjunct
  sequence : Sequence
  /-- Whether the text ends in an odd number of letters of regions. -/
  oddRegional : Bool
deriving DecidableEq

/-- The conjunct after one more character. -/
def Conjunct.next (c : Conjunct) : Role → Conjunct
  | .consonant => .consonant
  | .linker => if c = .none then .none else .linked
  | .extend => c
  | .joiner => c
  | _ => .none

/-- The sequence of pictographs after one more character. -/
def Sequence.next (s : Sequence) : Role → Sequence
  | .pictograph => .pictograph
  | .extend => if s = .pictograph then .pictograph else .none
  | .linker => if s = .pictograph then .pictograph else .none
  | .nonJoiner => if s = .pictograph then .pictograph else .none
  | .joiner => if s = .pictograph then .joined else .none
  | _ => .none

namespace Context

/-- The context after the first character of a text. -/
def start (r : Role) : Context :=
  ⟨r, Conjunct.none.next r, Sequence.none.next r, r = .regional⟩

/-- The context after one more character. -/
def next (x : Context) (r : Role) : Context :=
  ⟨r, x.conjunct.next r, x.sequence.next r, r = .regional && !x.oddRegional⟩

/-- Whether a character belongs to the cluster of the one before it. -/
def joins (x : Context) (r : Role) : Bool :=
  match x.last, r with
  | .carriageReturn, .lineFeed => true
  | .carriageReturn, _ => false
  | .lineFeed, _ => false
  | .control, _ => false
  | _, .carriageReturn => false
  | _, .lineFeed => false
  | _, .control => false
  | .lead, .lead => true
  | .lead, .vowel => true
  | .lead, .openSyllable => true
  | .lead, .closedSyllable => true
  | .vowel, .vowel => true
  | .vowel, .tail => true
  | .openSyllable, .vowel => true
  | .openSyllable, .tail => true
  | .tail, .tail => true
  | .closedSyllable, .tail => true
  | _, .extend => true
  | _, .linker => true
  | _, .nonJoiner => true
  | _, .joiner => true
  | _, .spacing => true
  | .prepend, _ => true
  | _, .consonant => x.conjunct = .linked
  | .joiner, .pictograph => x.sequence = .joined
  | .regional, .regional => x.oddRegional
  | _, _ => false

end Context

/-! ### Clusters of a text -/

/-- The characters that go on with a cluster, and the clusters after it. -/
def split (x : Context) : List Char → List Char × List (List Char)
  | [] => ([], [])
  | c :: cs =>
    let (more, rest) := split (x.next (role c)) cs
    if x.joins (role c) then (c :: more, rest) else ([], (c :: more) :: rest)

theorem split_append_flatten (x : Context) (cs : List Char) :
    (split x cs).1 ++ (split x cs).2.flatten = cs := by
  induction cs generalizing x with
  | nil => rfl
  | cons c cs ih =>
    have h := ih (x.next (role c))
    simp only [split]
    split <;> simpa using h

end Cluster

open Cluster in
/-- The clusters of a text. -/
def clusters : List Char → List (List Char)
  | [] => []
  | c :: cs =>
    let (more, rest) := split (.start (role c)) cs
    (c :: more) :: rest

theorem flatten_clusters (cs : List Char) : (clusters cs).flatten = cs := by
  cases cs with
  | nil => rfl
  | cons c cs => simpa [clusters] using Cluster.split_append_flatten _ cs

end TrackCriteria.Text
