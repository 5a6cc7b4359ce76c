import TrackCriteria.Json.Reader
import TrackCriteria.Proofs.Json.Document

/-!
# What readers find

A reader finds a value in some tokens if it takes these tokens from the front of any others and gives
the value (`Reads`), and it rejects tokens if it fails on them whatever comes after them (`Rejects`).
Readers one after the other find their values in the tokens one after the other (`Reads.bind`), and
reject them where one of the readers rejects its own (`Rejects.bind`, `Reads.rejects`). A choice is
found in the tokens of its name (`reads_choice_alone`) or of an object (`reads_choice_content`). What
a reader does with the tokens of a document decides whether the text of the document is read
(`read_compact`, `read_compact_error`).
-/

namespace TrackCriteria.Json

variable {α β : Type} {ts us : List Token} {a : α} {b : β}

/-! ### Readers one after the other -/

/-- Whether the reader takes these tokens from the front of any others and gives the value. -/
def Reads (reader : Reader α) (ts : List Token) (a : α) : Prop :=
  ∀ rest, reader (ts ++ rest) = .ok (a, rest)

/-- Whether the reader fails on these tokens, whatever comes after them. -/
def Rejects (reader : Reader α) (ts : List Token) : Prop :=
  ∀ rest, ∃ fault, reader (ts ++ rest) = .error fault

/-- What comes after a reader goes on where the reader stopped. -/
theorem Reader.bind_of_eq_ok {reader : Reader α} {rest : List Token}
    (h : reader ts = .ok (a, rest)) (next : α → Reader β) : (reader >>= next) ts = next a rest := by
  calc (reader >>= next) ts = (reader ts).bind fun found => next found.1 found.2 := rfl
    _ = next a rest := by rw [h, Except.bind]

theorem Reader.bind_of_eq_error {reader : Reader α} {fault : Fault} (h : reader ts = .error fault)
    (next : α → Reader β) : (reader >>= next) ts = .error fault := by
  calc (reader >>= next) ts = (reader ts).bind fun found => next found.1 found.2 := rfl
    _ = .error fault := by rw [h, Except.bind]

open Reader (bind_of_eq_ok bind_of_eq_error)

theorem reads_pure (a : α) : Reads (pure a) [] a :=
  fun _ => rfl

theorem Reads.bind {reader : Reader α} {next : α → Reader β} (h : Reads reader ts a)
    (hnext : Reads (next a) us b) : Reads (reader >>= next) (ts ++ us) b := by
  intro rest
  rw [List.append_assoc, bind_of_eq_ok (h _)]
  exact hnext rest

theorem Rejects.bind {reader : Reader α} (h : Rejects reader ts) (next : α → Reader β)
    (us : List Token) : Rejects (reader >>= next) (ts ++ us) := by
  intro rest
  obtain ⟨fault, hfault⟩ := h (us ++ rest)
  rw [List.append_assoc, bind_of_eq_error hfault]
  exact ⟨fault, rfl⟩

/-- A value is found, but what comes after it is rejected. -/
theorem Reads.rejects {reader : Reader α} {next : α → Reader β} (h : Reads reader ts a)
    (hnext : Rejects (next a) us) : Rejects (reader >>= next) (ts ++ us) := by
  intro rest
  rw [List.append_assoc, bind_of_eq_ok (h _)]
  exact hnext rest

/-- A value made from the one that is found. -/
theorem Reads.map {reader : Reader α} (h : Reads reader ts a) (f : α → β) :
    Reads (do return f (← reader)) ts (f a) := by
  have hbind : Reads (do return f (← reader)) (ts ++ []) (f a) := h.bind (reads_pure (f a))
  rwa [List.append_nil] at hbind

theorem Rejects.map {reader : Reader α} (h : Rejects reader ts) (f : α → β) :
    Rejects (do return f (← reader)) ts := by
  have hbind := h.bind (fun a => (pure (f a) : Reader β)) []
  rwa [List.append_nil] at hbind

theorem Reader.next_cons (t : Token) (rest : List Token) : next (t :: rest) = .ok (t, rest) := rfl

theorem Reader.peek_cons (t : Token) (rest : List Token) :
    peek (t :: rest) = .ok (t, t :: rest) := rfl

theorem rejects_malformed (ts : List Token) : Rejects (Reader.malformed : Reader α) ts :=
  fun _ => ⟨.malformed, rfl⟩

theorem reads_token (t : Token) : Reads (Reader.token t) [t] () := by
  intro rest
  rw [List.singleton_append, Reader.token, bind_of_eq_ok (Reader.next_cons t rest), if_pos rfl]
  rfl

theorem reads_string (text : String) : Reads Reader.string [.string (some text)] text :=
  fun _ => rfl

/-! ### Choices -/

section Choice

variable {alternatives : List (String × α)} {alone : α → Option β} {name : String}

theorem reads_variant (h : alternatives.find? (·.1 = name) = some (name, a)) :
    Reads (Reader.variant alternatives) [.string (some name)] a := by
  intro rest
  have hvariant : Reader.variant alternatives ([.string (some name)] ++ rest) = _ :=
    bind_of_eq_ok (reads_string name rest) _
  rw [hvariant, h]
  rfl

/-- An alternative without content is a name. -/
theorem reads_choice_alone {content : Option (α → Reader β)}
    (hname : alternatives.find? (·.1 = name) = some (name, a)) (halone : alone a = some b) :
    Reads (Reader.choice alternatives alone content) (tokens (.string name)) b := by
  intro rest
  have hpeek := Reader.peek_cons (.string (some name)) rest
  have hvariant := reads_variant hname rest
  rw [tokens, List.singleton_append] at *
  rw [Reader.choice, bind_of_eq_ok hpeek]
  dsimp only
  rw [bind_of_eq_ok hvariant, halone]
  rfl

/-- An alternative with content is the only member of an object, and its name comes first. -/
theorem choice_object {content : α → Reader β}
    (hname : alternatives.find? (·.1 = name) = some (name, a)) (value : Json) (rest : List Token) :
    Reader.choice alternatives alone (some content) (tokens (.object [(name, value)]) ++ rest) =
      (do
        let b ← content a
        Reader.token .rightBrace
        return b) (tokens value ++ [Token.rightBrace] ++ rest) := by
  have htokens : tokens (.object [(name, value)]) ++ rest =
      .leftBrace :: ([.string (some name)] ++ ([.colon] ++ (tokens value ++ [.rightBrace] ++ rest)))
        := by
    simp only [tokens, memberTokens, List.cons_append, List.nil_append]
  rw [htokens, Reader.choice, bind_of_eq_ok (Reader.peek_cons _ _)]
  dsimp only
  rw [bind_of_eq_ok (Reader.next_cons _ _), bind_of_eq_ok (reads_variant hname _),
    bind_of_eq_ok (reads_token .colon _)]

theorem reads_choice_content {content : α → Reader β} {value : Json}
    (hname : alternatives.find? (·.1 = name) = some (name, a))
    (hcontent : Reads (content a) (tokens value) b) :
    Reads (Reader.choice alternatives alone (some content)) (tokens (.object [(name, value)])) b := by
  intro rest
  rw [choice_object hname]
  exact hcontent.bind ((reads_token .rightBrace).map fun _ => b) rest

theorem rejects_choice_content {content : α → Reader β} {value : Json}
    (hname : alternatives.find? (·.1 = name) = some (name, a))
    (hcontent : Rejects (content a) (tokens value)) :
    Rejects (Reader.choice alternatives alone (some content)) (tokens (.object [(name, value)])) := by
  intro rest
  rw [choice_object hname]
  exact hcontent.bind _ [.rightBrace] rest

end Choice

/-! ### Documents -/

/-- A document is read where a reader finds a value in its tokens. -/
theorem read_compact {reader : Nat → Reader α} {j : Json} (h : Reads (reader maxLevels) (tokens j) a) :
    read reader (compact j) = .ok a := by
  have hread := h []
  rw [List.append_nil] at hread
  rw [read, scan_compact, hread]
  rfl

theorem read_compact_error {reader : Nat → Reader α} {j : Json}
    (h : Rejects (reader maxLevels) (tokens j)) : ∃ fault, read reader (compact j) = .error fault := by
  obtain ⟨fault, hfault⟩ := h []
  rw [List.append_nil] at hfault
  rw [read, scan_compact, hfault]
  exact ⟨fault, rfl⟩

end TrackCriteria.Json
