import TrackCriteria.Proofs.Json.Quoted

/-!
# The tokens of a compact document

A document in the compact layout is scanned as its tokens (`scan_compact`). No token needs to know
what comes after it, so the tokens of a text that follows are found as well: what is proved of each
part of a document is that it can be put in front of any text (`scans_compact`).
-/

namespace TrackCriteria.Json

/-! ### Tokens and depth of a document -/

mutual

/-- The tokens of a document. -/
def tokens : Json → List Token
  | .string text => [.string (some text)]
  | .bool value => [.bool value]
  | .array items => .leftBracket :: (itemTokens items ++ [.rightBracket])
  | .object members => .leftBrace :: (memberTokens members ++ [.rightBrace])

/-- The tokens of items, with commas between them. -/
def itemTokens : List Json → List Token
  | [] => []
  | [item] => tokens item
  | item :: items => tokens item ++ .comma :: itemTokens items

/-- The tokens of members, with commas between them. -/
def memberTokens : List (String × Json) → List Token
  | [] => []
  | [(key, value)] => .string (some key) :: .colon :: tokens value
  | (key, value) :: members =>
    .string (some key) :: .colon :: (tokens value ++ .comma :: memberTokens members)

end

mutual

/-- How many levels of objects and arrays are nested in a document. -/
def depth : Json → Nat
  | .string _ => 0
  | .bool _ => 0
  | .array items => itemsDepth items + 1
  | .object members => membersDepth members + 1

/-- How many levels are nested in the deepest of some items. -/
def itemsDepth : List Json → Nat
  | [] => 0
  | item :: items => max (depth item) (itemsDepth items)

/-- How many levels are nested in the deepest of some members. -/
def membersDepth : List (String × Json) → Nat
  | [] => 0
  | (_, value) :: members => max (depth value) (membersDepth members)

end

/-! ### Scanning token by token -/

/-- Whether a text is scanned as these tokens, with as many steps as it has characters or more. -/
def Scans (cs : List Char) (ts : List Token) : Prop :=
  ∀ bound, cs.length ≤ bound → scanUpTo bound cs = ts

variable {c : Char} {cs rest : List Char} {t : Token} {ts : List Token}

theorem scans_nil : Scans [] [] := by
  intro bound _
  cases bound <;> rfl

/-- A token in front of a text. It takes up some characters. -/
theorem Scans.cons (hblank : isBlank c = false) (hfirst : first c cs = (t, rest))
    (hle : rest.length ≤ cs.length) (h : Scans rest ts) : Scans (c :: cs) (t :: ts) := by
  intro bound hbound
  rw [List.length_cons] at hbound
  cases bound with
  | zero => cases hbound
  | succ bound =>
    have hdrop : (c :: cs).dropWhile isBlank = c :: cs := by
      rw [List.dropWhile_cons_of_neg (by rw [hblank]; exact Bool.false_ne_true)]
    simp only [scanUpTo, hdrop, hfirst]
    rw [h bound (by omega)]

theorem scan_of_scans {text : String} (h : Scans text.toList ts) : scan text = ts :=
  h _ (Nat.le_of_eq String.length_toList)

/-! ### Single tokens -/

/-- The tokens of one character. -/
def punctuation : List (Char × Token) :=
  [('\x7b', .leftBrace), ('\x7d', .rightBrace), ('[', .leftBracket), (']', .rightBracket),
    (':', .colon), (',', .comma)]

theorem Scans.punctuation (hmark : (c, t) ∈ Json.punctuation) (h : Scans cs ts) :
    Scans (c :: cs) (t :: ts) := by
  simp only [Json.punctuation, List.mem_cons, List.not_mem_nil, or_false, Prod.mk.injEq] at hmark
  obtain ⟨rfl, rfl⟩ | ⟨rfl, rfl⟩ | ⟨rfl, rfl⟩ | ⟨rfl, rfl⟩ | ⟨rfl, rfl⟩ | ⟨rfl, rfl⟩ := hmark <;>
    exact .cons (by decide) rfl (Nat.le_refl _) h

theorem Scans.string (text : String) (h : Scans cs ts) :
    Scans ((quote text).toList ++ cs) (.string (some text) :: ts) := by
  have hfirst : first '"' (text.toList.flatMap escapeChar ++ '"' :: cs) =
      (.string (some text), cs) := by
    simp only [first, readString_escaped, join?_map_pieceOf, Option.map_some, String.ofList_toList]
  have hquote : (quote text).toList ++ cs =
      '"' :: (text.toList.flatMap escapeChar ++ '"' :: cs) := by
    rw [quote, String.toList_ofList, List.cons_append, List.append_assoc, List.singleton_append]
  rw [hquote]
  refine .cons (by decide) hfirst ?_ h
  simp only [List.length_append, List.length_cons]
  omega

theorem Scans.bool (value : Bool) (h : Scans cs ts) :
    Scans ((boolText value).toList ++ cs) (.bool value :: ts) := by
  cases value with
  | true =>
    have hle : cs.length ≤ ('r' :: 'u' :: 'e' :: cs).length := by
      simp only [List.length_cons]
      omega
    exact .cons (c := 't') (by decide) rfl hle h
  | false =>
    have hle : cs.length ≤ ('a' :: 'l' :: 's' :: 'e' :: cs).length := by
      simp only [List.length_cons]
      omega
    exact .cons (c := 'f') (by decide) rfl hle h

/-! ### Documents -/

mutual

/-- A document in front of a text. -/
theorem scans_compact (j : Json) {cs : List Char} {ts : List Token} (h : Scans cs ts) :
    Scans ((compact j).toList ++ cs) (tokens j ++ ts) := by
  match j with
  | .string text => exact h.string text
  | .bool value => exact h.bool value
  | .array items =>
    -- The text is taken from its end: the tokens behind it, the bracket, then the items.
    have hclose : Scans (']' :: cs) (.rightBracket :: ts) := h.punctuation (by decide)
    have hitems : Scans ('[' :: _) (.leftBracket :: _) :=
      (scans_compactItems items hclose).punctuation (by decide)
    simpa only [compact, tokens, String.toList_append, List.append_assoc,
      List.cons_append, List.nil_append, String.reduceToList] using hitems
  | .object members =>
    have hclose : Scans ('\x7d' :: cs) (.rightBrace :: ts) := h.punctuation (by decide)
    have hmembers : Scans ('\x7b' :: _) (.leftBrace :: _) :=
      (scans_compactMembers members hclose).punctuation (by decide)
    simpa only [compact, tokens, String.toList_append, List.append_assoc,
      List.cons_append, List.nil_append, String.reduceToList] using hmembers

/-- Items in front of a text. -/
theorem scans_compactItems (items : List Json) {cs : List Char} {ts : List Token}
    (h : Scans cs ts) : Scans ((compactItems items).toList ++ cs) (itemTokens items ++ ts) := by
  match items with
  | [] => exact h
  | [item] => exact scans_compact item h
  | item :: item' :: items =>
    have hcomma : Scans (',' :: _) (.comma :: _) :=
      (scans_compactItems (item' :: items) h).punctuation (by decide)
    have hitem := scans_compact item hcomma
    simpa only [compactItems, itemTokens, String.toList_append, List.append_assoc,
      List.cons_append, List.nil_append, String.reduceToList] using hitem

/-- Members in front of a text. -/
theorem scans_compactMembers (members : List (String × Json)) {cs : List Char} {ts : List Token}
    (h : Scans cs ts) :
    Scans ((compactMembers members).toList ++ cs) (memberTokens members ++ ts) := by
  match members with
  | [] => exact h
  | [(key, value)] =>
    have hcolon : Scans (':' :: _) (.colon :: _) := (scans_compact value h).punctuation (by decide)
    have hvalue := hcolon.string key
    simpa only [compactMembers, memberTokens, String.toList_append, List.append_assoc,
      List.cons_append, List.nil_append, String.reduceToList] using hvalue
  | (key, value) :: member :: members =>
    -- The other members come first, since what is proved is about any text behind.
    have hcomma : Scans (',' :: _) (.comma :: _) :=
      (scans_compactMembers (member :: members) h).punctuation (by decide)
    have hcolon : Scans (':' :: _) (.colon :: _) :=
      (scans_compact value hcomma).punctuation (by decide)
    have hvalue := hcolon.string key
    simpa only [compactMembers, memberTokens, String.toList_append, List.append_assoc,
      List.cons_append, List.nil_append, String.reduceToList] using hvalue

end

theorem scan_compact (j : Json) : scan (compact j) = tokens j := by
  have h := scans_compact j scans_nil
  rw [List.append_nil, List.append_nil] at h
  exact scan_of_scans h

end TrackCriteria.Json
