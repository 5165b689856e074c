import Receipt.Markup.Tag

/-!
Tag tokens: the opening and the closing tags of a text, one after the other, with the text between
them. A closing tag may have something after its name, which means nothing.
-/

namespace Receipt.Markup

/-- An opening or a closing tag. -/
structure Token where
  closes : Bool
  tag : OpenTag
deriving DecidableEq

namespace Token

/-- The token as it is written. -/
def write (token : Token) : List Char :=
  if token.closes then '<' :: '/' :: (token.tag.name ++ (token.tag.attrs ++ ['>']))
  else token.tag.write

/-- Reads the token with which a text begins, and returns what follows it. -/
def read? : List Char → Option (Token × List Char)
  | '<' :: '/' :: cs => (OpenTag.read? ('<' :: cs)).map fun (tag, after) => (⟨true, tag⟩, after)
  | cs => (OpenTag.read? cs).map fun (tag, after) => (⟨false, tag⟩, after)

/-- A token that was read is written as the beginning of the text. -/
theorem eq_of_read? {text after : List Char} {token : Token}
    (h : read? text = some (token, after)) : text = token.write ++ after := by
  unfold read? at h
  split at h
  · obtain ⟨⟨tag, a⟩, ht, he⟩ := Option.map_eq_some_iff.mp h
    simp only [Prod.mk.injEq] at he
    obtain ⟨rfl, rfl⟩ := he
    have := OpenTag.eq_of_read? ht
    simp only [OpenTag.write, List.cons_append, List.cons.injEq, true_and] at this
    simp [write, this]
  · obtain ⟨⟨tag, a⟩, ht, he⟩ := Option.map_eq_some_iff.mp h
    simp only [Prod.mk.injEq] at he
    obtain ⟨rfl, rfl⟩ := he
    simpa [write] using OpenTag.eq_of_read? ht

theorem length_write_pos (token : Token) : 0 < token.write.length := by
  unfold write
  split
  · simp
  · rw [OpenTag.length_write]
    omega

/-- The first token of a text: what is before it, the token, and what is after it. -/
def find? : List Char → Option (List Char × Token × List Char)
  | [] => none
  | c :: cs =>
    match read? (c :: cs) with
    | some (token, after) => some ([], token, after)
    | none => (find? cs).map fun (before, found) => (c :: before, found)

theorem eq_of_find? {text before after : List Char} {token : Token}
    (h : find? text = some (before, token, after)) : text = before ++ token.write ++ after := by
  induction text generalizing before with
  | nil => simp [find?] at h
  | cons c cs ih =>
    unfold find? at h
    split at h
    · rename_i hr
      simp only [Option.some.injEq, Prod.mk.injEq] at h
      obtain ⟨rfl, rfl, rfl⟩ := h
      simpa using eq_of_read? hr
    · obtain ⟨⟨b, t, a⟩, hb, he⟩ := Option.map_eq_some_iff.mp h
      simp only [Prod.mk.injEq] at he
      obtain ⟨rfl, rfl, rfl⟩ := he
      simp [ih hb]

theorem length_lt_of_find? {text before after : List Char} {token : Token}
    (h : find? text = some (before, token, after)) : after.length < text.length := by
  rw [eq_of_find? h]
  have := token.length_write_pos
  simp only [List.length_append]
  omega

/-- The tokens of a text, each with the text between it and the one before, and the text after the
last token. -/
def split (text : List Char) : List (List Char × Token) × List Char :=
  match _found : find? text with
  | none => ([], text)
  | some (before, token, after) =>
    let (tokens, rest) := split after
    ((before, token) :: tokens, rest)
termination_by text.length
decreasing_by exact length_lt_of_find? _found

/-- The tokens of a text, in order. -/
def all (text : List Char) : List Token :=
  (split text).1.map Prod.snd

end Token

end Receipt.Markup
