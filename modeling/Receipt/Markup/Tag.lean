import Receipt.Text.Search

/-!
Tags as they are written. A tag name is a run of ASCII letters and dashes; whatever stands between
the name and the next `>` belongs to the tag. Opening tags are found from left to right, and none
overlaps another.
-/

namespace Receipt.Markup

/-- The characters of a tag name. -/
def isNameChar (c : Char) : Bool :=
  c.isAlpha || c == '-'

/-- A tag that opens an element: its name, and what stands after the name. -/
structure OpenTag where
  name : List Char
  attrs : List Char
deriving DecidableEq

namespace OpenTag

/-- The tag as it is written. -/
def write (tag : OpenTag) : List Char :=
  '<' :: (tag.name ++ (tag.attrs ++ ['>']))

/-- Reads the opening tag with which a text begins, and returns what follows it. -/
def read? : List Char → Option (OpenTag × List Char)
  | '<' :: cs =>
    let name := cs.takeWhile isNameChar
    let rest := cs.dropWhile isNameChar
    if name.isEmpty then none
    else
      match rest.dropWhile (· != '>') with
      | [] => none
      | _ :: after => some (⟨name, rest.takeWhile (· != '>')⟩, after)
  | _ => none

/-- A tag that was read is written as the beginning of the text. -/
theorem eq_of_read? {text after : List Char} {tag : OpenTag}
    (h : read? text = some (tag, after)) : text = tag.write ++ after := by
  unfold read? at h
  split at h
  · rename_i cs
    simp only at h
    split at h
    · simp at h
    · split at h
      · simp at h
      · rename_i c rest hrest
        simp only [Option.some.injEq, Prod.mk.injEq] at h
        obtain ⟨rfl, rfl⟩ := h
        have hc : c = '>' := by
          have := List.head?_dropWhile_not (· != '>') (cs.dropWhile isNameChar)
          rw [hrest] at this
          simpa using this
        subst hc
        have h₁ := List.takeWhile_append_dropWhile (p := isNameChar) (l := cs)
        have h₂ := List.takeWhile_append_dropWhile (p := (· != '>'))
          (l := cs.dropWhile isNameChar)
        rw [hrest] at h₂
        simp only [write, List.cons_append, List.append_assoc, List.nil_append, h₂, h₁]
  · simp at h

theorem length_write (tag : OpenTag) :
    tag.write.length = tag.name.length + tag.attrs.length + 2 := by
  simp [write]
  omega

/-- The first opening tag of a text: what is before it, the tag, and what is after it. -/
def find? : List Char → Option (List Char × OpenTag × List Char)
  | [] => none
  | c :: cs =>
    match read? (c :: cs) with
    | some (tag, after) => some ([], tag, after)
    | none => (find? cs).map fun (before, found) => (c :: before, found)

theorem eq_of_find? {text before after : List Char} {tag : OpenTag}
    (h : find? text = some (before, tag, after)) : text = before ++ tag.write ++ after := by
  induction text generalizing before with
  | nil => simp [find?] at h
  | cons c cs ih =>
    unfold find? at h
    split at h
    · rename_i hr
      simp only [Option.some.injEq, Prod.mk.injEq] at h
      obtain ⟨rfl, rfl, rfl⟩ := h
      simpa using eq_of_read? hr
    · obtain ⟨⟨b, t, a⟩, hb, he⟩ := Option.map_eq_some_iff.mp h
      simp only [Prod.mk.injEq] at he
      obtain ⟨rfl, rfl, rfl⟩ := he
      simp [ih hb]

theorem length_lt_of_find? {text before after : List Char} {tag : OpenTag}
    (h : find? text = some (before, tag, after)) : after.length < text.length := by
  rw [eq_of_find? h]
  simp only [List.length_append, length_write]
  omega

/-- All opening tags of a text, from left to right. -/
def all (text : List Char) : List OpenTag :=
  match _found : find? text with
  | none => []
  | some (_, tag, after) => tag :: all after
termination_by text.length
decreasing_by exact length_lt_of_find? _found

end OpenTag

/-- Whether a text has an opening tag. -/
def containsTag (text : List Char) : Bool :=
  (OpenTag.find? text).isSome

/-- The tag that closes an element of the given name. -/
def closeTag (name : List Char) : List Char :=
  '<' :: '/' :: (name ++ ['>'])

theorem closeTag_ne_nil (name : List Char) : closeTag name ≠ [] := by
  simp [closeTag]

end Receipt.Markup
