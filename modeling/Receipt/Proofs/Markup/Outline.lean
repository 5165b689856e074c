import Receipt.Markup.Outline
import Receipt.Proofs.Markup.Balance
import Receipt.Proofs.Text.Blank

/-!
# Outlines of longer texts

The outline of a text that is put together from parts.  What stands before the first `<` and after
the last `>` does not matter (`Outline.ofText_append_left`, `Outline.ofText_append_of_not_mem`), so
neither does trimming (`Outline.ofText_trim`).  An element that is read from its opening tag comes
first, and what follows it is read as if it stood alone (`Outline.ofText_write_append`).
-/

namespace Receipt.Markup

variable {text more inner after rest gap : List Char} {tag : OpenTag}

theorem lt_not_mem_of_isBlank (h : ∀ c ∈ text, Text.isBlank c = true) : '<' ∉ text :=
  fun hmem => absurd (h _ hmem) (by decide)

theorem gt_not_mem_of_isBlank (h : ∀ c ∈ text, Text.isBlank c = true) : '>' ∉ text :=
  fun hmem => absurd (h _ hmem) (by decide)

/-! ## The first element -/

namespace Element

variable {element : Element}

/-- The element with more text before it. -/
def preceded (gap : List Char) (element : Element) : Element :=
  { element with before := gap ++ element.before }

theorem read?_of_read? (h : OpenTag.read? text = some (tag, rest)) :
    read? text = (splitAtClose? tag.name 0 rest).map fun split => (tag, split) := by
  rw [read?, h]

theorem read?_of_read?_eq_none (h : OpenTag.read? text = none) : read? text = none := by
  rw [read?, h]

/-- A part without `>` changes nothing when it stands last. -/
theorem read?_append_of_not_mem (h : '>' ∉ more) (text : List Char) :
    read? (text ++ more) = (read? text).map (Prod.map id (Prod.map id (· ++ more))) := by
  have htag := OpenTag.read?_append_of_not_mem h text
  cases hr : OpenTag.read? text with
  | none =>
    rw [hr] at htag
    rw [read?_of_read?_eq_none htag, read?_of_read?_eq_none hr, Option.map_none]
  | some found =>
    obtain ⟨tag, rest⟩ := found
    rw [hr] at htag
    rw [read?_of_read? htag, read?_of_read? hr, splitAtClose?_append_of_not_mem h, Option.map_map,
      Option.map_map]
    rfl

theorem next?_of_read?_eq_some (h : read? text = some (tag, inner, after)) :
    next? text = some (⟨[], tag, inner⟩, after) := by
  cases text with
  | nil => simp [read?, OpenTag.read?] at h
  | cons c cs => rw [next?, h]

theorem next?_cons_of_read?_eq_none {c : Char} {cs : List Char} (h : read? (c :: cs) = none) :
    next? (c :: cs) = (next? cs).map (Prod.map (preceded [c]) id) := by
  rw [next?, h]
  rfl

/-- A part without `<` is passed over. -/
theorem next?_append_left (h : '<' ∉ gap) (text : List Char) :
    next? (gap ++ text) = (next? text).map (Prod.map (preceded gap) id) := by
  induction gap with
  | nil =>
    show _ = (next? text).map id
    rw [Option.map_id, List.nil_append, id_eq]
  | cons c gap ih =>
    have hc : c ≠ '<' := fun e => h (by simp [e])
    have hgap : '<' ∉ gap := fun hmem => h (by simp [hmem])
    have hread := read?_of_read?_eq_none (OpenTag.read?_cons_of_ne hc (gap ++ text))
    rw [List.cons_append, next?_cons_of_read?_eq_none hread, ih hgap, Option.map_map]
    rfl

theorem next?_eq_none_of_not_mem (h : '>' ∉ text) : next? text = none := by
  rw [Option.eq_none_iff_forall_ne_some]
  rintro ⟨element, after⟩ hfound
  apply h
  rw [eq_of_next? hfound, write, OpenTag.write_eq_append]
  simp

/-- A part without `>` changes nothing when it stands last. -/
theorem next?_append_of_not_mem (h : '>' ∉ more) (text : List Char) :
    next? (text ++ more) = (next? text).map (Prod.map id (· ++ more)) := by
  induction text with
  | nil => rw [List.nil_append, next?_eq_none_of_not_mem h, next?, Option.map_none]
  | cons c cs ih =>
    have hread := read?_append_of_not_mem h (c :: cs)
    cases hr : read? (c :: cs) with
    | some found =>
      rw [hr] at hread
      rw [next?_of_read?_eq_some hr, next?_of_read?_eq_some hread]
      rfl
    | none =>
      rw [hr, Option.map_none, List.cons_append] at hread
      rw [next?_cons_of_read?_eq_none hr, List.cons_append, next?_cons_of_read?_eq_none hread, ih,
        Option.map_map, Option.map_map]
      rfl

/-- Where the first element stands: behind its opening tag, the search for its close finds what is
inside. -/
theorem exists_of_next? (h : next? text = some (element, after)) :
    ∃ rest, text = element.before ++ (element.tag.write ++ rest) ∧ element.tag.WellFormed ∧
      splitAtClose? element.tag.name 0 rest = some (element.inner, after) := by
  induction text generalizing element with
  | nil => simp [next?] at h
  | cons c cs ih =>
    cases hread : read? (c :: cs) with
    | some found =>
      obtain ⟨tag, inner, after'⟩ := found
      rw [next?_of_read?_eq_some hread] at h
      simp only [Option.some.injEq, Prod.mk.injEq] at h
      obtain ⟨rfl, rfl⟩ := h
      cases hopen : OpenTag.read? (c :: cs) with
      | none => simp [read?_of_read?_eq_none hopen] at hread
      | some found =>
        obtain ⟨tag', rest⟩ := found
        rw [read?_of_read? hopen] at hread
        obtain ⟨split, hsplit, heq⟩ := Option.map_eq_some_iff.mp hread
        simp only [Prod.mk.injEq] at heq
        obtain ⟨rfl, rfl⟩ := heq
        obtain ⟨htag, htext⟩ := OpenTag.read?_eq_some_iff.mp hopen
        exact ⟨rest, htext, htag, hsplit⟩
    | none =>
      rw [next?_cons_of_read?_eq_none hread] at h
      obtain ⟨⟨element', after'⟩, hnext, heq⟩ := Option.map_eq_some_iff.mp h
      simp only [Prod.map_apply, id_eq, Prod.mk.injEq] at heq
      obtain ⟨rfl, rfl⟩ := heq
      obtain ⟨rest, htext, htag, hsplit⟩ := ih hnext
      refine ⟨rest, ?_, htag, hsplit⟩
      rw [htext]
      rfl

end Element

/-! ## Outlines -/

namespace Outline

variable {element : Element}

/-- The outline of one element. -/
def ofElement (tag : OpenTag) (inner : List Char) : Outline :=
  if containsTag inner then branch tag (ofText inner) else leaf tag inner

@[simp] theorem tag_ofElement (tag : OpenTag) (inner : List Char) :
    (ofElement tag inner).tag = tag := by
  rw [ofElement]
  split <;> rfl

theorem ofText_of_next?_eq_none (h : Element.next? text = none) : ofText text = [] := by
  rw [ofText]
  split
  · rfl
  · rename_i hfound
    rw [h] at hfound
    simp at hfound

theorem ofText_of_next?_eq_some (h : Element.next? text = some (element, after)) :
    ofText text = ofElement element.tag element.inner :: ofText after := by
  rw [ofText]
  split
  · rename_i hfound
    rw [h] at hfound
    simp at hfound
  · rename_i hfound
    rw [h] at hfound
    simp only [Option.some.injEq, Prod.mk.injEq] at hfound
    obtain ⟨rfl, rfl⟩ := hfound
    rfl

theorem ofText_eq_nil_of_not_mem (h : '>' ∉ text) : ofText text = [] :=
  ofText_of_next?_eq_none (Element.next?_eq_none_of_not_mem h)

@[simp] theorem ofText_nil : ofText [] = [] :=
  ofText_eq_nil_of_not_mem (by simp)

/-- What is before the first `<` makes no element. -/
theorem ofText_append_left (h : '<' ∉ gap) (text : List Char) :
    ofText (gap ++ text) = ofText text := by
  have hnext := Element.next?_append_left h text
  cases hn : Element.next? text with
  | none =>
    rw [hn] at hnext
    rw [ofText_of_next?_eq_none hnext, ofText_of_next?_eq_none hn]
  | some found =>
    obtain ⟨element, after⟩ := found
    rw [hn] at hnext
    rw [ofText_of_next?_eq_some hnext, ofText_of_next?_eq_some hn]
    rfl

/-- What is after the last `>` makes no element. -/
theorem ofText_append_of_not_mem (h : '>' ∉ more) (text : List Char) :
    ofText (text ++ more) = ofText text := by
  induction hlen : text.length using Nat.strongRecOn generalizing text with
  | ind n ih =>
    have hnext := Element.next?_append_of_not_mem h text
    cases hn : Element.next? text with
    | none =>
      rw [hn] at hnext
      rw [ofText_of_next?_eq_none hnext, ofText_of_next?_eq_none hn]
    | some found =>
      obtain ⟨element, after⟩ := found
      have hlt := (Element.length_lt_of_next? hn).2
      rw [hn] at hnext
      rw [ofText_of_next?_eq_some hnext, ofText_of_next?_eq_some hn]
      simp only [id_eq, ih after.length (by omega) after rfl]

theorem ofText_trim (text : List Char) : ofText (Text.trim text) = ofText text := by
  obtain ⟨first, last, hfirst, hlast, htext⟩ := Text.exists_append_trim_append text
  conv => rhs; rw [htext]
  rw [ofText_append_left (lt_not_mem_of_isBlank hfirst),
    ofText_append_of_not_mem (gt_not_mem_of_isBlank hlast)]

/-- An element at the start of a text comes first in its outline. -/
theorem ofText_write_append (htag : tag.WellFormed)
    (h : splitAtClose? tag.name 0 rest = some (inner, after)) :
    ofText (tag.write ++ rest) = ofElement tag inner :: ofText after := by
  have hread := Element.read?_of_read? (OpenTag.read?_write_append htag rest)
  rw [h] at hread
  exact ofText_of_next?_eq_some (Element.next?_of_read?_eq_some hread)

end Outline

end Receipt.Markup
