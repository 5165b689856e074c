import Receipt.Markup.Token
import Receipt.Proofs.Text.Search

/-!
# Tags inside longer texts

The readers of tags work on whatever is left of a text.  This module says what they find when that
text is put together from parts.

* `OpenTag.read?_eq_some_iff` is the exact condition for reading a tag: the text begins with a tag
  that is well formed.
* A part without `<` holds no beginning of a tag, so it is passed over whatever follows.
* A part without `>` holds no end of a tag, so it changes nothing when it stands last.
-/

namespace Receipt.Markup

/-! ## Well-formed tags -/

/-- What holds of a tag that was read: the name is as long as it can be, and the tag ends at the
first `>`. -/
structure OpenTag.WellFormed (tag : OpenTag) : Prop where
  name_ne_nil : tag.name ≠ []
  name_chars : ∀ c ∈ tag.name, isNameChar c = true
  attrs_head : ∀ c ∈ tag.attrs.head?, isNameChar c = false
  gt_not_mem : '>' ∉ tag.attrs

theorem gt_not_mem_of_isNameChar {name : List Char} (h : ∀ c ∈ name, isNameChar c = true) :
    '>' ∉ name := fun hmem => absurd (h _ hmem) (by decide)

theorem lt_not_mem_of_isNameChar {name : List Char} (h : ∀ c ∈ name, isNameChar c = true) :
    '<' ∉ name := fun hmem => absurd (h _ hmem) (by decide)

theorem slash_not_mem_of_isNameChar {name : List Char} (h : ∀ c ∈ name, isNameChar c = true) :
    '/' ∉ name := fun hmem => absurd (h _ hmem) (by decide)

/-- The only `>` of a tag is at its end. -/
theorem OpenTag.WellFormed.gt_not_mem_body {tag : OpenTag} (h : tag.WellFormed) :
    '>' ∉ '<' :: (tag.name ++ tag.attrs) := by
  simp [gt_not_mem_of_isNameChar h.name_chars, h.gt_not_mem]

theorem gt_not_mem_close_body {name : List Char} (h : ∀ c ∈ name, isNameChar c = true) :
    '>' ∉ '<' :: '/' :: name := by
  simp [gt_not_mem_of_isNameChar h]

namespace OpenTag

variable {text more before after : List Char} {tag : OpenTag}

theorem read?_write_append (h : tag.WellFormed) (after : List Char) :
    read? (tag.write ++ after) = some (tag, after) := by
  have hname : (tag.name ++ (tag.attrs ++ '>' :: after)).takeWhile isNameChar = tag.name ∧
      (tag.name ++ (tag.attrs ++ '>' :: after)).dropWhile isNameChar =
        tag.attrs ++ '>' :: after := by
    apply Text.takeWhile_append_of_all h.name_chars
    intro c hc
    cases hattrs : tag.attrs with
    | nil =>
      have : c = '>' := by simpa [hattrs] using hc.symm
      rw [this]
      decide
    | cons d ds =>
      apply h.attrs_head
      simpa [hattrs] using hc
  have hattrs : (tag.attrs ++ '>' :: after).takeWhile (· != '>') = tag.attrs ∧
      (tag.attrs ++ '>' :: after).dropWhile (· != '>') = '>' :: after := by
    apply Text.takeWhile_append_of_all
    · intro c hc
      have : c ≠ '>' := fun e => h.gt_not_mem (e ▸ hc)
      simpa using this
    · simp
  have hwrite : tag.write ++ after = '<' :: (tag.name ++ (tag.attrs ++ '>' :: after)) := by
    simp [write]
  rw [hwrite, read?]
  simp only [hname, hattrs]
  rw [if_neg (by simpa using h.name_ne_nil)]

theorem wellFormed_of_read? (h : read? text = some (tag, after)) : tag.WellFormed := by
  unfold read? at h
  split at h
  · rename_i cs
    simp only at h
    split at h
    · simp at h
    · rename_i hne
      split at h
      · simp at h
      · simp only [Option.some.injEq, Prod.mk.injEq] at h
        obtain ⟨rfl, -⟩ := h
        refine ⟨by simpa using hne, ?_, ?_, ?_⟩
        · exact List.all_eq_true.mp List.all_takeWhile
        · intro c hc
          rw [List.head?_takeWhile] at hc
          have hhead := List.head?_dropWhile_not isNameChar cs
          rw [(Option.mem_filter_iff.mp hc).1] at hhead
          exact hhead
        · intro hmem
          simpa using List.all_eq_true.mp List.all_takeWhile _ hmem
  · simp at h

/-- A text begins with a tag exactly if it is that tag as it is written, and something after. -/
theorem read?_eq_some_iff :
    read? text = some (tag, after) ↔ tag.WellFormed ∧ text = tag.write ++ after :=
  ⟨fun h => ⟨wellFormed_of_read? h, eq_of_read? h⟩, fun ⟨h, e⟩ => e ▸ read?_write_append h after⟩

/-- What was read is read again when the text goes on. -/
theorem read?_append_right (h : read? text = some (tag, after)) (more : List Char) :
    read? (text ++ more) = some (tag, after ++ more) := by
  obtain ⟨htag, rfl⟩ := read?_eq_some_iff.mp h
  rw [List.append_assoc]
  exact read?_write_append htag (after ++ more)

theorem write_eq_append (tag : OpenTag) :
    tag.write = '<' :: (tag.name ++ tag.attrs) ++ ['>'] := by
  simp [write]

/-- Two tags that end at the first `>` of a text have the same text after them. -/
theorem eq_of_append_write_eq {tag' : OpenTag} {rest rest' : List Char} (htag : tag.WellFormed)
    (htag' : tag'.WellFormed) (hbefore : '>' ∉ before) (hafter : '>' ∉ after)
    (h : before ++ (tag.write ++ rest) = after ++ (tag'.write ++ rest')) : rest = rest' := by
  have hends : before ++ '<' :: (tag.name ++ tag.attrs) ++ ['>'] ++ rest =
      after ++ '<' :: (tag'.name ++ tag'.attrs) ++ ['>'] ++ rest' := by
    rw [write_eq_append, write_eq_append] at h
    simpa using h
  refine (Text.append_inj_of_count_eq hends ?_).2
  rw [List.count_append, List.count_append, List.count_eq_zero_of_not_mem hbefore,
    List.count_eq_zero_of_not_mem hafter, List.count_eq_zero_of_not_mem htag.gt_not_mem_body,
    List.count_eq_zero_of_not_mem htag'.gt_not_mem_body]

/-- A part without `>` changes nothing when it stands last. -/
theorem read?_append_of_not_mem (h : '>' ∉ more) (text : List Char) :
    read? (text ++ more) = (read? text).map (Prod.map id (· ++ more)) := by
  cases hr : read? text with
  | some found => exact read?_append_right hr more
  | none =>
    rw [Option.map_none, Option.eq_none_iff_forall_ne_some]
    rintro ⟨tag, after⟩ hmore
    obtain ⟨htag, heq⟩ := read?_eq_some_iff.mp hmore
    rw [write_eq_append] at heq
    obtain ⟨rest, htext, -⟩ := Text.exists_of_append_eq h heq
    rw [← write_eq_append] at htext
    rw [htext, read?_write_append htag rest] at hr
    simp at hr

theorem read?_cons_of_ne {c : Char} (h : c ≠ '<') (cs : List Char) : read? (c :: cs) = none := by
  rw [read?]
  simp [h]

/-! ## The first opening tag -/

theorem find?_cons_of_read?_eq_none {c : Char} {cs : List Char} (h : read? (c :: cs) = none) :
    find? (c :: cs) = (find? cs).map (Prod.map (c :: ·) id) := by
  rw [find?, h]
  rfl

theorem find?_of_read?_eq_some (h : read? text = some (tag, after)) :
    find? text = some ([], tag, after) := by
  cases text with
  | nil => simp [read?] at h
  | cons c cs => rw [find?, h]

/-- A part without `<` is passed over. -/
theorem find?_append_left {gap : List Char} (h : '<' ∉ gap) (text : List Char) :
    find? (gap ++ text) = (find? text).map (Prod.map (gap ++ ·) id) := by
  induction gap with
  | nil =>
    show _ = (find? text).map id
    rw [Option.map_id, List.nil_append, id_eq]
  | cons c gap ih =>
    have hc : c ≠ '<' := fun e => h (by simp [e])
    have hgap : '<' ∉ gap := fun hmem => h (by simp [hmem])
    rw [List.cons_append, find?_cons_of_read?_eq_none (read?_cons_of_ne hc _), ih hgap,
      Option.map_map]
    rfl

theorem find?_eq_none_of_lt_not_mem (h : '<' ∉ text) : find? text = none := by
  have hgap := find?_append_left h []
  rwa [List.append_nil, find?, Option.map_none] at hgap

theorem find?_eq_none_of_gt_not_mem (h : '>' ∉ text) : find? text = none := by
  rw [Option.eq_none_iff_forall_ne_some]
  rintro ⟨before, tag, after⟩ hfound
  apply h
  rw [eq_of_find? hfound, write_eq_append]
  simp

/-- A part without `>` changes nothing when it stands last. -/
theorem find?_append_of_not_mem (h : '>' ∉ more) (text : List Char) :
    find? (text ++ more) = (find? text).map (Prod.map id (Prod.map id (· ++ more))) := by
  induction text with
  | nil => rw [List.nil_append, find?_eq_none_of_gt_not_mem h, find?, Option.map_none]
  | cons c cs ih =>
    have hread := read?_append_of_not_mem h (c :: cs)
    cases hr : read? (c :: cs) with
    | some found =>
      rw [hr] at hread
      rw [find?_of_read?_eq_some hr, find?_of_read?_eq_some hread]
      rfl
    | none =>
      rw [hr, Option.map_none, List.cons_append] at hread
      rw [find?_cons_of_read?_eq_none hr, List.cons_append,
        find?_cons_of_read?_eq_none hread, ih, Option.map_map, Option.map_map]
      rfl

/-- No opening tag begins in a text that has none. -/
theorem read?_eq_none_of_find?_eq_none (h : find? (before ++ after) = none) :
    read? after = none := by
  induction before with
  | nil =>
    cases hread : read? after with
    | none => rfl
    | some found =>
      rw [List.nil_append, find?_of_read?_eq_some hread] at h
      simp at h
  | cons c before ih =>
    cases hread : read? (c :: (before ++ after)) with
    | some found =>
      rw [List.cons_append, find?_of_read?_eq_some hread] at h
      simp at h
    | none =>
      rw [List.cons_append, find?_cons_of_read?_eq_none hread, Option.map_eq_none_iff] at h
      exact ih h

/-! ## All opening tags -/

theorem all_of_find?_eq_none (h : find? text = none) : all text = [] := by
  rw [all]
  split
  · rfl
  · rename_i hfound
    rw [h] at hfound
    simp at hfound

theorem all_of_find?_eq_some (h : find? text = some (before, tag, after)) :
    all text = tag :: all after := by
  rw [all]
  split
  · rename_i hfound
    rw [h] at hfound
    simp at hfound
  · rename_i hfound
    rw [h] at hfound
    simp only [Option.some.injEq, Prod.mk.injEq] at hfound
    obtain ⟨-, rfl, rfl⟩ := hfound
    rfl

/-- The tags of a text do not change with what is before the first. -/
theorem all_eq_of_find?_eq_map {text' : List Char} (gap : List Char)
    (h : find? text' = (find? text).map (Prod.map (gap ++ ·) id)) : all text' = all text := by
  cases hf : find? text with
  | none =>
    rw [hf] at h
    rw [all_of_find?_eq_none hf, all_of_find?_eq_none h]
  | some found =>
    obtain ⟨before, tag, after⟩ := found
    rw [hf] at h
    rw [all_of_find?_eq_some hf, all_of_find?_eq_some h]

theorem all_append_left {gap : List Char} (h : '<' ∉ gap) (text : List Char) :
    all (gap ++ text) = all text :=
  all_eq_of_find?_eq_map gap (find?_append_left h text)

theorem all_write_append (h : tag.WellFormed) (after : List Char) :
    all (tag.write ++ after) = tag :: all after :=
  all_of_find?_eq_some (find?_of_read?_eq_some (read?_write_append h after))

end OpenTag

theorem containsTag_append_of_not_mem {more : List Char} (h : '>' ∉ more) (text : List Char) :
    containsTag (text ++ more) = containsTag text := by
  rw [containsTag, containsTag, OpenTag.find?_append_of_not_mem h, Option.isSome_map]

theorem containsTag_append_write {gap : List Char} {tag : OpenTag} (hgap : '<' ∉ gap)
    (htag : tag.WellFormed) (after : List Char) :
    containsTag (gap ++ (tag.write ++ after)) = true := by
  rw [containsTag, OpenTag.find?_append_left hgap, OpenTag.find?_of_read?_eq_some
    (OpenTag.read?_write_append htag after)]
  rfl

/-- No opening tag is written anywhere in a text. -/
def Untagged (text : List Char) : Prop :=
  ∀ tag : OpenTag, tag.WellFormed → ¬ tag.write <:+: text

theorem untagged_of_containsTag_eq_false {text : List Char} (h : containsTag text = false) :
    Untagged text := by
  rintro tag htag ⟨before, after, rfl⟩
  have hfind : OpenTag.find? (before ++ (tag.write ++ after)) = none := by
    rw [containsTag, Option.isSome_eq_false_iff, Option.isNone_iff_eq_none] at h
    rwa [← List.append_assoc]
  have hread := OpenTag.read?_eq_none_of_find?_eq_none hfind
  rw [OpenTag.read?_write_append htag after] at hread
  simp at hread

/-! ## Closing tags -/

theorem closeTag_eq_append (name : List Char) :
    closeTag name = '<' :: '/' :: name ++ ['>'] := rfl

/-- No opening tag begins where a closing tag does. -/
theorem OpenTag.read?_closeTag_append (name text : List Char) :
    OpenTag.read? (closeTag name ++ text) = none := by
  rw [Option.eq_none_iff_forall_ne_some]
  rintro ⟨tag, after⟩ h
  obtain ⟨htag, heq⟩ := OpenTag.read?_eq_some_iff.mp h
  obtain ⟨c, cs, hname⟩ := List.exists_cons_of_ne_nil htag.name_ne_nil
  have hc : c = '/' := by
    have : '/' = c := by
      simp [closeTag, OpenTag.write, hname] at heq
      exact heq.1
    exact this.symm
  have := htag.name_chars c (by simp [hname])
  rw [hc] at this
  exact absurd this (by decide)

theorem OpenTag.all_closeTag_append {name : List Char}
    (h : ∀ c ∈ name, isNameChar c = true) (text : List Char) :
    OpenTag.all (closeTag name ++ text) = OpenTag.all text := by
  apply OpenTag.all_eq_of_find?_eq_map (closeTag name)
  have hrest : '<' ∉ '/' :: (name ++ ['>']) := by
    have := lt_not_mem_of_isNameChar h
    simpa using this
  have hread := OpenTag.read?_closeTag_append name text
  rw [closeTag, List.cons_append] at hread ⊢
  rw [OpenTag.find?_cons_of_read?_eq_none hread, OpenTag.find?_append_left hrest, Option.map_map]
  rfl

end Receipt.Markup
