import Receipt.Markup.Span
import Receipt.Proofs.Markup.Close
import Receipt.Proofs.Markup.Outline
import Receipt.Proofs.Text.Places

/-!
# Where the elements of a text stand

The elements of a text are found from left to right.  Each takes a part of the text for itself, from
its opening tag to the first close that matches it, and the search goes on behind that part.  An
opening tag outside of these parts is passed over, and this happens only to tags that no close
matches.

* `Span.Fits`: what stands in a text where an element is found.
* `Element.fits_of_mem_spansFrom`, `Element.pairwise_spansFrom`: the spans fit, one behind the
  other.
* `Element.read?_eq_none_of_outside`: no element begins outside of the spans.
* `Element.spans_fit_and_skip_none`: what the spans of any text are.
-/

namespace Receipt.Markup

open Text (StandsAt)

/-- What stands in a text where an element is found: the element as it is written, with a
well-formed opening tag, up to the first close that matches it. -/
structure Span.Fits (text : List Char) (span : Span) : Prop where
  stands : StandsAt text span.element.write span.start span.stop
  wellFormed : span.element.tag.WellFormed
  matched : Matched span.element.tag.name 0 span.element.inner
  /-- With an earlier close, the text inside is not matched. -/
  first : ∀ inner stop, StandsAt text { span.element with inner }.write span.start stop →
    stop < span.stop → ¬ Matched span.element.tag.name 0 inner

namespace Element

variable {text rest passed after : List Char} {element : Element} {offset : Nat}

/-! ## One element -/

theorem write_ne_nil (element : Element) : element.write ≠ [] := by
  simp [write, OpenTag.write]

/-- The first element stands where the search for its close ends. -/
theorem fits_of_next? (before : List Char) (h : next? text = some (element, after)) :
    Span.Fits (before ++ text)
      { element
        start := Text.Utf8.length (before ++ element.before)
        stop := Text.Utf8.length (before ++ element.before) + Text.Utf8.length element.write } := by
  obtain ⟨rest, htext, htag, hsplit⟩ := exists_of_next? h
  have hname := lt_not_mem_of_isNameChar htag.name_chars
  refine ⟨?_, htag, matched_of_splitAtClose? hsplit, ?_⟩
  · rw [eq_of_next? h, ← List.append_assoc, ← List.append_assoc]
    exact Text.standsAt_append _ _ _
  · rintro inner stop ⟨before', after', heq, hstart, rfl⟩ hlt
    -- both openings have as many bytes before them, so the texts behind them are the same
    have hplace : before ++ element.before ++ (element.tag.write ++ rest) =
        before' ++ (element.tag.write ++ (inner ++ (closeTag element.tag.name ++ after'))) := by
      rw [htext] at heq
      simpa only [write, List.append_assoc] using heq
    obtain ⟨-, hrest⟩ := Text.append_inj_of_length_eq hplace hstart.symm
    have hrest : rest = inner ++ (closeTag element.tag.name ++ after') :=
      List.append_cancel_left hrest
    have hinner : inner ++ (closeTag element.tag.name ++ after') =
        element.inner ++ (closeTag element.tag.name ++ after) := by
      rw [← hrest, eq_of_splitAtClose? hsplit, List.append_assoc]
    have hshorter : Text.Utf8.length inner < Text.Utf8.length element.inner := by
      simp only [write, Text.Utf8.length_append] at hlt hstart
      omega
    obtain ⟨c, more, hmore, -⟩ := Text.exists_cons_append_of_length_lt hinner hshorter
    refine not_matched_of_length_lt hname hsplit (hrest.trans (List.append_assoc _ _ _).symm) ?_
    rw [hmore, List.length_append, List.length_cons]
    omega

/-- The first element begins no later than any other. -/
theorem exists_next?_of_read?_ne_none (h : read? rest ≠ none) (passed : List Char) :
    ∃ element after,
      next? (passed ++ rest) = some (element, after) ∧ element.before <+: passed := by
  induction passed with
  | nil =>
    obtain ⟨⟨tag, inner, after⟩, hread⟩ := Option.ne_none_iff_exists'.mp h
    exact ⟨⟨[], tag, inner⟩, after, next?_of_read?_eq_some hread, List.nil_prefix⟩
  | cons c passed ih =>
    rw [List.cons_append]
    cases hread : read? (c :: (passed ++ rest)) with
    | some found =>
      obtain ⟨tag, inner, after⟩ := found
      exact ⟨⟨[], tag, inner⟩, after, next?_of_read?_eq_some hread, List.nil_prefix⟩
    | none =>
      obtain ⟨element, after, hnext, hbefore⟩ := ih
      refine ⟨preceded [c] element, after, ?_, (List.prefix_cons_inj c).mpr hbefore⟩
      rw [next?_cons_of_read?_eq_none hread, hnext]
      rfl

/-! ## All elements -/

theorem all_of_next?_eq_none (h : next? text = none) : all text = [] := by
  rw [all]
  split
  · rfl
  · rename_i hfound
    rw [h] at hfound
    simp at hfound

theorem all_of_next?_eq_some (h : next? text = some (element, after)) :
    all text = element :: all after := by
  rw [all]
  split
  · rename_i hfound
    rw [h] at hfound
    simp at hfound
  · rename_i hfound
    rw [h] at hfound
    simp only [Option.some.injEq, Prod.mk.injEq] at hfound
    obtain ⟨rfl, rfl⟩ := hfound
    rfl

/-- Every element of a text fits, whatever stands before the text. -/
theorem fits_of_mem_spansFrom (before text : List Char) :
    ∀ span ∈ spansFrom (Text.Utf8.length before) (all text), span.Fits (before ++ text) := by
  induction hlen : text.length using Nat.strongRecOn generalizing before text with
  | ind n ih =>
    cases hnext : next? text with
    | none =>
      rw [all_of_next?_eq_none hnext]
      intro span hspan
      exact absurd hspan List.not_mem_nil
    | some found =>
      obtain ⟨element, after⟩ := found
      have hlt := (length_lt_of_next? hnext).2
      have hfirst := fits_of_next? before hnext
      have hrest := ih after.length (by omega) (before ++ element.before ++ element.write) after rfl
      have htext : before ++ element.before ++ element.write ++ after = before ++ text := by
        rw [eq_of_next? hnext]
        simp only [List.append_assoc]
      rw [htext, Text.Utf8.length_append] at hrest
      rw [all_of_next?_eq_some hnext, spansFrom, ← Text.Utf8.length_append]
      exact List.forall_mem_cons.mpr ⟨hfirst, hrest⟩

theorem le_start_of_mem_spansFrom {elements : List Element} :
    ∀ span ∈ spansFrom offset elements, offset ≤ span.start := by
  induction elements generalizing offset with
  | nil => exact fun span hspan => absurd hspan List.not_mem_nil
  | cons element elements ih =>
    rw [spansFrom]
    refine List.forall_mem_cons.mpr ⟨Nat.le_add_right _ _, fun span hspan => ?_⟩
    have := ih span hspan
    omega

/-- Each element stands behind those before it. -/
theorem pairwise_spansFrom (offset : Nat) (elements : List Element) :
    (spansFrom offset elements).Pairwise fun earlier later => earlier.stop ≤ later.start := by
  induction elements generalizing offset with
  | nil => exact List.Pairwise.nil
  | cons element elements ih =>
    rw [spansFrom]
    exact List.pairwise_cons.mpr ⟨le_start_of_mem_spansFrom, ih _⟩

/-- Outside of the spans no element begins. -/
theorem read?_eq_none_of_outside (htext : text = passed ++ rest)
    (hout : ∀ span ∈ spansFrom offset (all text),
      offset + Text.Utf8.length passed < span.start ∨
        span.stop ≤ offset + Text.Utf8.length passed) : read? rest = none := by
  by_contra hread
  induction hlen : text.length using Nat.strongRecOn generalizing text passed offset with
  | ind n ih =>
    obtain ⟨element, after, hnext, hprefix⟩ := exists_next?_of_read?_ne_none hread passed
    rw [← htext] at hnext
    rw [all_of_next?_eq_some hnext, spansFrom] at hout
    obtain ⟨hfirst, hrest⟩ := List.forall_mem_cons.mp hout
    -- the first element does not begin behind this place, so it ends before it
    obtain ⟨gap, hgap⟩ := hprefix
    have hle : Text.Utf8.length (element.before ++ element.write) ≤ Text.Utf8.length passed := by
      rw [← hgap] at hfirst
      rw [← hgap]
      simp only [Text.Utf8.length_append] at hfirst ⊢
      omega
    have heq := (eq_of_next? hnext).symm.trans htext
    obtain ⟨more, hpassed, hafter⟩ := Text.exists_append_of_length_le heq hle
    have hlt := (length_lt_of_next? hnext).2
    have hoffset : offset + Text.Utf8.length element.before +
        Text.Utf8.length element.write + Text.Utf8.length more =
          offset + Text.Utf8.length passed := by
      rw [hpassed, Text.Utf8.length_append, Text.Utf8.length_append]
      omega
    rw [← hoffset] at hrest
    exact ih after.length (by omega) hafter hrest rfl

/-- The spans of any text.  Each is that of an element as it is written: an opening tag, a text in
which as many elements of the name are opened as are closed, and the close, which is the first with
such a text before it.  They follow each other without overlapping.  An opening tag that begins
outside of all spans has no such close anywhere behind it. -/
theorem spans_fit_and_skip_none (text : List Char) :
    (∀ span ∈ spans text, span.start < span.stop ∧ span.Fits text) ∧
    ((spans text).Pairwise fun earlier later => earlier.stop ≤ later.start) ∧
    ∀ before tag rest, text = before ++ (OpenTag.write tag ++ rest) → tag.WellFormed →
      (∀ span ∈ spans text,
        Text.Utf8.length before < span.start ∨ span.stop ≤ Text.Utf8.length before) →
      ∀ inner after, rest = inner ++ closeTag tag.name ++ after → ¬ Matched tag.name 0 inner := by
  refine ⟨fun span hspan => ?_, pairwise_spansFrom 0 (all text), ?_⟩
  · have hfits : span.Fits text := fits_of_mem_spansFrom [] text span hspan
    exact ⟨hfits.stands.start_lt span.element.write_ne_nil, hfits⟩
  · intro before tag rest htext htag hout inner after hrest
    have hnone : read? (tag.write ++ rest) = none := by
      have hout' : ∀ span ∈ spansFrom 0 (all text), 0 + Text.Utf8.length before < span.start ∨
          span.stop ≤ 0 + Text.Utf8.length before := by
        rw [Nat.zero_add]
        exact hout
      exact read?_eq_none_of_outside htext hout'
    rw [read?_of_read? (OpenTag.read?_write_append htag rest), Option.map_eq_none_iff] at hnone
    have hname := lt_not_mem_of_isNameChar htag.name_chars
    exact not_matched_of_splitAtClose?_eq_none hname hnone hrest

/-- A tag that is not closed is passed over, and so is a close that closes nothing. -/
example : (spans "<br>é<td>x</td></td>".toList).map (fun span => (span.start, span.stop)) =
    [(6, 16)] := by
  decide +kernel

end Element

end Receipt.Markup
