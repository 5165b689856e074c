import Receipt.Text.Blank
import Receipt.Text.Word

/-!
# Blanks and trimming

A text is its trimmed form with blanks at the ends, so nothing is trimmed from a text without
blanks, nor from a text that is trimmed.  No blank is part of a word.
-/

namespace Receipt.Text

theorem exists_append_trimStart (text : List Char) :
    ∃ gap, (∀ c ∈ gap, isBlank c = true) ∧ text = gap ++ trimStart text :=
  ⟨text.takeWhile isBlank, List.all_eq_true.mp List.all_takeWhile,
    List.takeWhile_append_dropWhile.symm⟩

theorem exists_trimEnd_append (text : List Char) :
    ∃ gap, (∀ c ∈ gap, isBlank c = true) ∧ text = trimEnd text ++ gap := by
  obtain ⟨gap, hgap, htext⟩ := exists_append_trimStart text.reverse
  refine ⟨gap.reverse, fun c hc => hgap c (List.mem_reverse.mp hc), ?_⟩
  calc text = (gap ++ trimStart text.reverse).reverse := by rw [← htext, List.reverse_reverse]
    _ = trimEnd text ++ gap.reverse := List.reverse_append

/-- Trimming takes blanks away at both ends and nothing else. -/
theorem exists_append_trim_append (text : List Char) :
    ∃ first last, (∀ c ∈ first, isBlank c = true) ∧ (∀ c ∈ last, isBlank c = true) ∧
      text = first ++ (trim text ++ last) := by
  obtain ⟨first, hfirst, hstart⟩ := exists_append_trimStart text
  obtain ⟨last, hlast, hend⟩ := exists_trimEnd_append (trimStart text)
  exact ⟨first, last, hfirst, hlast, hstart.trans (by rw [trim, ← hend])⟩

theorem trimStart_of_head {text : List Char} (h : ∀ c ∈ text.head?, isBlank c = false) :
    trimStart text = text := by
  cases text with
  | nil => rfl
  | cons c cs => exact List.dropWhile_cons_of_neg (by rw [h c rfl]; exact Bool.false_ne_true)

theorem trimStart_of_not_blank {text : List Char} (h : ∀ c ∈ text, isBlank c = false) :
    trimStart text = text :=
  trimStart_of_head fun c hc => h c (List.mem_of_mem_head? hc)

/-- Nothing is trimmed from a text without blanks. -/
theorem trim_of_not_blank {text : List Char} (h : ∀ c ∈ text, isBlank c = false) :
    trim text = text := by
  have hreverse : text.reverse.dropWhile isBlank = text.reverse :=
    trimStart_of_not_blank fun c hc => h c (List.mem_reverse.mp hc)
  rw [trim, trimStart_of_not_blank h, trimEnd, hreverse, List.reverse_reverse]

/-- The first character that is left of a text is no blank. -/
theorem head?_trimStart (text : List Char) : ∀ c ∈ (trimStart text).head?, isBlank c = false := by
  intro c hc
  have hhead := List.head?_dropWhile_not isBlank text
  rw [← trimStart, hc] at hhead
  exact hhead

/-- A text that is trimmed is not trimmed any more. -/
theorem trim_trim (text : List Char) : trim (trim text) = trim text := by
  have hstart : trimStart (trim text) = trim text := by
    obtain ⟨gap, -, hend⟩ := exists_trimEnd_append (trimStart text)
    refine trimStart_of_head fun c hc => head?_trimStart text c ?_
    rw [hend, List.head?_append, ← trim, hc]
    rfl
  have hend : trimEnd (trim text) = trim text := by
    have hreverse : (trim text).reverse = trimStart (trimStart text).reverse :=
      List.reverse_reverse _
    have hagain : trimStart (trim text).reverse = (trim text).reverse := by
      rw [hreverse]
      exact trimStart_of_head (head?_trimStart _)
    rw [trimEnd, ← trimStart, hagain, List.reverse_reverse]
  rw [trim, hstart, hend]

/-- No range of word characters beyond ASCII reaches a blank. -/
theorem wideWordRanges_between_blanks : ∀ range ∈ wideWordRanges,
    0x3000 < range.1 ∨ (0xA0 < range.1 ∧ range.2 < 0x1680) ∨
      (0x1680 < range.1 ∧ range.2 < 0x2000) ∨ (0x200A < range.1 ∧ range.2 < 0x2028) ∨
      (0x202F < range.1 ∧ range.2 < 0x205F) ∨ (0x205F < range.1 ∧ range.2 < 0x3000) := by
  decide +kernel

theorem isWord_eq_false_of_isBlank {c : Char} (h : isBlank c = true) : isWord c = false := by
  simp only [isBlank, Bool.or_eq_true, Bool.and_eq_true, decide_eq_true_eq, beq_iff_eq] at h
  rw [isWord]
  split
  · -- six blanks are ASCII
    rename_i hascii
    have hnone : ∀ n ∈ [0x09, 0x0A, 0x0B, 0x0C, 0x0D, 0x20],
        ((Char.ofNat n).isAlphanum || Char.ofNat n == '_') = false := by decide
    have hmem : c.toNat ∈ [0x09, 0x0A, 0x0B, 0x0C, 0x0D, 0x20] := by
      simp only [List.mem_cons, List.not_mem_nil, or_false]
      omega
    rw [← Char.ofNat_toNat c]
    exact hnone c.toNat hmem
  · rename_i hwide
    rw [Bool.eq_false_iff]
    intro hcovers
    obtain ⟨range, hrange, hfirst, hlast⟩ := CharRanges.covers_iff.mp hcovers
    have hgap := wideWordRanges_between_blanks range hrange
    omega

end Receipt.Text
