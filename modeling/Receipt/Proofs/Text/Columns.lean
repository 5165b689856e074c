import Receipt.Text.Columns

/-!
# Lines in one text, and the pieces of a line

A text is split at its line feeds, so its lines have none.  Lines that are joined come back when the
text is split, with one exception: a single empty line is joined to the empty text, and as the text
of a cell that stands for no line at all.

* `Separable`: the lines that are told from no other lines once they are one text.
* `splitLines_joinLines`, `joinLines_eq_nil_iff`: why these are the ones.
* `length_le_of_mem_cut`: the pieces of a line fit the width at which it was cut.
-/

namespace Receipt.Text

variable {line text : List Char} {lines : List (List Char)}

/-! ## Splitting -/

theorem lineFeed_not_mem_splitLines (h : line ∈ splitLines text) : '\n' ∉ line := by
  induction text generalizing line with
  | nil =>
    rw [splitLines, List.mem_singleton] at h
    rw [h]
    exact List.not_mem_nil
  | cons c cs ih =>
    obtain ⟨first, rest, hsplit⟩ := List.exists_cons_of_ne_nil (splitLines_ne_nil cs)
    rw [hsplit] at ih
    by_cases hc : c = '\n'
    · rw [splitLines, if_pos hc, hsplit] at h
      rcases List.mem_cons.mp h with rfl | hrest
      · exact List.not_mem_nil
      · exact ih hrest
    · rw [splitLines, if_neg hc, hsplit] at h
      rcases List.mem_cons.mp h with rfl | hrest
      · intro hmem
        rcases List.mem_cons.mp hmem with hfeed | hfirst
        · exact hc hfeed.symm
        · exact ih List.mem_cons_self hfirst
      · exact ih (List.mem_cons_of_mem _ hrest)

theorem splitLines_of_not_mem (h : '\n' ∉ line) : splitLines line = [line] := by
  induction line with
  | nil => rfl
  | cons c cs ih =>
    simp only [List.mem_cons, not_or] at h
    rw [splitLines, if_neg (Ne.symm h.1), ih h.2]

theorem splitLines_append_lineFeed (h : '\n' ∉ line) (text : List Char) :
    splitLines (line ++ '\n' :: text) = line :: splitLines text := by
  induction line with
  | nil => rfl
  | cons c cs ih =>
    simp only [List.mem_cons, not_or] at h
    rw [List.cons_append, splitLines, if_neg (Ne.symm h.1), ih h.2]

/-! ## Joining -/

theorem splitLines_joinLines (hne : lines ≠ []) (h : ∀ line ∈ lines, '\n' ∉ line) :
    splitLines (joinLines lines) = lines := by
  fun_induction joinLines lines with
  | case1 => exact absurd rfl hne
  | case2 line => exact splitLines_of_not_mem (h line List.mem_cons_self)
  | case3 line next lines ih =>
    obtain ⟨hline, hlines⟩ := List.forall_mem_cons.mp h
    rw [splitLines_append_lineFeed hline, ih (List.cons_ne_nil _ _) hlines]

theorem joinLines_eq_nil_iff : joinLines lines = [] ↔ lines = [] ∨ lines = [[]] := by
  fun_cases joinLines lines with
  | case1 => simp
  | case2 line => simp
  | case3 line next lines => simp

theorem sublist_joinLines (h : line ∈ lines) : line.Sublist (joinLines lines) := by
  fun_induction joinLines lines with
  | case1 => exact absurd h List.not_mem_nil
  | case2 only =>
    obtain rfl : line = only := List.mem_singleton.mp h
    exact List.Sublist.refl line
  | case3 first next lines ih =>
    rcases List.mem_cons.mp h with rfl | hrest
    · exact List.sublist_append_left line _
    · exact ((ih hrest).cons '\n').trans (List.sublist_append_right first _)

theorem mem_of_mem_joinLines {c : Char} (h : c ∈ joinLines lines) :
    c = '\n' ∨ ∃ line ∈ lines, c ∈ line := by
  fun_induction joinLines lines with
  | case1 => exact absurd h List.not_mem_nil
  | case2 only => exact Or.inr ⟨only, List.mem_singleton_self only, h⟩
  | case3 first next lines ih =>
    rcases List.mem_append.mp h with hfirst | hrest
    · exact Or.inr ⟨first, List.mem_cons_self, hfirst⟩
    · rcases List.mem_cons.mp hrest with hfeed | hrest
      · exact Or.inl hfeed
      · rcases ih hrest with hfeed | ⟨line, hline, hc⟩
        · exact Or.inl hfeed
        · exact Or.inr ⟨line, List.mem_cons_of_mem _ hline, hc⟩

/-- All lines of a text are empty exactly if it has no character but line feeds. -/
theorem forall_splitLines_eq_nil_iff :
    (∀ line ∈ splitLines text, line = []) ↔ ∀ c ∈ text, c = '\n' := by
  constructor
  · intro hlines c hc
    rw [← joinLines_splitLines text] at hc
    rcases mem_of_mem_joinLines hc with hfeed | ⟨line, hline, hmem⟩
    · exact hfeed
    · rw [hlines line hline] at hmem
      exact absurd hmem List.not_mem_nil
  · intro hfeeds line hline
    rw [List.eq_nil_iff_forall_not_mem]
    intro c hc
    have hsublist := sublist_joinLines hline
    rw [joinLines_splitLines] at hsublist
    rw [hfeeds c (hsublist.subset hc)] at hc
    exact lineFeed_not_mem_splitLines hline hc

/-- Lines that can be joined to one text without being mistaken for others. -/
structure Separable (lines : List (List Char)) : Prop where
  lineFeed : ∀ line ∈ lines, '\n' ∉ line
  ne : lines ≠ [[]]

namespace Separable

theorem nil : Separable [] where
  lineFeed := by simp
  ne := by simp

/-- Of two separable parts neither is a single empty line, so together they are not one either. -/
theorem append {first second : List (List Char)} (hfirst : Separable first)
    (hsecond : Separable second) : Separable (first ++ second) where
  lineFeed := by
    intro line hline
    rcases List.mem_append.mp hline with hline | hline
    · exact hfirst.lineFeed line hline
    · exact hsecond.lineFeed line hline
  ne := by
    intro hsingle
    rcases List.append_eq_singleton_iff.mp hsingle with ⟨-, hone⟩ | ⟨hone, -⟩
    · exact hsecond.ne hone
    · exact hfirst.ne hone

end Separable

/-! ## Cutting and padding -/

theorem sublist_of_mem_cut {width : Nat} {piece : List Char} (h : piece ∈ cut width line) :
    piece.Sublist line := by
  have hpiece := List.sublist_flatten_of_mem h
  rwa [flatten_cut] at hpiece

theorem length_le_of_mem_pieces {α : Type} {size : Nat} {xs piece : List α}
    (h : piece ∈ pieces size xs) : piece.length ≤ size + 1 := by
  fun_induction pieces size xs with
  | case1 => exact absurd h List.not_mem_nil
  | case2 x xs ih =>
    rcases List.mem_cons.mp h with rfl | hrest
    · rw [List.length_cons, List.length_take]
      omega
    · exact ih hrest

/-- A width of zero counts as one. -/
theorem length_le_of_mem_cut {width : Nat} {piece : List Char} (h : piece ∈ cut width line) :
    piece.length ≤ max 1 width := by
  rw [cut] at h
  split at h
  · rw [List.mem_singleton.mp h]
    exact Nat.zero_le _
  · have := length_le_of_mem_pieces h
    omega

theorem lineFeed_not_mem_padRight (h : '\n' ∉ line) (width : Nat) :
    '\n' ∉ padRight width line := by
  rw [padRight, List.mem_append, not_or]
  refine ⟨h, fun hmem => ?_⟩
  exact absurd (List.eq_of_mem_replicate hmem) (by decide)

end Receipt.Text
