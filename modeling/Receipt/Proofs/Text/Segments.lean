import Mathlib.Algebra.Order.Floor.Div
import Mathlib.GroupTheory.GroupAction.Ring
import Receipt.Proofs.Text.Columns

/-!
# The segments of a line

A line that is cut at a width falls into segments of that many characters, of which only the last
may be shorter.  So segment `k` is what stands from character `k * width` on, and there are as many
segments as the width goes into the length, rounded up.

* `segments`: the segments of a line, given one by one.
* `cut_eq_segments`: cutting gives these.
* `flatten_splitLines`: what the lines of a text have together.
-/

namespace Receipt.Text

/-- The segments of `size` characters of a line, of which the last may be shorter.  An empty line is
one empty segment. -/
def segments (size : Nat) (line : List Char) : List (List Char) :=
  (List.range (max 1 (line.length ⌈/⌉ size))).map fun k => (line.drop (k * size)).take size

theorem length_segments (size : Nat) (line : List Char) :
    (segments size line).length = max 1 (line.length ⌈/⌉ size) := by
  rw [segments, List.length_map, List.length_range]

/-- After the first piece come the pieces of the rest. -/
theorem ceilDiv_succ_of_drop {α : Type} (size : Nat) (x : α) (xs : List α) :
    (x :: xs).length ⌈/⌉ (size + 1) = (xs.drop size).length ⌈/⌉ (size + 1) + 1 := by
  rw [Nat.ceilDiv_eq_add_pred_div, Nat.ceilDiv_eq_add_pred_div, List.length_drop, List.length_cons,
    ← Nat.add_div_right _ (Nat.succ_pos size)]
  by_cases h : size ≤ xs.length
  · congr 1
    omega
  · rw [Nat.div_eq_of_lt_le (k := 1) (by omega) (by omega),
      Nat.div_eq_of_lt_le (k := 1) (by omega) (by omega)]

theorem pieces_eq {α : Type} (size : Nat) (xs : List α) :
    pieces size xs = (List.range (xs.length ⌈/⌉ (size + 1))).map fun k =>
      (xs.drop (k * (size + 1))).take (size + 1) := by
  fun_induction pieces size xs with
  | case1 => simp
  | case2 x xs ih =>
    rw [ceilDiv_succ_of_drop, List.range_succ_eq_map, List.map_cons, List.map_map, ih,
      Nat.zero_mul, List.drop_zero, List.take_succ_cons]
    congr 1
    apply List.map_congr_left
    intro k _
    have hstart : (k + 1) * (size + 1) = size + k * (size + 1) + 1 := by
      rw [Nat.succ_mul]
      omega
    rw [Function.comp, Nat.succ_eq_add_one, hstart, List.drop_succ_cons, List.drop_drop]

/-- A line that is cut falls into its segments, where a width of zero counts as one. -/
theorem cut_eq_segments (width : Nat) (line : List Char) :
    cut width line = segments (max 1 width) line := by
  rw [cut, segments]
  split
  · rename_i hempty
    rw [List.isEmpty_iff.mp hempty]
    simp
  · rename_i hne
    have hsize : width - 1 + 1 = max 1 width := by omega
    have hpos : 0 < line.length := List.length_pos_iff.mpr (mt List.isEmpty_iff.mpr hne)
    have hcount : max 1 (line.length ⌈/⌉ max 1 width) = line.length ⌈/⌉ max 1 width := by
      rw [Nat.ceilDiv_eq_add_pred_div]
      refine Nat.max_eq_right ((Nat.one_le_div_iff (by omega)).mpr (by omega))
    rw [pieces_eq, hsize, hcount]

/-- The lines of a text have all its characters but the line feeds. -/
theorem flatten_splitLines (text : List Char) :
    (splitLines text).flatten = text.filter (· ≠ '\n') := by
  induction text with
  | nil => rfl
  | cons c cs ih =>
    obtain ⟨line, lines, hsplit⟩ := List.exists_cons_of_ne_nil (splitLines_ne_nil cs)
    rw [hsplit, List.flatten_cons] at ih
    by_cases hc : c = '\n'
    · rw [splitLines, if_pos hc, hsplit, List.flatten_cons, List.flatten_cons, ih, List.nil_append,
        List.filter_cons_of_neg (by simpa using hc)]
    · rw [splitLines, if_neg hc, hsplit, List.flatten_cons, List.cons_append, ih,
        List.filter_cons_of_pos (by simpa using hc)]

end Receipt.Text
