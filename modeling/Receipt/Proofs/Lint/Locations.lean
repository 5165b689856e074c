import Mathlib.Data.List.DropRight
import Mathlib.Data.List.Induction
import Mathlib.Data.Nat.PSub
import Receipt.Lint.Diagnostic
import Receipt.Proofs.Text.Places
import Receipt.Proofs.Text.Utf8

/-!
# Lines and columns

The check keeps the place that it has come to and moves it on with every character.  The place can
also be found without going through the text, from the number of bytes before it.

* `Location.line_after` and `Location.column_after` count bytes: the line feeds before a place, and
  what comes after the last of them.
* `Text.lineStarts` is the table of the offsets at which lines start.  `Text.lineStarts_append` says
  that a place splits it in two, and `Location.exists_lineStarts_eq` what the line before the place
  starts with.
* `Location.locate?_lineStarts`: looking an offset up in the table gives the place.  Its two
  subtractions are partial, so neither goes below zero.
* `Location.offset?_lineStarts`: looking the place up in the table gives the offset.
-/

namespace Receipt

/-! ## Bytes -/

namespace Text.Utf8

/-- The byte of a line feed. -/
def lineFeed : UInt8 := 0x0A

theorem length_flatMap_utf8EncodeChar (text : List Char) :
    (text.flatMap String.utf8EncodeChar).length = length text := by
  induction text with
  | nil => rfl
  | cons c cs ih =>
    rw [List.flatMap_cons, List.length_append, String.length_utf8EncodeChar, ih, length_cons]

/-- A byte of a character is its code point or is not ASCII. -/
theorem eq_or_le_of_mem_utf8EncodeChar (c : Char) :
    ∀ byte ∈ String.utf8EncodeChar c, byte.toNat = c.toNat ∨ 0x80 ≤ byte.toNat := by
  have hwide {n : Nat} (hlow : 0x80 ≤ n) (hhigh : n < 256) : 0x80 ≤ (UInt8.ofNat n).toNat := by
    rw [toNat_ofNat_of_lt_256 hhigh]
    exact hlow
  intro byte
  fun_cases String.utf8EncodeChar c with
  | case1 v hone =>
    intro hbyte
    rw [List.mem_singleton.mp hbyte]
    exact .inl (toNat_ofNat_of_lt_256 (by omega))
  | case2 v hone htwo =>
    simp only [List.mem_cons, List.not_mem_nil, or_false]
    rintro (rfl | rfl)
    all_goals exact .inr (hwide (by omega) (by omega))
  | case3 v hone htwo hthree =>
    simp only [List.mem_cons, List.not_mem_nil, or_false]
    rintro (rfl | rfl | rfl)
    all_goals exact .inr (hwide (by omega) (by omega))
  | case4 v hone htwo hthree =>
    simp only [List.mem_cons, List.not_mem_nil, or_false]
    rintro (rfl | rfl | rfl | rfl)
    all_goals exact .inr (hwide (by omega) (by omega))

/-- The byte of a line feed is no part of another character. -/
theorem lineFeed_not_mem_utf8EncodeChar {c : Char} (h : c ≠ '\n') :
    lineFeed ∉ String.utf8EncodeChar c := by
  intro hmem
  rcases eq_or_le_of_mem_utf8EncodeChar c lineFeed hmem with heq | hle
  · exact h (Char.toNat_inj.mp heq.symm)
  · exact absurd hle (by decide)

end Text.Utf8

/-! ## The table of lines -/

namespace Text

variable {text before : List Char} {offset start : Nat}

/-- The offsets at which the lines of a text start, but for the first, where the text itself starts
at `offset`. -/
def lineStartsFrom (offset : Nat) : List Char → List Nat
  | [] => []
  | c :: cs =>
    let next := offset + c.utf8Size
    if c = '\n' then next :: lineStartsFrom next cs else lineStartsFrom next cs

/-- The offsets in bytes at which the lines of a text start. -/
def lineStarts (text : List Char) : List Nat :=
  0 :: lineStartsFrom 0 text

theorem lineStartsFrom_append (offset : Nat) (first second : List Char) :
    lineStartsFrom offset (first ++ second) =
      lineStartsFrom offset first ++ lineStartsFrom (offset + Utf8.length first) second := by
  induction first generalizing offset with
  | nil => rfl
  | cons c cs ih =>
    rw [List.cons_append, lineStartsFrom, lineStartsFrom, ih, Utf8.length_cons, ← Nat.add_assoc]
    split
    · rw [List.cons_append]
    · rfl

theorem bounds_of_mem_lineStartsFrom (h : start ∈ lineStartsFrom offset text) :
    offset < start ∧ start ≤ offset + Utf8.length text := by
  induction text generalizing offset with
  | nil => exact absurd h List.not_mem_nil
  | cons c cs ih =>
    have hsize := c.utf8Size_pos
    rw [lineStartsFrom] at h
    rw [Utf8.length_cons]
    by_cases hc : c = '\n'
    · rw [if_pos hc] at h
      rcases List.mem_cons.mp h with rfl | hrest
      · omega
      · have hbounds := ih hrest
        omega
    · rw [if_neg hc] at h
      have hbounds := ih h
      omega

theorem le_of_mem_lineStarts (h : start ∈ lineStarts text) : start ≤ Utf8.length text := by
  rcases List.mem_cons.mp h with rfl | hrest
  · omega
  · have hbounds := bounds_of_mem_lineStartsFrom hrest
    omega

/-- The lines that start up to a place, and those that start after it. -/
theorem lineStarts_append (before after : List Char) :
    lineStarts (before ++ after) =
      lineStarts before ++ lineStartsFrom (Utf8.length before) after := by
  rw [lineStarts, lineStartsFrom_append, Nat.zero_add, ← List.cons_append]
  rfl

theorem lineStarts_concat (before : List Char) (c : Char) :
    lineStarts (before ++ [c]) =
      if c = '\n' then lineStarts before ++ [Utf8.length before + 1] else lineStarts before := by
  rw [lineStarts_append, lineStartsFrom, lineStartsFrom]
  by_cases hc : c = '\n'
  · rw [if_pos hc, if_pos hc, hc]
    rfl
  · rw [if_neg hc, if_neg hc, List.append_nil]

/-- Just the lines that start up to a place are found there. -/
theorem findIdx_lineStarts (before after : List Char) :
    (lineStarts (before ++ after)).findIdx (Utf8.length before < ·) =
      (lineStarts before).length := by
  have hbefore : (lineStarts before).findIdx (Utf8.length before < ·) =
      (lineStarts before).length := by
    rw [List.findIdx_eq_length]
    intro start hstart
    have hle := le_of_mem_lineStarts hstart
    exact decide_eq_false (by omega)
  have hafter :
      (lineStartsFrom (Utf8.length before) after).findIdx (Utf8.length before < ·) = 0 := by
    cases hstarts : lineStartsFrom (Utf8.length before) after with
    | nil => rfl
    | cons start starts =>
      have hbounds := bounds_of_mem_lineStartsFrom (hstarts ▸ List.mem_cons_self)
      rw [List.findIdx_cons, decide_eq_true hbounds.1, cond_true]
  rw [lineStarts_append, List.findIdx_append, hbefore, if_neg (Nat.lt_irrefl _), hafter,
    Nat.zero_add]

end Text

/-! ## Places -/

namespace Location

open Text (Utf8.length lineStarts)

theorem after_append (location : Location) (first second : List Char) :
    location.after (first ++ second) = (location.after first).after second :=
  List.foldl_append

/-- The place of an offset, where the lines start at the given offsets. -/
def locate? (starts : List Nat) (offset : Nat) : Option Location := do
  let line ← Nat.psub (starts.findIdx (offset < ·)) 1
  let column ← Nat.psub offset (starts[line]?.getD 0)
  return ⟨line + 1, column + 1⟩

/-- The offset of a place, where the lines start at the given offsets. -/
def offset? (starts : List Nat) (location : Location) : Option Nat :=
  starts[location.line - 1]?.map (· + (location.column - 1))

theorem after_concat (before : List Char) (c : Char) :
    after {} (before ++ [c]) = (after {} before).advance c :=
  List.foldl_concat advance {} c before

/-- The line of a place is the last that starts up to it, and its column is counted from there. -/
theorem exists_lineStarts_eq (before : List Char) :
    ∃ starts start, lineStarts before = starts ++ [start] ∧
      (after {} before).line = starts.length + 1 ∧ start ≤ Utf8.length before ∧
      start + (after {} before).column = Utf8.length before + 1 := by
  induction before using List.reverseRecOn with
  | nil => exact ⟨[], 0, rfl, rfl, Nat.le_refl 0, rfl⟩
  | append_singleton before c ih =>
    obtain ⟨starts, start, hstarts, hline, hle, hcolumn⟩ := ih
    have hsize := c.utf8Size_pos
    rw [Text.lineStarts_concat, after_concat, advance, Text.Utf8.length_append,
      Text.Utf8.length_cons, Text.Utf8.length_nil]
    by_cases hc : c = '\n'
    · -- a line starts behind the line feed, which is one byte long
      have hone : c.utf8Size = 1 := by rw [hc]; rfl
      rw [if_pos hc, if_pos hc]
      refine ⟨starts ++ [start], Utf8.length before + 1, by rw [hstarts], ?_, by omega, ?_⟩
      · rw [hline, List.length_append]
        rfl
      · show Utf8.length before + 1 + 1 = _
        omega
    · rw [if_neg hc, if_neg hc]
      refine ⟨starts, start, hstarts, hline, by omega, ?_⟩
      show start + ((after {} before).column + c.utf8Size) = _
      omega

/-- The line that a place is in starts at the offset that the table has for it. -/
theorem exists_getElem?_lineStarts (before after : List Char) :
    ∃ start, (lineStarts (before ++ after))[(lineStarts before).length - 1]? = some start ∧
      (Location.after {} before).line = (lineStarts before).length ∧
      start ≤ Utf8.length before ∧
      start + (Location.after {} before).column = Utf8.length before + 1 := by
  obtain ⟨starts, start, hstarts, hline, hle, hcolumn⟩ := exists_lineStarts_eq before
  have hlength : (lineStarts before).length = starts.length + 1 := by
    rw [hstarts, List.length_append]
    rfl
  refine ⟨start, ?_, by omega, hle, hcolumn⟩
  rw [hlength, Text.lineStarts_append, hstarts, List.append_assoc,
    List.getElem?_append_right (by omega), Nat.add_sub_cancel, Nat.sub_self]
  rfl

/-- The place of an offset is found in the table, and nothing is taken away from less. -/
theorem locate?_lineStarts (before after : List Char) :
    locate? (lineStarts (before ++ after)) (Utf8.length before) =
      some (Location.after {} before) := by
  obtain ⟨start, hstart, hline, hle, hcolumn⟩ := exists_getElem?_lineStarts before after
  have hlines : Nat.psub (lineStarts before).length 1 = some ((lineStarts before).length - 1) :=
    Nat.psub_eq_sub (Nat.le_add_left 1 _)
  have hcolumns : Nat.psub (Utf8.length before) start = some (Utf8.length before - start) :=
    Nat.psub_eq_sub hle
  have hpos : 0 < (lineStarts before).length := Nat.succ_pos _
  have hplace : (⟨(lineStarts before).length - 1 + 1, Utf8.length before - start + 1⟩ : Location) =
      Location.after {} before :=
    congrArg₂ mk (show _ = (Location.after {} before).line by omega)
      (show _ = (Location.after {} before).column by omega)
  rw [locate?, Text.findIdx_lineStarts, hlines, Option.bind_eq_bind, Option.bind_some, hstart,
    Option.getD_some, hcolumns, Option.bind_some, hplace]
  rfl

/-- The offset of a place is found in the table. -/
theorem offset?_lineStarts (before after : List Char) :
    offset? (lineStarts (before ++ after)) (Location.after {} before) =
      some (Utf8.length before) := by
  obtain ⟨start, hstart, hline, hle, hcolumn⟩ := exists_getElem?_lineStarts before after
  rw [offset?, hline, hstart, Option.map_some, Option.some.injEq]
  omega

/-! ## Counting bytes -/

/-- The line of a place is the number of line feeds before it, and one. -/
theorem line_after (before : List Char) :
    (after {} before).line =
      1 + (before.flatMap String.utf8EncodeChar).count Text.Utf8.lineFeed := by
  induction before using List.reverseRecOn with
  | nil => rfl
  | append_singleton before c ih =>
    rw [after_concat, advance, List.flatMap_append, List.flatMap_singleton, List.count_append]
    by_cases hc : c = '\n'
    · rw [if_pos hc, hc]
      show (after {} before).line + 1 = _ + (_ + 1)
      omega
    · rw [if_neg hc, List.count_eq_zero.mpr (Text.Utf8.lineFeed_not_mem_utf8EncodeChar hc)]
      exact ih

/-- The column of a place is the number of bytes since the last line feed, and one. -/
theorem column_after (before : List Char) :
    (after {} before).column =
      1 + ((before.flatMap String.utf8EncodeChar).rtakeWhile (· != Text.Utf8.lineFeed)).length := by
  induction before using List.reverseRecOn with
  | nil => rfl
  | append_singleton before c ih =>
    rw [after_concat, advance, List.flatMap_append, List.flatMap_singleton]
    by_cases hc : c = '\n'
    · have hlast : ∀ bytes : List UInt8,
          (bytes ++ [Text.Utf8.lineFeed]).rtakeWhile (· != Text.Utf8.lineFeed) = [] :=
        fun bytes => List.rtakeWhile_concat_neg _ _ _ (by simp)
      rw [if_pos hc, hc]
      show 1 = 1 + (List.rtakeWhile _ (_ ++ [Text.Utf8.lineFeed])).length
      rw [hlast]
      rfl
    · have hall : ∀ byte ∈ (String.utf8EncodeChar c).reverse,
          (byte != Text.Utf8.lineFeed) = true := by
        intro byte hbyte
        have hne := Text.Utf8.lineFeed_not_mem_utf8EncodeChar hc
        rw [bne_iff_ne]
        rintro rfl
        exact hne (List.mem_reverse.mp hbyte)
      rw [if_neg hc, List.rtakeWhile, List.reverse_append, List.takeWhile_append_of_pos hall,
        List.length_reverse, List.length_append, List.length_reverse, String.length_utf8EncodeChar]
      show (after {} before).column + c.utf8Size = _
      rw [ih, List.rtakeWhile, List.length_reverse]
      omega

end Location

end Receipt
