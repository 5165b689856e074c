import Receipt.Proofs.Layout.Synchronization
import Receipt.Proofs.Text.Blank

/-!
# Rows in a cell of fixed width

The rows that are nested in a cell of fixed width lose the blanks at their ends and are cut into
segments, of which each row makes at least one.  These are the lines that the cell offers, so no
nested row is lost.  There is one exception: a single nested row of blanks leaves a single empty
segment, and as the text of a cell this is no line at all.

* `length_flatMap_segments`, `length_le_length_flatMap_segments`: how many segments several lines
  make.
* `flatMap_segments_eq_singleton_nil_iff`: when they make a single empty one.
* `lines_cellOfRows`: what a cell offers when rows are nested in it.
* `Node.nested_rows_kept_iff`: the same in a document, with the row in which the cell stands.
-/

namespace Receipt

open Text

/-! ## Segments of several lines -/

namespace Text

variable {width : Nat} {lines : List (List Char)}

theorem length_flatMap_segments (size : Nat) (lines : List (List Char)) :
    (lines.flatMap (segments size)).length =
      (lines.map fun line => max 1 (line.length ⌈/⌉ size)).sum := by
  rw [List.length_flatMap]
  simp only [length_segments]

/-- Each line makes at least one segment. -/
theorem length_le_length_flatMap_segments (size : Nat) (lines : List (List Char)) :
    lines.length ≤ (lines.flatMap (segments size)).length := by
  induction lines with
  | nil => exact Nat.le_refl 0
  | cons line lines ih =>
    rw [List.flatMap_cons, List.length_append, length_segments, List.length_cons]
    omega

theorem length_le_of_mem_segments {line segment : List Char}
    (h : segment ∈ segments (max 1 width) line) : segment.length ≤ max 1 width := by
  rw [← cut_eq_segments] at h
  exact length_le_of_mem_cut h

/-- A single empty segment comes from a single empty line. -/
theorem flatMap_segments_eq_singleton_nil_iff :
    lines.flatMap (segments (max 1 width)) = [[]] ↔ lines = [[]] := by
  constructor
  · intro h
    have hlength := length_le_length_flatMap_segments (max 1 width) lines
    rw [h, List.length_singleton] at hlength
    cases lines with
    | nil => exact absurd h (List.cons_ne_nil _ _).symm
    | cons line rest =>
      obtain rfl : rest = [] := List.eq_nil_of_length_eq_zero (by simpa using hlength)
      rw [List.flatMap_singleton, ← cut_eq_segments] at h
      rw [← flatten_cut width line, h]
      rfl
  · rintro rfl
    rw [List.flatMap_singleton, ← cut_eq_segments]
    rfl

theorem lineFeed_not_mem_trimEnd {line : List Char} (h : '\n' ∉ line) : '\n' ∉ trimEnd line := by
  obtain ⟨gap, -, hline⟩ := exists_trimEnd_append line
  intro hfeed
  rw [hline] at h
  exact h (List.mem_append_left gap hfeed)

end Text

/-! ## The lines of a cell -/

/-- In a column of fixed width a line becomes the segments of what is left without the blanks at its
end. -/
theorem ColumnWidth.wrapRow_fixed (width : Nat) {line : List Char} (h : '\n' ∉ line) :
    (fixed width).wrapRow line = segments (max 1 width) (trimEnd line) := by
  rw [wrapRow, wrap, splitLines_of_not_mem (lineFeed_not_mem_trimEnd h), List.flatMap_singleton,
    cut, cut_eq_segments]

/-- What a cell of fixed width offers when rows without line feeds are nested in it. -/
theorem lines_cellOfRows {options : LayoutOptions} {props : Props} {width : Nat} {rows : List Row}
    (hwidth : ColumnWidth.ofProps (nestingProps props) options.colWidth = .fixed width)
    (hrows : ∀ row ∈ rows, '\n' ∉ row.text.toList) :
    let trimmed := rows.map fun row => trimEnd row.text.toList
    (cellOfRows options props rows).lines =
      if trimmed = [[]] then [] else trimmed.flatMap (segments (max 1 width)) := by
  intro trimmed
  have hwrapped : (rows.flatMap fun row => (ColumnWidth.fixed width).wrapRow row.text.toList) =
      trimmed.flatMap (segments (max 1 width)) := by
    rw [List.flatMap_map]
    exact List.flatMap_congr fun row hrow => ColumnWidth.wrapRow_fixed width (hrows row hrow)
  rw [cellOfRows, hwidth, hwrapped]
  split
  · rename_i hblank
    rw [flatMap_segments_eq_singleton_nil_iff.mpr hblank]
    rfl
  · rename_i hne
    have hsingle : trimmed.flatMap (segments (max 1 width)) ≠ [[]] :=
      mt flatMap_segments_eq_singleton_nil_iff.mp hne
    refine Block.lines_ofLines _ ⟨fun line hline => ?_, hsingle⟩
    rw [← hwrapped] at hline
    obtain ⟨row, -, hwrap⟩ := List.mem_flatMap.mp hline
    exact ColumnWidth.lineFeed_not_mem_wrap hwrap

/-! ## The row around the cell -/

namespace Node

theorem mem_blocksOfAll {options : LayoutOptions} {node : Node} {nodes : List Node} {block : Block}
    (hnode : node ∈ nodes) (h : block ∈ blocks options node) :
    block ∈ blocksOfAll options nodes := by
  induction nodes with
  | nil => exact absurd hnode List.not_mem_nil
  | cons first nodes ih =>
    rw [blocksOfAll]
    rcases List.mem_cons.mp hnode with rfl | hrest
    · exact List.mem_append_left _ h
    · exact List.mem_append_right _ (ih hrest)

/-- A row becomes at least as many rows of lines as one of its columns has lines. -/
theorem length_lines_le_length_blocks (options : LayoutOptions) (node : Node)
    (hrow : Kind.ofName node.name = .row) {column : Block} (h : column ∈ node.columns options) :
    column.lines.length ≤ (blocks options node).length := by
  rw [blocks_eq_synchronize hrow, synchronize_eq, List.length_map, List.length_range]
  exact length_lines_le_lineCount h

theorem mem_columns {options : LayoutOptions} {name : String} {props : Props} {child : Node}
    {children : List Node} {column : Block} (hchild : child ∈ children)
    (h : column ∈ blocks options child) :
    column ∈ (branch name props children).columns options := by
  have hne : ¬ children.isEmpty = true := by
    rw [List.isEmpty_iff]
    exact List.ne_nil_of_mem hchild
  rw [columns, if_neg hne]
  exact mem_blocksOfAll hchild h

/-! ## Cells of a document -/

theorem blocks_cell (options : LayoutOptions) (props : Props) (children : List Node) :
    blocks options (branch "td" props children) =
      [cellOfRows options props (rows options children)] := rfl

/-- What becomes of the rows that are nested in a cell of fixed width.  The lines of the cell are
the segments of the rows, each row without the blanks at its end; so each row makes as many lines as
the width goes into it, rounded up, and at least one, and the row around the cell becomes at least
as many rows of lines as there are nested rows.  It is so exactly unless there is a single nested
row with nothing but blanks in it; then the cell has no line. -/
theorem nested_rows_kept_iff (options : LayoutOptions) (props : Props) (children : List Node)
    {width : Nat}
    (hwidth : ColumnWidth.ofProps (nestingProps props) options.colWidth = .fixed width) :
    let cell := branch "td" props children
    let trimmed := (rows options children).map fun row => trimEnd row.text.toList
    let lines := trimmed.flatMap (segments (max 1 width))
    lines.length = (trimmed.map fun line => max 1 (line.length ⌈/⌉ max 1 width)).sum ∧
    (rows options children).length ≤ lines.length ∧
    (∀ line ∈ lines, line.length ≤ max 1 width) ∧
    ∃ block, blocks options cell = [block] ∧
      (block.lines = lines ↔ trimmed ≠ [[]]) ∧ (trimmed = [[]] → block.lines = []) ∧
      ∀ rowProps siblings, cell ∈ siblings → trimmed ≠ [[]] →
        lines.length ≤ (blocks options (branch "tr" rowProps siblings)).length := by
  intro cell trimmed lines
  have hfeeds : ∀ row ∈ rows options children, '\n' ∉ row.text.toList := fun row hrow =>
    (separable_rows options children).lineFeed _ (List.mem_map_of_mem hrow)
  have hlines : (cellOfRows options props (rows options children)).lines =
      if trimmed = [[]] then [] else lines := lines_cellOfRows hwidth hfeeds
  refine ⟨length_flatMap_segments _ trimmed, ?_, ?_, _, blocks_cell options props children,
    ⟨?_, ?_⟩, ?_, ?_⟩
  · rw [← List.length_map fun row : Row => trimEnd row.text.toList]
    exact length_le_length_flatMap_segments _ trimmed
  · intro line hline
    obtain ⟨source, -, hsegment⟩ := List.mem_flatMap.mp hline
    exact length_le_of_mem_segments hsegment
  · intro hkept hblank
    rw [hlines, if_pos hblank] at hkept
    have hone : lines = [[]] := flatMap_segments_eq_singleton_nil_iff.mpr hblank
    rw [hone] at hkept
    exact List.cons_ne_nil _ _ hkept.symm
  · intro hne
    rw [hlines, if_neg hne]
  · intro hblank
    rw [hlines, if_pos hblank]
  · intro rowProps siblings hsibling hne
    have hcolumn : cellOfRows options props (rows options children) ∈
        (branch "tr" rowProps siblings).columns options := by
      refine mem_columns hsibling ?_
      rw [blocks_cell]
      exact List.mem_singleton_self _
    have hcount := length_lines_le_length_blocks options (branch "tr" rowProps siblings) rfl hcolumn
    rwa [hlines, if_neg hne] at hcount

/-- A row that is cut and has a second line of blanks, and a row that is as wide as the cell. -/
def unevenRows : List Node :=
  [.leaf "tr" ∅ "abcdef\n", .branch "tr" ∅ [.leaf "td" (Props.ofPairs [("width", "4")]) "wxyz"]]

theorem nested_rows_kept_unevenRows :
    let props := Props.ofPairs [("width", "4")]
    ColumnWidth.ofProps (nestingProps props) 10 = .fixed 4 ∧
    ∃ block, blocks {} (.branch "td" props unevenRows) = [block] ∧
      block.lines.length = 2 + 1 + 1 ∧
      4 ≤ (blocks {} (branch "tr" ∅ [leaf "td" ∅ "a", branch "td" props unevenRows])).length := by
  intro props
  have hwidth : ColumnWidth.ofProps (nestingProps props) 10 = .fixed 4 := by decide
  have hne : (rows {} unevenRows).map (fun row => trimEnd row.text.toList) ≠ [[]] := by
    decide +kernel
  obtain ⟨hlength, -, -, block, hblock, hkept, -, hrow⟩ :=
    nested_rows_kept_iff {} props unevenRows hwidth
  have hfour := hlength.trans (show _ = 4 by decide +kernel)
  refine ⟨hwidth, block, hblock, ?_, ?_⟩
  · rw [hkept.mpr hne, hfour]
  · rw [← hfour]
    exact hrow ∅ [.leaf "td" ∅ "a", .branch "td" props unevenRows] (by simp) hne

/-- A single row of blanks makes no line in a cell of fixed width. -/
theorem not_nested_rows_kept_blankRow :
    let cell := branch "td" (Props.ofPairs [("width", "5")]) [.leaf "tr" ∅ " "]
    (rows {} [.leaf "tr" ∅ " "]).length = 1 ∧ rows {} [.branch "tr" ∅ [cell]] = [] ∧
    ¬ ∀ (options : LayoutOptions) (props : Props) (children : List Node) (width : Nat),
      ColumnWidth.ofProps (nestingProps props) options.colWidth = .fixed width →
      ∃ block, blocks options (.branch "td" props children) = [block] ∧
        block.lines = ((rows options children).map fun row => trimEnd row.text.toList).flatMap
          (segments (max 1 width)) := by
  refine ⟨by decide +kernel, by decide +kernel, fun hall => ?_⟩
  obtain ⟨block, hblock, hlines⟩ :=
    hall {} (Props.ofPairs [("width", "5")]) [.leaf "tr" ∅ " "] 5 (by decide)
  have hsame : (blocks {} (.branch "td" (Props.ofPairs [("width", "5")]) [.leaf "tr" ∅ " "])).map
      Block.lines = [[[]]] := by
    rw [hblock, List.map_singleton, hlines]
    decide +kernel
  exact absurd hsame (by decide +kernel)

end Node

end Receipt
