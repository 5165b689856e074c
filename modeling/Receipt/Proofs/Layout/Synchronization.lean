import Receipt.Proofs.Layout.Alignment
import Receipt.Proofs.Text.Segments

/-!
# Rows of texts

A row whose cells hold texts becomes as many rows of lines as its tallest cell has lines.  The lines
of a cell are those of its text, each cut into segments of the width of the column.  In row of lines
`r` stands line `r` of every cell, padded to the width, and nothing but padding where a cell has no
such line.

* `cellLines`: the lines that a text has in a column.
* `lines_cellOfText`: these are what the column offers.
* `flatten_cellLines`, `length_cellLines`: together they are the text, and how many they are.
* `Node.layout_rowOfTexts`: the rows of lines.
-/

namespace Receipt

open Text

/-! ## The lines of a cell -/

namespace ColumnWidth

/-- The lines that a text has in a column.  Empty text has none; otherwise they are the lines of the
text, each cut into segments if the width is fixed. -/
def cellLines (width : ColumnWidth) (text : List Char) : List (List Char) :=
  if text = [] then []
  else (splitLines text).flatMap fun line =>
    match width with
    | auto => [line]
    | fixed width => segments (max 1 width) line

theorem cellLines_of_ne_nil (width : ColumnWidth) {text : List Char} (h : text ≠ []) :
    width.cellLines text = width.wrap text := by
  rw [cellLines, if_neg h, wrap]
  cases width with
  | auto => rfl
  | fixed width =>
    simp only [← cut_eq_segments]
    rfl

theorem flatten_cut (width : ColumnWidth) (line : List Char) : (width.cut line).flatten = line := by
  cases width with
  | auto => exact List.flatten_singleton
  | fixed width => exact Text.flatten_cut width line

theorem cut_ne_nil (width : ColumnWidth) (line : List Char) : width.cut line ≠ [] := by
  cases width with
  | auto => exact List.cons_ne_nil line []
  | fixed width =>
    show Text.cut width line ≠ []
    rw [cut_eq_segments, ← List.length_pos_iff, length_segments]
    omega

theorem flatten_wrap (width : ColumnWidth) (text : List Char) :
    (width.wrap text).flatten = text.filter (· ≠ '\n') := by
  have hcut : List.flatten ∘ width.cut = id := funext width.flatten_cut
  rw [wrap, List.flatMap_def, List.flatten_flatten, List.map_map, hcut, List.map_id,
    flatten_splitLines]

/-- Only the empty text becomes a single empty line. -/
theorem separable_wrap (width : ColumnWidth) {text : List Char} (h : text ≠ []) :
    Separable (width.wrap text) where
  lineFeed := by
    intro line hline
    cases width with
    | auto =>
      obtain ⟨source, hsource, hcut⟩ := List.mem_flatMap.mp hline
      rw [List.mem_singleton.mp hcut]
      exact lineFeed_not_mem_splitLines hsource
    | fixed width => exact lineFeed_not_mem_wrap hline
  ne := by
    intro hsingle
    obtain ⟨line, lines, hsplit⟩ := List.exists_cons_of_ne_nil (splitLines_ne_nil text)
    rw [wrap, hsplit, List.flatMap_cons] at hsingle
    rcases List.append_eq_singleton_iff.mp hsingle with ⟨hnone, -⟩ | ⟨hone, hrest⟩
    · exact width.cut_ne_nil line hnone
    · have hline : line = [] := by
        rw [← width.flatten_cut line, hone]
        rfl
      have hlines : lines = [] := by
        cases lines with
        | nil => rfl
        | cons next lines =>
          exact absurd (List.append_eq_nil_iff.mp hrest).1 (width.cut_ne_nil next)
      rw [← joinLines_splitLines text, hsplit, hline, hlines] at h
      exact h rfl

/-- What a cell that holds a text offers. -/
theorem lines_cellOfText (options : LayoutOptions) (props : Props) (text : String) :
    (cellOfText options props text).lines =
      (ofProps props options.colWidth).cellLines text.toList := by
  rw [cellOfText]
  by_cases hempty : text.toList = []
  · have hwrap : (ofProps props options.colWidth).wrap [] = [[]] := by
      cases ofProps props options.colWidth with
      | auto => rfl
      | fixed width => rfl
    rw [hempty, hwrap, cellLines, if_pos rfl]
    rfl
  · rw [Block.lines_ofLines _ (separable_wrap _ hempty), cellLines_of_ne_nil _ hempty]

/-- The lines of a cell together are its text without the line feeds. -/
theorem flatten_cellLines (width : ColumnWidth) (text : List Char) :
    (width.cellLines text).flatten = text.filter (· ≠ '\n') := by
  by_cases hempty : text = []
  · rw [hempty]
    rfl
  · rw [cellLines_of_ne_nil width hempty, flatten_wrap]

/-- How many lines a text that is not empty has in a column of fixed width: for each of its own
lines as many as the width goes into it, rounded up, and at least one. -/
theorem length_cellLines (width : Nat) {text : List Char} (h : text ≠ []) :
    ((fixed width).cellLines text).length =
      ((splitLines text).map fun line => max 1 (line.length ⌈/⌉ max 1 width)).sum := by
  rw [cellLines, if_neg h, List.length_flatMap]
  simp only [length_segments]

theorem pad_eq (width : ColumnWidth) (line : List Char) :
    width.pad line = line ++ List.replicate (width.least - line.length) ' ' := by
  cases width with
  | auto => simp [pad, least]
  | fixed width => rfl

end ColumnWidth

/-! ## Rows -/

/-- A row of cells that hold texts. -/
def Node.rowOfTexts (props : Props) (cells : List (Props × String)) : Node :=
  .branch "tr" props (cells.map fun cell => .leaf "td" cell.1 cell.2)

namespace Node

theorem blocksOfAll_map_leaf (options : LayoutOptions) (cells : List (Props × String)) :
    blocksOfAll options (cells.map fun cell => .leaf "td" cell.1 cell.2) =
      cells.map fun cell => cellOfText options cell.1 cell.2 := by
  induction cells with
  | nil => rfl
  | cons cell cells ih =>
    rw [List.map_cons, blocksOfAll, ih]
    rfl

theorem children_layout_rowOfTexts (options : LayoutOptions) (props : Props)
    (cells : List (Props × String)) :
    (layout options [rowOfTexts props cells]).children =
      synchronize options props (cells.map fun cell => cellOfText options cell.1 cell.2) := by
  show blocks options (rowOfTexts props cells) ++ [] = _
  rw [List.append_nil, ← blocksOfAll_map_leaf]
  cases cells with
  | nil =>
    -- a row without cells is laid out as one with an empty text, which has no line either
    show synchronize options props [cellOfText options ∅ ""] = synchronize options props []
    rw [synchronize_eq, synchronize_eq]
    have hlines : (cellOfText options ∅ "").lines = [] :=
      ColumnWidth.lines_cellOfText options ∅ ""
    have hcount : lineCount [cellOfText options ∅ ""] = 0 := by
      rw [lineCount, List.map_singleton, hlines]
      rfl
    rw [hcount]
    rfl
  | cons cell cells => rfl

/-- In one row of lines a cell has a line, if there is one, and blanks up to its width. -/
theorem lineCell_cellOfText (options : LayoutOptions) (props : Props) (text : String)
    (line : Option (List Char)) :
    (cellOfText options props text).lineCell options line =
      { name := "td"
        props
        text := String.ofList (line.getD [] ++ List.replicate
          ((ColumnWidth.ofProps props options.colWidth).least - (line.getD []).length) ' ') } := by
  rw [← ColumnWidth.pad_eq]
  rfl

theorem border_eq (options : LayoutOptions) :
    options.border =
      { name := "td", text := String.ofList (List.replicate options.borderWidth.toNat ' ') } :=
  rfl

/-- How a row of texts is laid out.  There are as many rows of lines as the tallest cell has lines.
Each has the props of the row, and its cells take turns with the borders; in row of lines `r` a cell
has its own props and its line `r`, or nothing if it has no such line, and blanks up to its width.
The lines of a cell together are its text without the line feeds, and in a column of fixed width
each line of the text makes as many as the width goes into it, rounded up, and at least one. -/
theorem layout_rowOfTexts (options : LayoutOptions) (props : Props)
    (cells : List (Props × String)) :
    let width := fun cell : Props × String => ColumnWidth.ofProps cell.1 options.colWidth
    let lines := fun cell : Props × String => (width cell).cellLines cell.2.toList
    let rows := (layout options [rowOfTexts props cells]).children
    rows.length = longest (cells.map lines) ∧
    (∀ (r : Nat) (row : Block), rows[r]? = some row →
      row.name = "tr" ∧ row.props = props ∧ row.children.length = 2 * cells.length - 1 ∧
      (∀ i cell, cells[i]? = some cell →
        let line := (lines cell)[r]?.getD []
        let blanks := List.replicate ((width cell).least - line.length) ' '
        row.children[2 * i]? =
          some { name := "td", props := cell.1, text := String.ofList (line ++ blanks) }) ∧
      (∀ i, i + 1 < cells.length →
        row.children[2 * i + 1]? = some
          { name := "td", text := String.ofList (List.replicate options.borderWidth.toNat ' ') })) ∧
    (∀ cell ∈ cells,
      (lines cell).flatten = cell.2.toList.filter (· ≠ '\n') ∧
      (∀ n, width cell = .fixed n → cell.2 ≠ "" →
        (lines cell).length =
          ((splitLines cell.2.toList).map fun line => max 1 (line.length ⌈/⌉ max 1 n)).sum)) := by
  intro width lines rows
  have hcolumns : (cells.map fun cell => cellOfText options cell.1 cell.2).map Block.lines =
      cells.map lines := by
    rw [List.map_map]
    apply List.map_congr_left
    intro cell _
    rw [Function.comp, ColumnWidth.lines_cellOfText]
  have hrows : rows = (List.range (longest (cells.map lines))).map fun r =>
      { name := "tr", props, children := lineParts options
          (cells.map fun cell => cellOfText options cell.1 cell.2) r } := by
    show (layout options [rowOfTexts props cells]).children = _
    rw [children_layout_rowOfTexts, synchronize_eq, lineCount, hcolumns]
  refine ⟨?_, ?_, ?_⟩
  · rw [hrows, List.length_map, List.length_range]
  · intro r row hrow
    have hr : r < longest (cells.map lines) := by
      have hlt := (List.getElem?_eq_some_iff.mp hrow).1
      rwa [hrows, List.length_map, List.length_range] at hlt
    rw [hrows, List.getElem?_map, List.getElem?_range hr, Option.map_some] at hrow
    obtain rfl := Option.some.inj hrow
    refine ⟨rfl, rfl, ?_, fun i cell hcell => ?_, fun i hi => ?_⟩
    · rw [lineParts, List.length_intersperse, lineCells, List.length_map, List.length_map]
    · rw [lineParts, List.getElem?_intersperse_two_mul, lineCells, List.getElem?_map,
        List.getElem?_map, hcell, Option.map_some, Option.map_some, lineCell_cellOfText,
        ColumnWidth.lines_cellOfText]
    · rw [lineParts, ← border_eq]
      refine List.getElem?_intersperse_two_mul_add_one ?_
      rwa [lineCells, List.length_map, List.length_map]
  · intro cell _
    refine ⟨ColumnWidth.flatten_cellLines _ _, fun n hwidth hne => ?_⟩
    show ((width cell).cellLines cell.2.toList).length = _
    rw [hwidth, ColumnWidth.length_cellLines n (mt String.toList_eq_nil_iff.mp hne)]

/-- A text of three lines that is cut, a text in a column as wide as it is, and an empty text. -/
def unevenTexts : List (Props × String) :=
  [(Props.ofPairs [("width", "3")], "abcd\n\nefg"), (Props.ofPairs [("width", "auto")], "wide"),
    (∅, "")]

theorem layout_rowOfTexts_unevenTexts :
    let rows := (layout {} [rowOfTexts ∅ unevenTexts]).children
    rows.length = 4 ∧
    ∃ row, rows[1]? = some row ∧ row.children.length = 5 ∧
      row.children[0]? =
        some { name := "td", props := Props.ofPairs [("width", "3")], text := "d  " } ∧
      row.children[1]? = some { name := "td", text := "  " } ∧
      row.children[2]? =
        some { name := "td", props := Props.ofPairs [("width", "auto")], text := "" } ∧
      ((ColumnWidth.fixed 3).cellLines "abcd\n\nefg".toList).length = 2 + 1 + 1 := by
  intro rows
  obtain ⟨hcount, hrows, hlines⟩ := layout_rowOfTexts {} ∅ unevenTexts
  have hlength : rows.length = 4 := hcount
  have hrow : rows[1]? = some rows[1] := List.getElem?_eq_getElem (by rw [hlength]; decide)
  obtain ⟨-, -, hparts, hcell, hborder⟩ := hrows 1 rows[1] hrow
  have hfirst := (hlines _ List.mem_cons_self).2 3 (by decide) (by decide)
  refine ⟨hlength, rows[1], hrow, hparts, hcell 0 _ rfl, hborder 0 (by decide), hcell 1 _ rfl, ?_⟩
  exact hfirst.trans (by decide +kernel)

end Node

end Receipt
