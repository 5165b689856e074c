import Receipt.Proofs.Layout.Passes
import Receipt.Proofs.Text.Columns

/-!
# The lines of a column and of a document

The text of a cell stands for its lines, and the rows of a document are put into a cell as the lines
of its text.  Nothing is mixed up on the way, since the lines of a column and the rows of a document
are `Text.Separable`: there is no line feed in them, and they are never a single empty line.

* `Block.lines_ofLines`: a cell that is made of separable lines offers just these.
* `Node.separable_rowsFrom`: the rows of a node, by recursion on the document.
* `separable_rows`: the rows of a document.
-/

namespace Receipt

open Text

/-! ## Columns -/

namespace Block

theorem lines_eq (column : Block) :
    column.lines = if column.text.toList = [] then [] else splitLines column.text.toList := by
  have hempty : column.text.isEmpty = true ↔ column.text.toList = [] := by
    rw [String.isEmpty_iff, String.toList_eq_nil_iff]
  rw [lines]
  simp only [hempty]

theorem lines_eq_nil {column : Block} (h : column.text = "") : column.lines = [] := by
  rw [lines_eq, h]
  rfl

/-- What a column offers can be told from what any other column offers. -/
theorem separable_lines (column : Block) : Separable column.lines := by
  rw [lines_eq]
  split
  · exact Separable.nil
  · rename_i hne
    refine ⟨fun line hline => lineFeed_not_mem_splitLines hline, fun hsingle => hne ?_⟩
    rw [← joinLines_splitLines column.text.toList, hsingle]
    rfl

theorem toList_text_ofLines (props : Props) (lines : List (List Char)) :
    (ofLines props lines).text.toList = joinLines lines := by
  rw [ofLines, String.toList_ofList]

/-- A cell offers the lines of which it is made. -/
theorem lines_ofLines (props : Props) {lines : List (List Char)} (h : Separable lines) :
    (ofLines props lines).lines = lines := by
  rw [lines_eq, toList_text_ofLines]
  split
  · rename_i hnil
    rcases joinLines_eq_nil_iff.mp hnil with rfl | hsingle
    · rfl
    · exact absurd hsingle h.ne
  · rename_i hne
    refine splitLines_joinLines (fun hnil => hne ?_) h.lineFeed
    rw [hnil]
    rfl

/-- A cell offers no line but those of which it is made. -/
theorem mem_of_mem_lines_ofLines {props : Props} {lines : List (List Char)} {line : List Char}
    (hlines : ∀ line ∈ lines, '\n' ∉ line) (h : line ∈ (ofLines props lines).lines) :
    line ∈ lines := by
  by_cases hsingle : lines = [[]]
  · rw [hsingle] at h
    exact absurd h List.not_mem_nil
  · rwa [lines_ofLines props ⟨hlines, hsingle⟩] at h

theorem toList_text_lineCell (options : LayoutOptions) (column : Block)
    (line : Option (List Char)) :
    (column.lineCell options line).text.toList =
      (ColumnWidth.ofProps column.props options.colWidth).pad (line.getD []) := by
  rw [lineCell, String.toList_ofList]

end Block

/-! ## Rows of lines -/

theorem ColumnWidth.sublist_pad (width : ColumnWidth) (line : List Char) :
    line.Sublist (width.pad line) := by
  cases width with
  | auto => exact List.Sublist.refl line
  | fixed width => exact List.sublist_append_left line _

theorem ColumnWidth.lineFeed_not_mem_pad (width : ColumnWidth) {line : List Char}
    (h : '\n' ∉ line) : '\n' ∉ width.pad line := by
  cases width with
  | auto => exact h
  | fixed width => exact lineFeed_not_mem_padRight h width

theorem LayoutOptions.lineFeed_not_mem_border (options : LayoutOptions) :
    '\n' ∉ options.border.text.toList := by
  rw [border, String.toList_ofList]
  exact lineFeed_not_mem_padRight List.not_mem_nil _

theorem toList_join_texts (parts : List Block) :
    (String.join (parts.map (·.text))).toList = (parts.map (·.text.toList)).flatten := by
  rw [String.toList_join, List.flatMap_def, List.map_map]
  rfl

theorem lineFeed_not_mem_lineParts (options : LayoutOptions) (columns : List Block) (r : Nat) :
    '\n' ∉ (String.join ((lineParts options columns r).map (·.text))).toList := by
  rw [toList_join_texts, List.mem_flatten]
  rintro ⟨text, htext, hfeed⟩
  obtain ⟨part, hpart, rfl⟩ := List.mem_map.mp htext
  rcases mem_or_eq_of_mem_intersperse hpart with hcell | rfl
  · obtain ⟨column, -, rfl⟩ := List.mem_map.mp hcell
    rw [Block.toList_text_lineCell] at hfeed
    refine ColumnWidth.lineFeed_not_mem_pad _ ?_ hfeed
    cases hline : column.lines[r]? with
    | none => exact List.not_mem_nil
    | some line => exact column.separable_lines.lineFeed line (List.mem_of_getElem? hline)
  · exact options.lineFeed_not_mem_border hfeed

/-- A line of a column is part of the row of lines in which it stands. -/
theorem sublist_lineParts (options : LayoutOptions) {columns : List Block} {column : Block}
    (hcolumn : column ∈ columns) {r : Nat} {line : List Char}
    (hline : column.lines[r]? = some line) :
    line.Sublist (String.join ((lineParts options columns r).map (·.text))).toList := by
  have hcell : column.lineCell options (some line) ∈ lineParts options columns r := by
    apply mem_intersperse_of_mem
    rw [← hline]
    exact List.mem_map_of_mem hcolumn
  have hpad : line.Sublist (column.lineCell options (some line)).text.toList := by
    rw [Block.toList_text_lineCell]
    exact ColumnWidth.sublist_pad _ line
  rw [toList_join_texts]
  exact hpad.trans (List.sublist_flatten_of_mem (List.mem_map_of_mem hcell))

/-- Columns that make a single row of lines have at most one line each, and one of them has a line
that is not empty. -/
theorem separable_lineTexts (options : LayoutOptions) (columns : List Block) :
    Separable ((lineTexts options columns).map String.toList) where
  lineFeed := by
    intro line hline
    rw [lineTexts_eq, List.map_map] at hline
    obtain ⟨r, -, rfl⟩ := List.mem_map.mp hline
    exact lineFeed_not_mem_lineParts options columns r
  ne := by
    intro hsingle
    have hcount : lineCount columns = 1 := by
      have hlength := congrArg List.length hsingle
      rwa [List.length_map, lineTexts_eq, List.length_map, List.length_range] at hlength
    obtain ⟨column, hcolumn, hpos⟩ := lt_lineCount_iff.mp (hcount ▸ Nat.one_pos)
    have hone : ¬ 1 < column.lines.length := fun hlt =>
      absurd (lt_lineCount_iff.mpr ⟨column, hcolumn, hlt⟩) (by omega)
    obtain ⟨line, hlines⟩ := List.length_eq_one_iff.mp (by omega : column.lines.length = 1)
    have hfirst : column.lines[0]? = some line := by
      rw [hlines]
      rfl
    have hsublist := sublist_lineParts options hcolumn hfirst
    rw [lineTexts_eq, hcount] at hsingle
    have hempty : (String.join ((lineParts options columns 0).map (·.text))).toList = [] :=
      (List.cons.inj hsingle).1
    rw [hempty, List.sublist_nil] at hsublist
    exact column.separable_lines.ne (by rw [hlines, hsublist])

/-- A column that is neither cut nor padded makes its lines. -/
theorem lineTexts_auto (options : LayoutOptions) {column : Block}
    (h : ColumnWidth.ofProps column.props options.colWidth = .auto) :
    lineTexts options [column] = column.lines.map String.ofList := by
  have hcount : lineCount [column] = column.lines.length := Nat.max_eq_left (Nat.zero_le _)
  rw [lineTexts_eq, hcount]
  apply List.ext_getElem
  · simp
  · intro r hr _
    have hlt : r < column.lines.length := by simpa using hr
    have hline : column.lines[r]?.getD [] = column.lines[r] := by
      rw [List.getElem?_eq_getElem hlt, Option.getD_some]
    apply String.toList_injective
    rw [List.getElem_map, List.getElem_map, List.getElem_range, toList_join_texts]
    show (column.lineCell options column.lines[r]?).text.toList ++ [] = _
    rw [List.append_nil, Block.toList_text_lineCell, h, hline, String.toList_ofList]
    rfl

/-! ## Documents -/

namespace Node

/-- The lines of the rows of a node. -/
theorem separable_lines_rows (options : LayoutOptions) (columns : List Block) (props : Props) :
    Separable (((lineTexts options columns).map fun line => (⟨line, props⟩ : Row)).map
      fun row => row.text.toList) := by
  rw [List.map_map]
  exact separable_lineTexts options columns

mutual

/-- The rows of a node are separable. -/
theorem separable_rowsFrom (options : LayoutOptions) (tableProps : Props) (node : Node) :
    Separable ((rowsFrom options tableProps node).1.map fun row => row.text.toList) := by
  cases node with
  | leaf name props text =>
    rw [rowsFrom]
    cases Kind.ofName name with
    | table => exact separable_lines_rows options _ _
    | row => exact separable_lines_rows options _ _
    | cell => exact Separable.nil
    | unknown => exact Separable.nil
  | branch name props children =>
    rw [rowsFrom]
    cases Kind.ofName name with
    | table => exact separable_rowsFromAll options _ children
    | row => exact separable_lines_rows options _ _
    | cell => exact Separable.nil
    | unknown => exact Separable.nil

/-- The rows of several nodes are separable. -/
theorem separable_rowsFromAll (options : LayoutOptions) (tableProps : Props) (nodes : List Node) :
    Separable ((rowsFromAll options tableProps nodes).1.map fun row => row.text.toList) := by
  cases nodes with
  | nil => exact Separable.nil
  | cons node nodes =>
    rw [rowsFromAll, List.map_append]
    exact (separable_rowsFrom options tableProps node).append
      (separable_rowsFromAll options _ nodes)

end

end Node

/-- The rows of a document have no line feed in them, and are never a single empty row. -/
theorem separable_rows (options : LayoutOptions) (nodes : List Node) :
    Separable ((rows options nodes).map fun row => row.text.toList) := by
  rw [rows_eq]
  exact Node.separable_rowsFromAll options ∅ nodes

end Receipt
