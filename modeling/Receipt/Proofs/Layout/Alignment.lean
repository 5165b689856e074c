import Mathlib.Algebra.Order.BigOperators.Group.List
import Mathlib.Algebra.Order.Ring.Nat
import Receipt.Proofs.Layout.Lines

/-!
# Columns stay in line

The lines of a column of fixed width are cut at the width and padded to it, so they take as many
characters as the width says, and the next column starts at the same place in every row of lines.
There is one exception: a column of width zero.  Its text is cut as if the width were one, but its
lines are not padded to one, so a line with a character takes more room than a line without.

* `Block.Fits`: the lines of a column of fixed width are no longer than the width at which a text of
  that width is cut.
* `Node.fits_columns`: so are those of all columns of a row.
* `columnStart_lineParts`, `length_lineParts`: where the columns start in a row of lines, and how
  long it is.
* `Node.columns_aligned_iff`: where the columns of fixed width start, and for which rows it is so.
-/

namespace Receipt

open Text

/-! ## Widths -/

/-- How many characters a line of this width takes at least. -/
def ColumnWidth.least : ColumnWidth → Nat
  | auto => 0
  | fixed width => width

theorem ColumnWidth.length_pad (width : ColumnWidth) (line : List Char) :
    (width.pad line).length = max width.least line.length := by
  cases width with
  | auto => exact (Nat.zero_max _).symm
  | fixed width => exact length_padRight width line

/-- Only the standard width can be zero. -/
theorem ColumnWidth.ofProps_ne_fixed_zero {colWidth : UInt64} (h : colWidth ≠ 0) (props : Props) :
    ofProps props colWidth ≠ fixed 0 := by
  have hstandard : standard colWidth ≠ fixed 0 := by
    intro hzero
    have hmin := fixed.inj hzero
    have hpos : colWidth.toNat ≠ 0 := fun hnat => h (UInt64.toNat_inj.mp hnat)
    rw [widest] at hmin
    omega
  have hread : ∀ value, read? value ≠ some (fixed 0) := by
    intro value
    rw [read?]
    split
    · simp
    · split
      · simp
      · simp
  rw [ofProps]
  cases hvalue : (props.get? key).bind read? with
  | none => exact hstandard
  | some width =>
    obtain ⟨value, -, hwidth⟩ := Option.bind_eq_some_iff.mp hvalue
    rintro rfl
    exact hread value hwidth

theorem ColumnWidth.lineFeed_not_mem_wrap {width : Nat} {text line : List Char}
    (h : line ∈ (fixed width).wrap text) : '\n' ∉ line := by
  obtain ⟨source, hsource, hcut⟩ := List.mem_flatMap.mp h
  intro hfeed
  exact lineFeed_not_mem_splitLines hsource ((sublist_of_mem_cut hcut).subset hfeed)

/-- A line that is cut at a width fits it, where zero counts as one. -/
theorem ColumnWidth.length_le_of_mem_wrap {width : Nat} {text line : List Char}
    (h : line ∈ (fixed width).wrap text) : line.length ≤ max 1 width := by
  obtain ⟨source, -, hcut⟩ := List.mem_flatMap.mp h
  exact length_le_of_mem_cut hcut

/-- The width of a column. -/
def Block.width (options : LayoutOptions) (column : Block) : ColumnWidth :=
  ColumnWidth.ofProps column.props options.colWidth

/-- The lines of a column of fixed width are no longer than the width, where zero counts as one. -/
def Block.Fits (options : LayoutOptions) (column : Block) : Prop :=
  ∀ width, column.width options = .fixed width → ∀ line ∈ column.lines, line.length ≤ max 1 width

namespace Block

theorem fits_of_text_eq {options : LayoutOptions} {column : Block} (h : column.text = "") :
    column.Fits options := by
  intro width _ line hline
  rw [lines_eq_nil h] at hline
  exact absurd hline List.not_mem_nil

theorem fits_cellOfText (options : LayoutOptions) (props : Props) (text : String) :
    (cellOfText options props text).Fits options := by
  intro width hwidth line hline
  have hprops : ColumnWidth.ofProps props options.colWidth = .fixed width := hwidth
  rw [cellOfText, hprops] at hline
  have hwrapped := mem_of_mem_lines_ofLines (fun _ => ColumnWidth.lineFeed_not_mem_wrap) hline
  exact ColumnWidth.length_le_of_mem_wrap hwrapped

theorem fits_cellOfRows (options : LayoutOptions) (props : Props) (rows : List Row) :
    (cellOfRows options props rows).Fits options := by
  intro width hwidth line hline
  have hprops : ColumnWidth.ofProps (nestingProps props) options.colWidth = .fixed width := hwidth
  rw [cellOfRows, hprops] at hline
  have hwrapped : ∀ line ∈ rows.flatMap fun row =>
      (ColumnWidth.fixed width).wrapRow row.text.toList,
      '\n' ∉ line ∧ line.length ≤ max 1 width := by
    intro line hline
    obtain ⟨row, -, hwrap⟩ := List.mem_flatMap.mp hline
    exact ⟨ColumnWidth.lineFeed_not_mem_wrap hwrap, ColumnWidth.length_le_of_mem_wrap hwrap⟩
  exact (hwrapped line
    (mem_of_mem_lines_ofLines (fun line hline => (hwrapped line hline).1) hline)).2

theorem fits_of_mem_synchronize {options : LayoutOptions} {props : Props} {columns : List Block}
    {block : Block} (h : block ∈ synchronize options props columns) : block.Fits options := by
  rw [synchronize] at h
  obtain ⟨pass, -, rfl⟩ := List.mem_map.mp h
  exact fits_of_text_eq rfl

end Block

namespace Node

open Block

theorem fits_blocks (options : LayoutOptions) (node : Node) :
    ∀ block ∈ blocks options node, block.Fits options := by
  intro block hblock
  cases node with
  | leaf name props text =>
    cases hkind : Kind.ofName name <;> simp only [blocks, hkind] at hblock
    case table =>
      rw [List.mem_singleton.mp hblock]
      exact fits_of_text_eq rfl
    case row => exact fits_of_mem_synchronize hblock
    case cell =>
      rw [List.mem_singleton.mp hblock]
      exact fits_cellOfText options props text
    case unknown => exact absurd hblock List.not_mem_nil
  | branch name props children =>
    cases hkind : Kind.ofName name <;> simp only [blocks, hkind] at hblock
    case table =>
      split at hblock
      · rw [List.mem_singleton.mp hblock]
        exact fits_of_text_eq rfl
      · rw [List.mem_singleton.mp hblock]
        exact fits_of_text_eq rfl
    case row =>
      split at hblock
      · exact fits_of_mem_synchronize hblock
      · exact fits_of_mem_synchronize hblock
    case cell =>
      rw [List.mem_singleton.mp hblock]
      exact fits_cellOfRows options props _
    case unknown => exact absurd hblock List.not_mem_nil

theorem fits_blocksOfAll (options : LayoutOptions) (nodes : List Node) :
    ∀ block ∈ blocksOfAll options nodes, block.Fits options := by
  induction nodes with
  | nil =>
    intro block hblock
    exact absurd hblock List.not_mem_nil
  | cons node nodes ih =>
    intro block hblock
    rw [blocksOfAll] at hblock
    rcases List.mem_append.mp hblock with hblock | hblock
    · exact fits_blocks options node block hblock
    · exact ih block hblock

/-- The columns of a row: the blocks of what it holds, or a single cell with its text. -/
def columns (options : LayoutOptions) : Node → List Block
  | leaf _ _ text => [cellOfText options ∅ text]
  | branch _ _ children =>
    if children.isEmpty then [cellOfText options ∅ ""] else blocksOfAll options children

theorem blocks_eq_synchronize {node : Node} (h : Kind.ofName node.name = .row)
    (options : LayoutOptions) :
    blocks options node = synchronize options node.props (node.columns options) := by
  cases node with
  | leaf name props text =>
    have hkind : Kind.ofName name = .row := h
    simp only [blocks, hkind]
    rfl
  | branch name props children =>
    have hkind : Kind.ofName name = .row := h
    simp only [blocks, hkind, columns]
    split
    · rfl
    · rfl

theorem fits_columns (options : LayoutOptions) (node : Node) :
    ∀ column ∈ node.columns options, column.Fits options := by
  intro column hcolumn
  cases node with
  | leaf name props text =>
    rw [List.mem_singleton.mp hcolumn]
    exact fits_cellOfText options ∅ text
  | branch name props children =>
    rw [columns] at hcolumn
    split at hcolumn
    · rw [List.mem_singleton.mp hcolumn]
      exact fits_cellOfText options ∅ ""
    · exact fits_blocksOfAll options children column hcolumn

end Node

/-! ## Where columns start -/

/-- Where column `i` starts in a row: cells and borders take turns, so it comes after as many of
each. -/
def Block.columnStart (row : Block) (i : Nat) : Nat :=
  ((row.childTexts.take (2 * i)).map String.length).sum

theorem take_intersperse {α : Type} {cells : List α} {i : Nat} (h : i < cells.length) (sep : α) :
    (cells.intersperse sep).take (2 * i) = (cells.take i).flatMap fun cell => [cell, sep] := by
  induction cells generalizing i with
  | nil => exact absurd h (Nat.not_lt_zero i)
  | cons first cells ih =>
    cases i with
    | zero => rfl
    | succ i =>
      cases cells with
      | nil => exact absurd h (by simp)
      | cons second cells =>
        rw [List.intersperse_cons_cons, Nat.mul_succ, List.take_succ_cons, List.take_succ_cons,
          ih (Nat.lt_of_succ_lt_succ h), List.take_succ_cons, List.flatMap_cons]
        rfl

theorem sum_map_intersperse_add {α : Type} {cells : List α} (h : cells ≠ []) (sep : α)
    (size : α → Nat) :
    ((cells.intersperse sep).map size).sum + size sep =
      (cells.map fun cell => size cell + size sep).sum := by
  induction cells with
  | nil => exact absurd rfl h
  | cons first cells ih =>
    cases cells with
    | nil => simp
    | cons second cells =>
      have hrest := ih (List.cons_ne_nil _ _)
      rw [List.intersperse_cons_cons]
      simp only [List.map_cons, List.sum_cons] at hrest ⊢
      omega

theorem sum_map_flatMap_pair {α : Type} (cells : List α) (sep : α) (size : α → Nat) :
    ((cells.flatMap fun cell => [cell, sep]).map size).sum =
      (cells.map fun cell => size cell + size sep).sum := by
  induction cells with
  | nil => rfl
  | cons first cells ih =>
    rw [List.flatMap_cons, List.map_append, List.sum_append, ih]
    simp

/-- Sums of terms that bound each other are equal only if all terms are. -/
theorem sum_map_eq_sum_map_iff {α : Type} {xs : List α} {f g : α → Nat} (h : ∀ x, g x ≤ f x) :
    (xs.map f).sum = (xs.map g).sum ↔ ∀ x ∈ xs, f x = g x := by
  constructor
  · intro hsum x hx
    by_contra hne
    have hlt : g x < f x := Nat.lt_of_le_of_ne (h x) (Ne.symm hne)
    exact Nat.ne_of_gt (List.sum_lt_sum g f (fun x _ => h x) ⟨x, hx, hlt⟩) hsum
  · intro hall
    rw [List.map_congr_left hall]

/-! ## How long lines are -/

namespace Block

variable {options : LayoutOptions} {column : Block}

/-- How many characters a column takes in the row of lines `r`. -/
def lineLength (options : LayoutOptions) (r : Nat) (column : Block) : Nat :=
  max (column.width options).least (column.lines[r]?.getD []).length

theorem length_text_lineCell (options : LayoutOptions) (r : Nat) (column : Block) :
    (column.lineCell options column.lines[r]?).text.length = column.lineLength options r := by
  rw [← String.length_toList, toList_text_lineCell, ColumnWidth.length_pad]
  rfl

theorem length_text_border (options : LayoutOptions) :
    options.border.text.length = options.borderWidth.toNat := by
  rw [← String.length_toList, LayoutOptions.border, String.toList_ofList, length_padRight]
  exact Nat.max_eq_left (Nat.zero_le _)

/-- The column takes no more room than its width says: not even one character of it is shown if the
width is zero. -/
def KeepsWidth (options : LayoutOptions) (column : Block) : Prop :=
  column.width options = .fixed 0 → ∀ c ∈ column.text.toList, c = '\n'

theorem forall_lines_eq_nil_iff (column : Block) :
    (∀ line ∈ column.lines, line = []) ↔ ∀ c ∈ column.text.toList, c = '\n' := by
  rw [lines_eq]
  split
  · rename_i hnil
    simp [hnil]
  · exact forall_splitLines_eq_nil_iff

/-- A column of fixed width takes as much room as the width says in every row of lines, unless the
width is zero and there is a character to show. -/
theorem Fits.forall_lineLength_eq_iff (h : column.Fits options)
    (hfixed : column.width options ≠ .auto) {count : Nat} (hcount : column.lines.length ≤ count) :
    (∀ r < count, column.lineLength options r = (column.width options).least) ↔
      column.KeepsWidth options := by
  have hlines : (∀ r < count, column.lineLength options r = (column.width options).least) ↔
      ∀ line ∈ column.lines, line.length ≤ (column.width options).least := by
    constructor
    · intro hall line hline
      obtain ⟨r, hr, rfl⟩ := List.mem_iff_getElem.mp hline
      have hlength := hall r (Nat.lt_of_lt_of_le hr hcount)
      rw [lineLength, List.getElem?_eq_getElem hr, Option.getD_some] at hlength
      omega
    · intro hall r _
      rw [lineLength]
      cases hline : column.lines[r]? with
      | none => exact Nat.max_eq_left (Nat.zero_le _)
      | some line => exact Nat.max_eq_left (hall line (List.mem_of_getElem? hline))
  rw [hlines, KeepsWidth, ← forall_lines_eq_nil_iff]
  cases hwidth : column.width options with
  | auto => exact absurd hwidth hfixed
  | fixed width =>
    constructor
    · intro hall hzero line hline
      have hlength := hall line hline
      rw [hzero] at hlength
      exact List.length_eq_zero_iff.mp (Nat.le_zero.mp hlength)
    · intro hempty line hline
      have hlength := h width hwidth line hline
      by_cases hzero : width = 0
      · rw [hempty (by rw [hzero]) line hline]
        exact Nat.zero_le _
      · show line.length ≤ width
        omega

end Block

/-! ## Rows of lines -/

section

variable (options : LayoutOptions) (columns : List Block) (r : Nat)

theorem map_length_lineCells :
    (lineCells options columns r).map (fun cell => cell.text.length + options.border.text.length) =
      columns.map fun column => column.lineLength options r + options.borderWidth.toNat := by
  rw [lineCells, List.map_map]
  apply List.map_congr_left
  intro column _
  rw [Function.comp, Block.length_text_lineCell, Block.length_text_border]

/-- Where a column starts in a row of lines. -/
theorem columnStart_lineParts {i : Nat} (hi : i < columns.length) (props : Props) :
    Block.columnStart { name := "tr", props, children := lineParts options columns r } i =
      ((columns.take i).map fun column =>
        column.lineLength options r + options.borderWidth.toNat).sum := by
  have hlength : i < (lineCells options columns r).length := by
    rwa [lineCells, List.length_map]
  rw [Block.columnStart, Block.childTexts, ← List.map_take, List.map_map, lineParts,
    take_intersperse hlength]
  have hsum := sum_map_flatMap_pair ((lineCells options columns r).take i) options.border
    fun cell => cell.text.length
  rw [List.map_take, map_length_lineCells, ← List.map_take] at hsum
  exact hsum

/-- How long a row of lines is. -/
theorem length_lineParts (hne : columns ≠ []) :
    (String.join ((lineParts options columns r).map (·.text))).length + options.borderWidth.toNat =
      (columns.map fun column =>
        column.lineLength options r + options.borderWidth.toNat).sum := by
  have hcells : lineCells options columns r ≠ [] := by
    rw [lineCells]
    exact mt List.map_eq_nil_iff.mp hne
  have hsum := sum_map_intersperse_add hcells options.border fun cell => cell.text.length
  rw [map_length_lineCells, Block.length_text_border] at hsum
  rw [← hsum, ← String.length_toList, toList_join_texts, List.length_flatten, List.map_map,
    lineParts]
  rfl

/-- A row of lines is as long as the widths and the borders between them exactly if with one border
more for each column the sums are the same. -/
theorem length_lineParts_eq_iff (hne : columns ≠ []) :
    (String.join ((lineParts options columns r).map (·.text))).length =
        (columns.map fun column => (column.width options).least).sum +
          (columns.length - 1) * options.borderWidth.toNat ↔
      (columns.map fun column =>
        column.lineLength options r + options.borderWidth.toNat).sum =
        (columns.map fun column =>
          (column.width options).least + options.borderWidth.toNat).sum := by
  have hlength := length_lineParts options columns r hne
  have hpos := List.length_pos_iff.mpr hne
  have hwidths : (columns.map fun column =>
      (column.width options).least + options.borderWidth.toNat).sum =
        (columns.map fun column => (column.width options).least).sum +
          ((columns.length - 1) * options.borderWidth.toNat + options.borderWidth.toNat) := by
    rw [List.sum_map_add, List.map_const', List.sum_replicate_nat, ← Nat.succ_mul,
      Nat.succ_eq_add_one, Nat.sub_add_cancel hpos]
  rw [← hlength, hwidths]
  omega

end

theorem length_lines_le_lineCount {columns : List Block} {column : Block} (h : column ∈ columns) :
    column.lines.length ≤ lineCount columns := by
  apply Nat.le_of_not_lt
  intro hlt
  exact absurd (lt_lineCount_iff.mpr ⟨column, h, hlt⟩) (Nat.lt_irrefl _)

namespace Node

variable {options : LayoutOptions} {node : Node}

/-- What holds of every row of lines of a row holds of every pass over its columns. -/
theorem forall_mem_blocks_iff (h : Kind.ofName node.name = .row) {P : Block → Prop} :
    (∀ row ∈ blocks options node, P row) ↔
      ∀ r < lineCount (node.columns options),
        P { name := "tr"
            props := node.props
            children := lineParts options (node.columns options) r } := by
  rw [blocks_eq_synchronize h, synchronize_eq, List.forall_mem_map]
  simp only [List.mem_range]

/-- Some columns take as much room as their widths say in all rows of lines exactly if each of them
keeps its width. -/
theorem forall_sum_lineLength_eq_iff {columns : List Block}
    (hcolumns : ∀ column ∈ columns, column ∈ node.columns options)
    (hfixed : ∀ column ∈ columns, column.width options ≠ .auto) :
    (∀ r < lineCount (node.columns options),
      (columns.map fun column => column.lineLength options r + options.borderWidth.toNat).sum =
        (columns.map fun column =>
          (column.width options).least + options.borderWidth.toNat).sum) ↔
      ∀ column ∈ columns, column.KeepsWidth options := by
  have hkeeps : ∀ column ∈ columns, (∀ r < lineCount (node.columns options),
      column.lineLength options r = (column.width options).least) ↔ column.KeepsWidth options :=
    fun column hcolumn =>
      (fits_columns options node column (hcolumns column hcolumn)).forall_lineLength_eq_iff
        (hfixed column hcolumn) (length_lines_le_lineCount (hcolumns column hcolumn))
  have hsum : ∀ r, (columns.map fun column =>
      column.lineLength options r + options.borderWidth.toNat).sum =
        (columns.map fun column =>
          (column.width options).least + options.borderWidth.toNat).sum ↔
      ∀ column ∈ columns, column.lineLength options r = (column.width options).least := by
    intro r
    have hle : ∀ column : Block, (column.width options).least + options.borderWidth.toNat ≤
        column.lineLength options r + options.borderWidth.toNat :=
      fun column => Nat.add_le_add_right (Nat.le_max_left _ _) _
    rw [sum_map_eq_sum_map_iff hle]
    simp only [Nat.add_right_cancel_iff]
  constructor
  · intro hall column hcolumn
    exact (hkeeps column hcolumn).mp fun r hr => (hsum r).mp (hall r hr) column hcolumn
  · intro hall r hr
    exact (hsum r).mpr fun column hcolumn =>
      (hkeeps column hcolumn).mpr (hall column hcolumn) r hr

/-- Column `i` stands after as many other columns and as many borders. -/
theorem exists_getElem?_children (h : Kind.ofName node.name = .row) {i : Nat}
    (hi : i < (node.columns options).length) :
    ∀ row ∈ blocks options node, ∃ line,
      row.children[2 * i]? = some ((node.columns options)[i].lineCell options line) := by
  rw [forall_mem_blocks_iff h]
  intro r _
  refine ⟨(node.columns options)[i].lines[r]?, List.getElem?_intersperse_two_mul.trans ?_⟩
  rw [lineCells, List.getElem?_map, List.getElem?_eq_getElem hi]
  rfl

/-- A column comes after the widths of fixed columns before it, and a border for each, exactly if
these columns keep their widths. -/
theorem forall_columnStart_eq_iff (h : Kind.ofName node.name = .row) {i : Nat}
    (hi : i < (node.columns options).length)
    (hfixed : ∀ column ∈ (node.columns options).take i, column.width options ≠ .auto) :
    (∀ row ∈ blocks options node, row.columnStart i =
      (((node.columns options).take i).map fun column =>
        (column.width options).least + options.borderWidth.toNat).sum) ↔
      ∀ column ∈ (node.columns options).take i, column.KeepsWidth options := by
  rw [forall_mem_blocks_iff h,
    ← forall_sum_lineLength_eq_iff (fun _ => List.mem_of_mem_take) hfixed]
  simp only [columnStart_lineParts options (node.columns options) _ hi node.props]

/-- The rows of lines of a row with fixed columns are as long as the widths and the borders exactly
if all columns keep their widths. -/
theorem forall_length_eq_iff (h : Kind.ofName node.name = .row)
    (hfixed : ∀ column ∈ node.columns options, column.width options ≠ .auto) :
    (∀ row ∈ blocks options node, (String.join row.childTexts).length =
      ((node.columns options).map fun column => (column.width options).least).sum +
        ((node.columns options).length - 1) * options.borderWidth.toNat) ↔
      ∀ column ∈ node.columns options, column.KeepsWidth options := by
  rw [forall_mem_blocks_iff h, ← forall_sum_lineLength_eq_iff (fun _ hcolumn => hcolumn) hfixed]
  by_cases hne : node.columns options = []
  · -- a row without columns becomes no row of lines
    have hcount : lineCount (node.columns options) = 0 := by
      rw [hne]
      rfl
    simp [hcount]
  · simp only [← length_lineParts_eq_iff options (node.columns options) _ hne]
    exact Iff.rfl

end Node

/-- In all rows of lines that a row becomes, a column comes after the widths of the columns before
it, if these are fixed, and after a border for each; and if all columns are of fixed width, every
row of lines is as long as the widths and the borders together.  Both are so exactly if no column of
width zero has a character to show, which is always so if the standard width is not zero. -/
theorem Node.columns_aligned_iff (options : LayoutOptions) {node : Node}
    (hrow : Kind.ofName node.name = .row) :
    let columns := node.columns options
    let border := options.borderWidth.toNat
    (∀ i (hi : i < columns.length),
      (∀ row ∈ node.blocks options, ∃ line,
        row.children[2 * i]? = some (columns[i].lineCell options line)) ∧
      ((∀ column ∈ columns.take i, column.width options ≠ .auto) →
        ((∀ row ∈ node.blocks options, row.columnStart i =
            ((columns.take i).map fun column => (column.width options).least + border).sum) ↔
          ∀ column ∈ columns.take i, column.KeepsWidth options))) ∧
    ((∀ column ∈ columns, column.width options ≠ .auto) →
      ((∀ row ∈ node.blocks options, (String.join row.childTexts).length =
          (columns.map fun column => (column.width options).least).sum +
            (columns.length - 1) * border) ↔
        ∀ column ∈ columns, column.KeepsWidth options)) ∧
    (options.colWidth ≠ 0 → ∀ column : Block, column.KeepsWidth options) := by
  intro columns border
  refine ⟨fun i hi => ⟨Node.exists_getElem?_children hrow hi, ?_⟩, ?_, ?_⟩
  · exact Node.forall_columnStart_eq_iff hrow hi
  · exact Node.forall_length_eq_iff hrow
  · intro hne column hzero
    exact absurd hzero (ColumnWidth.ofProps_ne_fixed_zero hne column.props)

namespace Node

/-- A row with a text that is cut, a nested row that is cut, and a cell that is as wide as its
text. -/
def cutAndNested : Node :=
  .branch "tr" ∅
    [.leaf "td" (Props.ofPairs [("width", "3")]) "abcd",
      .branch "td" (Props.ofPairs [("width", "4")]) [.leaf "tr" ∅ "x\n\ny"],
      .leaf "td" (Props.ofPairs [("width", "auto")]) "end"]

theorem columns_aligned_cutAndNested :
    Kind.ofName cutAndNested.name = .row ∧
    (∀ column ∈ (cutAndNested.columns {}).take 2, column.width {} ≠ .auto) ∧
    (∀ row ∈ cutAndNested.blocks {}, row.columnStart 2 = 11) := by
  have hrow : Kind.ofName cutAndNested.name = .row := by decide
  have hfixed : ∀ column ∈ (cutAndNested.columns {}).take 2, column.width {} ≠ .auto := by
    decide +kernel
  obtain ⟨hstarts, -, hkeeps⟩ := columns_aligned_iff {} hrow
  have hstart := ((hstarts 2 (by decide +kernel)).2 hfixed).mpr fun column _ =>
    hkeeps (by decide) column
  refine ⟨hrow, hfixed, fun row hmem => (hstart row hmem).trans ?_⟩
  decide +kernel

/-- A row with a blank in a column of the standard width, beside two lines. -/
def blankCell : Node :=
  .branch "tr" ∅
    [.leaf "td" ∅ " ", .leaf "td" (Props.ofPairs [("width", "1")]) "b\nc"]

/-- With a standard width of zero the second column starts in two places, and the rows of lines
have two lengths. -/
theorem not_columns_aligned_blankCell :
    (blankCell.blocks { colWidth := 0 }).map (fun row =>
      (row.columnStart 1, (String.join row.childTexts).length)) = [(3, 4), (2, 3)] ∧
    ¬ ∀ (options : LayoutOptions) (node : Node), Kind.ofName node.name = .row →
      ∀ i < (node.columns options).length,
        (∀ column ∈ (node.columns options).take i, column.width options ≠ .auto) →
        ∀ row ∈ node.blocks options, row.columnStart i =
          (((node.columns options).take i).map fun column =>
            (column.width options).least + options.borderWidth.toNat).sum := by
  refine ⟨by decide +kernel, fun hall => ?_⟩
  have hstart := hall { colWidth := 0 } blankCell (by decide) 1 (by decide) (by decide)
  have hstarts : ∀ start ∈ (blankCell.blocks { colWidth := 0 }).map (·.columnStart 1),
      start = 2 := by
    intro start hmem
    obtain ⟨row, hrow, rfl⟩ := List.mem_map.mp hmem
    exact (hstart row hrow).trans (by decide)
  exact absurd hstarts (by decide +kernel)

end Node

end Receipt
