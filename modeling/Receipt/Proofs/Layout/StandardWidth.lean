import Receipt.Proofs.Layout.Rewriting
import Receipt.Proofs.Text.Blank
import Receipt.Proofs.Text.Decimal

/-!
# The standard width

A cell that asks for no usable width has the standard width.  It might as well ask for it: giving
the standard width to such cells as their own changes no row of a document.  And it makes no
difference by how much the standard width is wider than the widest column that can be asked for.

* `ColumnWidth.standardValue`: what a cell has to write in order to ask for the standard width.
* `ColumnWidth.ofProps_set_standardValue`: a cell that asks for it has the width that it had.
* `Node.AsksForStandard.appearance_eq`: a document shows the same of such a cell.
* `LayoutOptions.Agree.blocksOfAll_eq`: the layout depends on the standard width only as far as a
  column can have it.
* `rows_asksForStandard`: both together.
-/

namespace Receipt

open Text

/-! ## Asking for the standard width -/

namespace ColumnWidth

/-- A width that can be asked for is read back when it is written. -/
theorem read?_write {width : Nat} (hpos : 0 < width) (hwidest : width ≤ widest) :
    read? (String.ofList (Decimal.write width)) = some (fixed width) := by
  have htrim : trim (Decimal.write width) = Decimal.write width :=
    trim_of_not_blank fun c hc =>
      Decimal.isBlank_eq_false_of_isDigit (Decimal.isDigit_of_mem_write hc)
  have hword : Decimal.write width ≠ ['a', 'u', 't', 'o'] := by
    intro hauto
    have hdigit : 'a'.isDigit = true :=
      Decimal.isDigit_of_mem_write (n := width) (by rw [hauto]; exact List.mem_cons_self)
    exact absurd hdigit (by decide)
  obtain ⟨n, rfl⟩ := Nat.exists_eq_succ_of_ne_zero hpos.ne'
  rw [read?, String.toList_ofList]
  simp only [htrim, if_neg hword, Decimal.readBelow?_write (Nat.lt_succ_of_le hwidest)]

/-- The standard width as the value of a prop. -/
def standardValue (colWidth : UInt64) : String :=
  String.ofList (Decimal.write (min colWidth.toNat widest))

/-- Who asks for the standard width gets it, even if it is zero, which cannot be asked for. -/
theorem getD_read?_standardValue (colWidth : UInt64) :
    (read? (standardValue colWidth)).getD (standard colWidth) = standard colWidth := by
  rw [standardValue, standard]
  rcases Nat.eq_zero_or_pos (min colWidth.toNat widest) with hzero | hpos
  · rw [hzero]
    decide
  · rw [read?_write hpos (Nat.min_le_right _ _), Option.getD_some]

theorem ofProps_set_standardValue {props : Props} (h : (props.get? key).bind read? = none)
    (colWidth : UInt64) :
    ofProps (props.set key (standardValue colWidth)) colWidth = ofProps props colWidth := by
  rw [ofProps, ofProps, h, Props.get?_set_self, Option.bind_some, getD_read?_standardValue,
    Option.getD_none]

end ColumnWidth

namespace Node

/-- A cell that holds a text and asks for no usable width, and the same cell with the standard width
as its own. -/
inductive AsksForStandard (colWidth : UInt64) : Node → Node → Prop
  | cell {props : Props} (text : String)
      (hwidth : (props.get? ColumnWidth.key).bind ColumnWidth.read? = none) :
      AsksForStandard colWidth (leaf "td" props text)
        (leaf "td" (props.set ColumnWidth.key (ColumnWidth.standardValue colWidth)) text)

theorem AsksForStandard.appearance_eq {options : LayoutOptions} {node node' : Node}
    (h : AsksForStandard options.colWidth node node') :
    appearance options node' = appearance options node := by
  cases h with
  | @cell props text hwidth =>
    have hprops := ColumnWidth.ofProps_set_standardValue hwidth options.colWidth
    have hface : ∀ props : Props, (cellOfText options props text).face options =
        (String.ofList (joinLines ((ColumnWidth.ofProps props options.colWidth).wrap text.toList)),
          ColumnWidth.ofProps props options.colWidth) := fun _ => rfl
    ext1
    · rfl
    · show [(cellOfText options _ text).face options] = [(cellOfText options _ text).face options]
      rw [hface, hface, hprops]

end Node

/-! ## Standard widths that no column can have -/

/-- Two layouts have the same border and give the same width to columns that do not ask for one. -/
structure LayoutOptions.Agree (options options' : LayoutOptions) : Prop where
  border : options'.borderWidth = options.borderWidth
  standard : ColumnWidth.standard options'.colWidth = ColumnWidth.standard options.colWidth

namespace LayoutOptions.Agree

variable {options options' : LayoutOptions}

theorem ofProps_eq (h : options.Agree options') (props : Props) :
    ColumnWidth.ofProps props options'.colWidth = ColumnWidth.ofProps props options.colWidth := by
  rw [ColumnWidth.ofProps, ColumnWidth.ofProps, h.standard]

theorem cellOfText_eq (h : options.Agree options') (props : Props) (text : String) :
    cellOfText options' props text = cellOfText options props text := by
  rw [cellOfText, cellOfText, h.ofProps_eq]

theorem cellOfRows_eq (h : options.Agree options') (props : Props) (rows : List Row) :
    cellOfRows options' props rows = cellOfRows options props rows := by
  rw [cellOfRows, cellOfRows, h.ofProps_eq]

theorem synchronize_eq (h : options.Agree options') (props : Props) (columns : List Block) :
    synchronize options' props columns = synchronize options props columns := by
  have hcell : Block.lineCell options' = Block.lineCell options := by
    funext column line
    rw [Block.lineCell, Block.lineCell, h.ofProps_eq]
  have hborder : options'.border = options.border := by
    rw [LayoutOptions.border, LayoutOptions.border, h.border]
  rw [synchronize, synchronize, hcell, hborder]

theorem rowsOfText_eq (h : options.Agree options') (props : Props) (text : String) :
    rowsOfText options' props text = rowsOfText options props text := by
  rw [rowsOfText, rowsOfText, h.cellOfText_eq, h.synchronize_eq]

theorem tableOfText_eq (h : options.Agree options') (props : Props) (text : String) :
    tableOfText options' props text = tableOfText options props text := by
  rw [tableOfText, tableOfText, h.rowsOfText_eq]

mutual

/-- A node is laid out in the same way. -/
theorem blocks_eq (h : options.Agree options') (node : Node) :
    node.blocks options' = node.blocks options := by
  cases node with
  | leaf name props text =>
    rw [Node.blocks, Node.blocks, h.tableOfText_eq, h.rowsOfText_eq, h.cellOfText_eq]
  | branch name props children =>
    rw [Node.blocks, Node.blocks, h.tableOfText_eq, h.rowsOfText_eq, h.blocksOfAll_eq children,
      h.synchronize_eq, h.cellOfRows_eq]

/-- Several nodes are laid out in the same way. -/
theorem blocksOfAll_eq (h : options.Agree options') (nodes : List Node) :
    Node.blocksOfAll options' nodes = Node.blocksOfAll options nodes := by
  cases nodes with
  | nil => rfl
  | cons node nodes =>
    rw [Node.blocksOfAll, Node.blocksOfAll, h.blocks_eq node, h.blocksOfAll_eq nodes]

end

end LayoutOptions.Agree

/-- The measures with a standard width that a column can have. -/
def LayoutOptions.capped (options : LayoutOptions) : LayoutOptions :=
  { options with colWidth := UInt64.ofNat (min options.colWidth.toNat ColumnWidth.widest) }

theorem LayoutOptions.agree_capped (options : LayoutOptions) : options.Agree options.capped where
  border := rfl
  standard := by
    have hlt : min options.colWidth.toNat ColumnWidth.widest < UInt64.size :=
      Nat.lt_of_le_of_lt (Nat.min_le_right _ _) (by decide)
    rw [capped, ColumnWidth.standard, ColumnWidth.standard, UInt64.toNat_ofNat_of_lt' hlt,
      Nat.min_assoc, Nat.min_self]

/-- Cells with a text that ask for no usable width can ask for the standard width instead, anywhere
in a document, without a change to its rows and their props; and where the standard width is wider
than a column can be, the widest column as the standard width gives the same layout. -/
theorem rows_asksForStandard (options : LayoutOptions) {nodes nodes' : List Node}
    (h : Node.Rewrites (Node.AsksForStandard options.colWidth) nodes nodes') :
    rows options nodes' = rows options nodes ∧
    ∀ document, layout options.capped document = layout options document := by
  refine ⟨?_, fun document => ?_⟩
  · exact Node.rows_eq_of_appearanceOfAll_eq
      (h.appearanceOfAll_eq fun _ _ hnode => hnode.appearance_eq)
  · rw [layout, layout, options.agree_capped.blocksOfAll_eq]

/-- Two cells that ask for no usable width, and one in a cell that does. -/
def unsizedCells : List Node :=
  [.branch "tr" ∅
    [.leaf "td" ∅ "coffee",
      .leaf "td" (Props.ofPairs [("width", "wide")]) "tea",
      .branch "td" (Props.ofPairs [("width", "6")]) [.branch "tr" ∅ [.leaf "td" ∅ "cup"]]]]

/-- The same cells with the standard width of `4` as their own. -/
def unsizedCellsAsked : List Node :=
  [.branch "tr" ∅
    [.leaf "td" (Props.ofPairs [("width", "4")]) "coffee",
      .leaf "td" (Props.ofPairs [("width", "4")]) "tea",
      .branch "td" (Props.ofPairs [("width", "6")])
        [.branch "tr" ∅ [.leaf "td" (Props.ofPairs [("width", "4")]) "cup"]]]]

theorem rows_asksForStandard_unsizedCells :
    Node.Rewrites (Node.AsksForStandard 4) unsizedCells unsizedCellsAsked ∧
    (rows { colWidth := 4 } unsizedCellsAsked).map (·.text) =
      ["coff  tea   cup   ", "ee                "] := by
  have h : Node.Rewrites (Node.AsksForStandard 4) unsizedCells unsizedCellsAsked :=
    .inside _ _ (.replace (.cell "coffee" (by decide)) (.replace (.cell "tea" (by decide))
      (.inside _ _ (.inside _ _ (.replace (.cell "cup" (by decide)) .nil) .nil) .nil))) .nil
  obtain ⟨hrows, -⟩ := rows_asksForStandard { colWidth := 4 } h
  refine ⟨h, ?_⟩
  rw [hrows]
  decide +kernel

end Receipt
