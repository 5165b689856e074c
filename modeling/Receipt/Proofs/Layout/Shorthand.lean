import Receipt.Proofs.Layout.Rewriting

/-!
# Tables and rows that hold a text

A table or a row may hold a text, or nothing, instead of rows and cells.  This is shorthand for a
single cell without props, in a single row.  Writing it out makes no difference, wherever in a
document it is done and however often.

* `Node.WritesOut`: shorthand and what it stands for.
* `Node.WritesOut.blocks_eq`, `Node.WritesOut.layoutEvents_eq`: a node is laid out, and reported on,
  like the one that is written out.
* `layout_writesOut`: so are documents in which some nodes are written out.
-/

namespace Receipt

namespace Node

/-! ## One node -/

/-- A row with the text in its only cell. -/
def rowAround (props : Props) (text : String) : Node :=
  branch "tr" props [leaf "td" ∅ text]

/-- A table with the text in the only cell of its only row. -/
def tableAround (props : Props) (text : String) : Node :=
  branch "table" props [rowAround ∅ text]

/-- A row or a table that holds a text, and the same with its cell written out.  One that holds
nothing has an empty text. -/
inductive WritesOut : Node → Node → Prop
  | row (props : Props) (text : String) : WritesOut (leaf "tr" props text) (rowAround props text)
  | emptyRow (props : Props) : WritesOut (branch "tr" props []) (rowAround props "")
  | table (props : Props) (text : String) :
      WritesOut (leaf "table" props text) (tableAround props text)
  | emptyTable (props : Props) : WritesOut (branch "table" props []) (tableAround props "")

theorem blocks_rowAround (options : LayoutOptions) (props : Props) (text : String) :
    blocks options (rowAround props text) = rowsOfText options props text := rfl

theorem blocks_tableAround (options : LayoutOptions) (props : Props) (text : String) :
    blocks options (tableAround props text) = [tableOfText options props text] := by
  show [Block.mk "table" props "" (blocks options (rowAround ∅ text) ++ [])] = _
  rw [List.append_nil, blocks_rowAround]
  rfl

/-- Shorthand is laid out as what it stands for. -/
theorem WritesOut.blocks_eq {node node' : Node} (h : WritesOut node node')
    (options : LayoutOptions) : blocks options node' = blocks options node := by
  cases h with
  | row props text => exact blocks_rowAround options props text
  | emptyRow props => exact blocks_rowAround options props ""
  | table props text => exact blocks_tableAround options props text
  | emptyTable props => exact blocks_tableAround options props ""

/-- Nothing is reported on shorthand, nor on what it stands for. -/
theorem WritesOut.layoutEvents_eq {node node' : Node} (h : WritesOut node node')
    (options : LayoutOptions) : layoutEvents options node' = layoutEvents options node := by
  cases h with
  | row => rfl
  | emptyRow => rfl
  | table => rfl
  | emptyTable => rfl

/-! ## Documents -/

/-- The reports on a document are the same if those on each new node are. -/
theorem Rewrites.layoutEventsOfAll_eq {step : Node → Node → Prop} {nodes nodes' : List Node}
    (h : Rewrites step nodes nodes') {options : LayoutOptions}
    (hstep : ∀ node node', step node node' →
      layoutEvents options node' = layoutEvents options node) :
    layoutEventsOfAll options nodes' = layoutEventsOfAll options nodes := by
  induction h with
  | nil => rfl
  | keep node h ih => rw [layoutEventsOfAll, layoutEventsOfAll, ih]
  | replace hnode h ih => rw [layoutEventsOfAll, layoutEventsOfAll, hstep _ _ hnode, ih]
  | inside name props hchildren h ihChildren ih =>
    rw [layoutEventsOfAll, layoutEventsOfAll, ih, layoutEvents, layoutEvents, ihChildren]

end Node

/-- Shorthand can be written out anywhere in a document, in tables, rows and cells at any depth, or
be left as it is: the layout is the same, so the rows with their props are, and so are the
reports. -/
theorem layout_writesOut (options : LayoutOptions) {nodes nodes' : List Node}
    (h : Node.Rewrites Node.WritesOut nodes nodes') :
    layout options nodes' = layout options nodes ∧
    rows options nodes' = rows options nodes ∧
    Node.layoutEventsOfAll options nodes' = Node.layoutEventsOfAll options nodes := by
  have hblocks := h.blocksOfAll_eq fun _ _ hnode => hnode.blocks_eq options
  have hlayout : layout options nodes' = layout options nodes := by
    rw [layout, layout, hblocks]
  refine ⟨hlayout, ?_, h.layoutEventsOfAll_eq fun _ _ hnode => hnode.layoutEvents_eq options⟩
  rw [rows, rows, hlayout]

/-- A table with a text, beside a cell with a row without cells and a table with a text in it. -/
def shorthands : List Node :=
  [.leaf "table" (Props.ofPairs [("fontSize", "20")]) "one",
    .branch "tr" ∅
      [.branch "td" (Props.ofPairs [("width", "3")])
        [.branch "tr" (Props.ofPairs [("lineHeight", "8")]) [], .leaf "table" ∅ "two\nthree"]]]

/-- The same with all but the first table written out. -/
def shorthandsWrittenOut : List Node :=
  [.leaf "table" (Props.ofPairs [("fontSize", "20")]) "one",
    .branch "tr" ∅
      [.branch "td" (Props.ofPairs [("width", "3")])
        [.branch "tr" (Props.ofPairs [("lineHeight", "8")]) [.leaf "td" ∅ ""],
          .branch "table" ∅ [.branch "tr" ∅ [.leaf "td" ∅ "two\nthree"]]]]]

theorem layout_writesOut_shorthands :
    Node.Rewrites Node.WritesOut shorthands shorthandsWrittenOut ∧
    layout {} shorthandsWrittenOut = layout {} shorthands ∧
    (rows {} shorthandsWrittenOut).map (·.text) = ["one       ", "two", "thr", "ee "] := by
  have h : Node.Rewrites Node.WritesOut shorthands shorthandsWrittenOut :=
    .keep _ (.inside _ _ (.inside _ _ (.replace (.emptyRow _) (.replace (.table _ _) .nil)) .nil)
      .nil)
  obtain ⟨hlayout, hrows, -⟩ := layout_writesOut {} h
  refine ⟨h, hlayout, ?_⟩
  rw [hrows]
  decide +kernel

end Receipt
