import Receipt.Proofs.Layout.Lines

/-!
# Documents in cells

A cell without a width of its own is as wide as the rows that are nested in it, and offers these
rows as its lines.  A row with only this cell therefore makes the same lines once more, and so does
any number of such rows and tables around a document.

* `lineTexts_cellOfRows`: a row whose only cell has no width of its own.
* `Node.texts_rowsFromAll`: the props of the tables make no difference to the texts of rows.
* `texts_rows_wrap`: any number of layers around a document.
-/

namespace Receipt

open Text

/-! ## One cell -/

/-- The props of a column ask for no width, or for one as wide as its text. -/
def Props.IsUnsized (props : Props) : Prop :=
  ∀ value, props.get? ColumnWidth.key = some value → ColumnWidth.read? value = some .auto

/-- A cell with nodes in it that asks for no width is as wide as they are. -/
theorem Props.IsUnsized.ofProps_nestingProps {props : Props} (h : props.IsUnsized)
    (colWidth : UInt64) : ColumnWidth.ofProps (nestingProps props) colWidth = .auto := by
  rw [nestingProps, Props.contains]
  cases hvalue : props.get? ColumnWidth.key with
  | some value =>
    rw [Option.isSome_some, if_pos rfl, ColumnWidth.ofProps, hvalue, Option.bind_some,
      h value hvalue, Option.getD_some]
  | none =>
    have hauto : ColumnWidth.read? "auto" = some .auto := by decide
    rw [Option.isSome_none, if_neg Bool.false_ne_true, ColumnWidth.ofProps, Props.get?_set_self,
      Option.bind_some, hauto, Option.getD_some]

/-- A row whose only cell asks for no width makes the lines of what is nested in the cell. -/
theorem lineTexts_cellOfRows (options : LayoutOptions) {props : Props} (h : props.IsUnsized)
    {rows : List Row} (hrows : Separable (rows.map fun row => row.text.toList)) :
    lineTexts options [cellOfRows options props rows] = rows.map (·.text) := by
  have hwidth := h.ofProps_nestingProps options.colWidth
  have hlines : (cellOfRows options props rows).lines = rows.map fun row => row.text.toList := by
    rw [cellOfRows, hwidth]
    have hsame : (rows.flatMap fun row => ColumnWidth.auto.wrapRow row.text.toList) =
        rows.map fun row => row.text.toList := List.map_eq_flatMap.symm
    rw [hsame, Block.lines_ofLines _ hrows]
  rw [lineTexts_auto options hwidth, hlines, List.map_map]
  apply List.map_congr_left
  intro row _
  exact String.ofList_toList

/-! ## Documents -/

namespace Node

mutual

/-- The props of the tables make no difference to the texts of the rows of a node. -/
theorem texts_rowsFrom (options : LayoutOptions) (tableProps tableProps' : Props) (node : Node) :
    (rowsFrom options tableProps node).1.map (·.text) =
      (rowsFrom options tableProps' node).1.map (·.text) := by
  cases node with
  | leaf name props text =>
    rw [rowsFrom, rowsFrom]
    cases Kind.ofName name with
    | table => simp only [List.map_map, Function.comp_def]
    | row => simp only [List.map_map, Function.comp_def]
    | cell => rfl
    | unknown => rfl
  | branch name props children =>
    rw [rowsFrom, rowsFrom]
    cases Kind.ofName name with
    | table => exact texts_rowsFromAll options _ _ children
    | row => simp only [List.map_map, Function.comp_def]
    | cell => rfl
    | unknown => rfl

/-- The props of the tables make no difference to the texts of rows. -/
theorem texts_rowsFromAll (options : LayoutOptions) (tableProps tableProps' : Props)
    (nodes : List Node) :
    (rowsFromAll options tableProps nodes).1.map (·.text) =
      (rowsFromAll options tableProps' nodes).1.map (·.text) := by
  cases nodes with
  | nil => rfl
  | cons node nodes =>
    rw [rowsFromAll, rowsFromAll, List.map_append, List.map_append,
      texts_rowsFrom options tableProps tableProps' node]
    congr 1
    exact texts_rowsFromAll options _ _ nodes

end

end Node

/-- Something that can be put around a document. -/
inductive Layer where
  /-- A row with one cell, which holds the document. -/
  | cell (rowProps cellProps : Props)
  | table (props : Props)

namespace Layer

/-- The document with a layer around it. -/
def wrap : Layer → List Node → List Node
  | cell rowProps cellProps, nodes => [.branch "tr" rowProps [.branch "td" cellProps nodes]]
  | table props, nodes => [.branch "table" props nodes]

/-- The layer asks for no width. -/
def IsUnsized : Layer → Prop
  | cell _ cellProps => cellProps.IsUnsized
  | table _ => True

/-- A layer that asks for no width changes no line of the document. -/
theorem IsUnsized.texts_rows {layer : Layer} (h : layer.IsUnsized) (options : LayoutOptions)
    (nodes : List Node) :
    (rows options (layer.wrap nodes)).map (·.text) = (rows options nodes).map (·.text) := by
  cases layer with
  | cell rowProps cellProps =>
    have hblocks : Node.blocksOfAll options [.branch "td" cellProps nodes] =
        [cellOfRows options cellProps (rows options nodes)] := rfl
    rw [rows_eq, wrap]
    show (List.map _ (lineTexts options (Node.blocksOfAll options _)) ++ []).map _ = _
    rw [hblocks, List.append_nil, List.map_map,
      lineTexts_cellOfRows options h (separable_rows options nodes)]
    exact List.map_id _
  | table props =>
    rw [rows_eq, rows_eq, wrap]
    show ((Node.rowsFromAll options _ nodes).1 ++ []).map _ = _
    rw [List.append_nil]
    exact Node.texts_rowsFromAll options _ _ nodes

end Layer

/-- Any number of layers that ask for no width change no line of a document, wherever it stands
among them. -/
theorem texts_rows_wrap (options : LayoutOptions) (layers : List Layer)
    (h : ∀ layer ∈ layers, layer.IsUnsized) (nodes : List Node) :
    (rows options (layers.foldr Layer.wrap nodes)).map (·.text) =
      (rows options nodes).map (·.text) := by
  induction layers with
  | nil => rfl
  | cons layer layers ih =>
    obtain ⟨hlayer, hlayers⟩ := List.forall_mem_cons.mp h
    rw [List.foldr_cons, hlayer.texts_rows, ih hlayers]

/-- A table around a cell whose width is written with blanks, around a cell without a width. -/
def unsizedLayers : List Layer :=
  [.table (Props.ofPairs [("fontSize", "24")]),
    .cell ∅ (Props.ofPairs [("width", " auto ")]),
    .cell (Props.ofPairs [("width", "1")]) ∅]

theorem texts_rows_wrap_unsizedLayers :
    (∀ layer ∈ unsizedLayers, layer.IsUnsized) ∧
    (rows {} (unsizedLayers.foldr Layer.wrap [.leaf "tr" ∅ "\n", .leaf "table" ∅ "a\n b"])).map
        (·.text) =
      (rows {} [.leaf "tr" ∅ "\n", .leaf "table" ∅ "a\n b"]).map (·.text) := by
  have hunsized : ∀ layer ∈ unsizedLayers, layer.IsUnsized := by
    have hspaced : (Props.ofPairs [("width", " auto ")]).IsUnsized := by
      intro value hvalue
      obtain rfl : " auto " = value := Option.some.inj hvalue
      decide
    have hempty : (∅ : Props).IsUnsized := by
      intro value hvalue
      exact absurd hvalue (Option.some_ne_none value).symm
    simp only [unsizedLayers, List.forall_mem_cons, Layer.IsUnsized]
    exact ⟨trivial, hspaced, hempty, fun _ h => absurd h List.not_mem_nil⟩
  exact ⟨hunsized, texts_rows_wrap {} unsizedLayers hunsized _⟩

end Receipt
