import Receipt.Layout.Arrange
import Receipt.Proofs.Props

/-!
# Reading the rows off a document in one pass

A document is laid out as blocks, and the rows are read off the blocks.  `Node.rowsFrom` reads the
rows off the document itself: it goes through the nodes in order, into tables only, and carries the
props of the last table that had any.  `rows_eq` says that both ways agree, in texts and in props.

In the one pass it is plain that a row changes nothing for the rows after it.  `Node.Replaces`
relates documents that differ in one node, and `Node.Replaces.rowsFromAll` says that all other rows
are the same in both, unless the node is a table.
-/

namespace Receipt

/-! ## The rows of blocks -/

namespace Block

theorem rowsFromAll_append (tableProps : Props) (first second : List Block) :
    rowsFromAll tableProps (first ++ second) =
      ((rowsFromAll tableProps first).1 ++ (rowsFromAll (rowsFromAll tableProps first).2 second).1,
        (rowsFromAll (rowsFromAll tableProps first).2 second).2) := by
  induction first generalizing tableProps with
  | nil => rfl
  | cons block first ih =>
    rw [List.cons_append, rowsFromAll, rowsFromAll]
    simp only [ih, List.append_assoc]

theorem rowsFromAll_singleton (tableProps : Props) (block : Block) :
    rowsFromAll tableProps [block] = rowsFrom tableProps block := by
  simp [rowsFromAll]

/-- A row's block is one row. -/
theorem rowsFrom_row (tableProps props : Props) (children : List Block) :
    rowsFrom tableProps { name := "tr", props, children } =
      ([⟨String.join (children.map (·.text)), tableProps.merge props⟩], tableProps) := rfl

/-- A table's block sets the props of the tables if it has any. -/
theorem rowsFrom_table {name : String} (h : Kind.ofName name = .table) (tableProps props : Props)
    (children : List Block) :
    rowsFrom tableProps { name, props, children } =
      rowsFromAll (if props.isEmpty then tableProps else props) children := by
  rw [rowsFrom, h]

end Block

/-! ## The lines of one row -/

/-- The texts of the rows of lines that columns make. -/
def lineTexts (options : LayoutOptions) (columns : List Block) : List String :=
  (passes (columns.map Block.lines)).map fun pass =>
    String.join (((List.zipWith (Block.lineCell options) columns pass).intersperse
      options.border).map (·.text))

theorem passes_nil : passes ([] : List (List (List Char))) = [] := by
  rw [passes]
  rfl

theorem lineTexts_nil (options : LayoutOptions) : lineTexts options [] = [] := by
  rw [lineTexts, List.map_nil, passes_nil, List.map_nil]

/-- A cell with an empty text has no lines. -/
theorem lineTexts_empty (options : LayoutOptions) :
    lineTexts options [cellOfText options ∅ ""] = [] := by
  have hlines : (cellOfText options ∅ "").lines = [] := by
    show Block.lines (Block.ofLines ∅ [[]]) = []
    rfl
  rw [lineTexts, List.map_singleton, hlines, passes]
  rfl

/-- The rows that are read off one row's rows of lines: all have the same props, and the props of
the tables stay as they are. -/
theorem rowsFromAll_synchronize (options : LayoutOptions) (tableProps props : Props)
    (columns : List Block) :
    Block.rowsFromAll tableProps (synchronize options props columns) =
      ((lineTexts options columns).map fun line => ⟨line, tableProps.merge props⟩, tableProps) := by
  rw [synchronize, lineTexts]
  induction passes (columns.map Block.lines) with
  | nil => rfl
  | cons pass rest ih =>
    rw [List.map_cons, Block.rowsFromAll, Block.rowsFrom_row]
    simp only [ih, List.map_cons]
    rfl

/-! ## The rows of a document -/

namespace Node

mutual

/-- The rows of a node, where the props of the tables before it are `tableProps`; and the table
props that hold after it. -/
def rowsFrom (options : LayoutOptions) (tableProps : Props) : Node → List Row × Props
  | leaf name props text =>
    match Kind.ofName name with
    | .table =>
      let tableProps := if props.isEmpty then tableProps else props
      ((lineTexts options [cellOfText options ∅ text]).map fun line => ⟨line, tableProps⟩,
        tableProps)
    | .row =>
      ((lineTexts options [cellOfText options ∅ text]).map fun line =>
        ⟨line, tableProps.merge props⟩, tableProps)
    | _ => ([], tableProps)
  | branch name props children =>
    match Kind.ofName name with
    | .table => rowsFromAll options (if props.isEmpty then tableProps else props) children
    | .row =>
      ((lineTexts options (blocksOfAll options children)).map fun line =>
        ⟨line, tableProps.merge props⟩, tableProps)
    | _ => ([], tableProps)

/-- The rows of several nodes, one after the other. -/
def rowsFromAll (options : LayoutOptions) (tableProps : Props) : List Node → List Row × Props
  | [] => ([], tableProps)
  | node :: nodes =>
    let (rows, tableProps) := rowsFrom options tableProps node
    let (moreRows, tableProps) := rowsFromAll options tableProps nodes
    (rows ++ moreRows, tableProps)

end

/-- A table that holds text is a table with one row without props. -/
theorem rowsFrom_tableOfText (options : LayoutOptions) (tableProps props : Props) (text : String) :
    Block.rowsFrom tableProps (tableOfText options props text) =
      ((lineTexts options [cellOfText options ∅ text]).map fun line =>
        ⟨line, if props.isEmpty then tableProps else props⟩,
        if props.isEmpty then tableProps else props) := by
  rw [tableOfText, Block.rowsFrom_table rfl, rowsOfText, rowsFromAll_synchronize]
  rfl

mutual

/-- The rows of a node are those of its blocks. -/
theorem rowsFromAll_blocks (options : LayoutOptions) (tableProps : Props) (node : Node) :
    Block.rowsFromAll tableProps (blocks options node) = rowsFrom options tableProps node := by
  cases node with
  | leaf name props text =>
    rw [blocks, rowsFrom]
    cases Kind.ofName name with
    | table => exact (Block.rowsFromAll_singleton _ _).trans (rowsFrom_tableOfText _ _ _ _)
    | row => exact rowsFromAll_synchronize _ _ _ _
    | cell => rfl
    | unknown => rfl
  | branch name props children =>
    rw [blocks, rowsFrom]
    cases hkind : Kind.ofName name with
    | table =>
      cases children with
      | nil =>
        show Block.rowsFromAll tableProps [tableOfText options props ""] = _
        rw [Block.rowsFromAll_singleton, rowsFrom_tableOfText, lineTexts_empty]
        rfl
      | cons child children =>
        show Block.rowsFromAll tableProps
          [{ name, props, children := blocksOfAll options (child :: children) }] = _
        rw [Block.rowsFromAll_singleton, Block.rowsFrom_table hkind]
        exact rowsFromAll_blocksOfAll options _ (child :: children)
    | row =>
      cases children with
      | nil =>
        show Block.rowsFromAll tableProps (rowsOfText options props "") =
          ((lineTexts options []).map _, tableProps)
        rw [rowsOfText, rowsFromAll_synchronize, lineTexts_empty, lineTexts_nil]
      | cons child children => exact rowsFromAll_synchronize _ _ _ _
    | cell => rfl
    | unknown => rfl

/-- The rows of several nodes are those of their blocks. -/
theorem rowsFromAll_blocksOfAll (options : LayoutOptions) (tableProps : Props)
    (nodes : List Node) :
    Block.rowsFromAll tableProps (blocksOfAll options nodes) =
      rowsFromAll options tableProps nodes := by
  cases nodes with
  | nil => rfl
  | cons node nodes =>
    rw [blocksOfAll, Block.rowsFromAll_append, rowsFromAll_blocks options tableProps node,
      rowsFromAll_blocksOfAll options _ nodes, rowsFromAll]

end

/-! ## Documents that differ in one node -/

/-- Two lists of nodes differ in one node, which is among them or within tables only. -/
inductive Replaces (old new : Node) : List Node → List Node → Prop
  | here (nodes : List Node) : Replaces old new (old :: nodes) (new :: nodes)
  | later {nodes nodes' : List Node} (node : Node) (h : Replaces old new nodes nodes') :
      Replaces old new (node :: nodes) (node :: nodes')
  | inside {children children' : List Node} {name : String} (props : Props) (nodes : List Node)
      (hname : Kind.ofName name = .table) (h : Replaces old new children children') :
      Replaces old new (.branch name props children :: nodes)
        (.branch name props children' :: nodes)

/-- Only tables change the props of the tables. -/
theorem snd_rowsFrom (options : LayoutOptions) (tableProps : Props) {node : Node}
    (h : Kind.ofName node.name ≠ .table) : (rowsFrom options tableProps node).2 = tableProps := by
  cases node with
  | leaf name props text =>
    rw [rowsFrom]
    cases hkind : Kind.ofName name with
    | table => exact absurd hkind h
    | row => rfl
    | cell => rfl
    | unknown => rfl
  | branch name props children =>
    rw [rowsFrom]
    cases hkind : Kind.ofName name with
    | table => exact absurd hkind h
    | row => rfl
    | cell => rfl
    | unknown => rfl

/-- A node that is no table can be replaced by another without a change to the rows beside it. -/
theorem Replaces.rowsFromAll {old new : Node} {nodes nodes' : List Node}
    (h : Replaces old new nodes nodes') (hold : Kind.ofName old.name ≠ .table)
    (hnew : Kind.ofName new.name ≠ .table) (options : LayoutOptions) (tableProps : Props) :
    ∃ props before after rest,
      rowsFromAll options tableProps nodes =
        (before ++ (rowsFrom options props old).1 ++ after, rest) ∧
      rowsFromAll options tableProps nodes' =
        (before ++ (rowsFrom options props new).1 ++ after, rest) := by
  induction h generalizing tableProps with
  | here nodes =>
    refine ⟨tableProps, [], (Node.rowsFromAll options tableProps nodes).1,
      (Node.rowsFromAll options tableProps nodes).2, ?_, ?_⟩
    · rw [Node.rowsFromAll]
      simp only [snd_rowsFrom options tableProps hold, List.nil_append]
    · rw [Node.rowsFromAll]
      simp only [snd_rowsFrom options tableProps hnew, List.nil_append]
  | later node h ih =>
    obtain ⟨props, before, after, rest, hrows, hrows'⟩ :=
      ih (Node.rowsFrom options tableProps node).2
    refine ⟨props, (Node.rowsFrom options tableProps node).1 ++ before, after, rest, ?_, ?_⟩
    · rw [Node.rowsFromAll]
      simp only [hrows, List.append_assoc]
    · rw [Node.rowsFromAll]
      simp only [hrows', List.append_assoc]
  | inside tableProps' nodes hname h ih =>
    obtain ⟨props, before, after, rest, hrows, hrows'⟩ :=
      ih (if tableProps'.isEmpty then tableProps else tableProps')
    refine ⟨props, before, after ++ (Node.rowsFromAll options rest nodes).1,
      (Node.rowsFromAll options rest nodes).2, ?_, ?_⟩
    · rw [Node.rowsFromAll, rowsFrom, hname]
      simp only [hrows, List.append_assoc]
    · rw [Node.rowsFromAll, rowsFrom, hname]
      simp only [hrows', List.append_assoc]

end Node

/-- The rows of a document are read off it in one pass. -/
theorem rows_eq (options : LayoutOptions) (nodes : List Node) :
    rows options nodes = (Node.rowsFromAll options ∅ nodes).1 := by
  show (Block.rowsFromAll ∅ (Node.blocksOfAll options nodes)).1 = _
  rw [Node.rowsFromAll_blocksOfAll]

/-- Laying a document out and reading the rows off the result is the same as reading the rows off
the document in one pass; in that pass no node but a table makes a difference to the rows beside
its own, and the props of a row are set on top of those of the table before it. -/
theorem rows_eq_onePass (options : LayoutOptions) (nodes : List Node) :
    rows options nodes = (Node.rowsFromAll options ∅ nodes).1 ∧
    (∀ old new nodes', Node.Replaces old new nodes nodes' →
      Kind.ofName old.name ≠ .table → Kind.ofName new.name ≠ .table →
      ∃ tableProps before after,
        rows options nodes = before ++ (Node.rowsFrom options tableProps old).1 ++ after ∧
        rows options nodes' = before ++ (Node.rowsFrom options tableProps new).1 ++ after) ∧
    (∀ tableProps own : Props, (tableProps.merge own).entries =
      Props.overlay own.entries tableProps.entries ++
        own.entries.filter fun entry => decide (entry.1 ∉ tableProps.entries.map Prod.fst)) := by
  refine ⟨rows_eq options nodes, ?_, Props.entries_merge⟩
  intro old new nodes' h hold hnew
  obtain ⟨tableProps, before, after, rest, hrows, hrows'⟩ :=
    h.rowsFromAll hold hnew options ∅
  exact ⟨tableProps, before, after, by rw [rows_eq, hrows], by rw [rows_eq, hrows']⟩

end Receipt
