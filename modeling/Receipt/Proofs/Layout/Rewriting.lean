import Receipt.Proofs.Layout.Alignment

/-!
# Documents that differ in many places

Some nodes of a document are replaced by others, within tables, rows and cells at any depth.  The
layout of a node depends on the nodes in it only through their layout, so nothing changes in the
whole if no replacement changes anything by itself.

* `Node.Rewrites`: two documents of which the second has other nodes in some places.
* `Node.Rewrites.blocksOfAll_eq`: they are laid out in the same way if this holds for each node that
  is replaced and the one in its place.
* `Node.Appearance`: what a document shows of a node: its rows, and in a row its columns.
* `Node.Rewrites.appearanceOfAll_eq`: they have the same rows if each node looks like the one that
  it replaces, even where the blocks of the two are not the same.
-/

namespace Receipt

namespace Node

/-- Some nodes of a document are replaced, each as `step` says. -/
inductive Rewrites (step : Node → Node → Prop) : List Node → List Node → Prop
  | nil : Rewrites step [] []
  | keep (node : Node) {nodes nodes' : List Node} (h : Rewrites step nodes nodes') :
      Rewrites step (node :: nodes) (node :: nodes')
  | replace {node node' : Node} {nodes nodes' : List Node} (hstep : step node node')
      (h : Rewrites step nodes nodes') : Rewrites step (node :: nodes) (node' :: nodes')
  | inside (name : String) (props : Props) {children children' nodes nodes' : List Node}
      (hchildren : Rewrites step children children') (h : Rewrites step nodes nodes') :
      Rewrites step (branch name props children :: nodes) (branch name props children' :: nodes')

variable {options : LayoutOptions} {children children' : List Node}

theorem Rewrites.isEmpty_eq {step : Node → Node → Prop} (h : Rewrites step children children') :
    children'.isEmpty = children.isEmpty := by
  cases h with
  | nil => rfl
  | keep => rfl
  | replace => rfl
  | inside => rfl

/-! ## The same layout -/

/-- The blocks of a node depend on the nodes in it through their blocks. -/
theorem blocks_branch_congr (hempty : children'.isEmpty = children.isEmpty)
    (hblocks : blocksOfAll options children' = blocksOfAll options children) (name : String)
    (props : Props) :
    blocks options (branch name props children') = blocks options (branch name props children) := by
  rw [blocks, blocks, hempty, hblocks]

/-- A document is laid out as before if each new node has the blocks of the one that it replaces. -/
theorem Rewrites.blocksOfAll_eq {step : Node → Node → Prop} {nodes nodes' : List Node}
    (h : Rewrites step nodes nodes')
    (hstep : ∀ node node', step node node' → blocks options node' = blocks options node) :
    blocksOfAll options nodes' = blocksOfAll options nodes := by
  induction h with
  | nil => rfl
  | keep node h ih => rw [blocksOfAll, blocksOfAll, ih]
  | replace hnode h ih => rw [blocksOfAll, blocksOfAll, hstep _ _ hnode, ih]
  | inside name props hchildren h ihChildren ih =>
    rw [blocksOfAll, blocksOfAll, blocks_branch_congr hchildren.isEmpty_eq ihChildren, ih]

end Node

/-! ## What a row reads of its columns -/

/-- What a row reads of a column: its text and its width. -/
def Block.face (options : LayoutOptions) (column : Block) : String × ColumnWidth :=
  (column.text, column.width options)

section Columns

variable {options : LayoutOptions} {columns columns' : List Block}

/-- What depends on the faces of columns is the same for columns with the same faces. -/
theorem map_eq_of_map_face_eq {α : Type} {f : Block → α}
    (hf : ∀ column column', column.face options = column'.face options → f column = f column')
    (h : columns.map (Block.face options) = columns'.map (Block.face options)) :
    columns.map f = columns'.map f := by
  induction columns generalizing columns' with
  | nil =>
    rw [List.map_eq_nil_iff.mp h.symm]
  | cons column columns ih =>
    cases columns' with
    | nil => exact absurd h (List.cons_ne_nil _ _)
    | cons column' columns' =>
      obtain ⟨hhead, htail⟩ := List.cons.inj h
      rw [List.map_cons, List.map_cons, hf _ _ hhead, ih htail]

theorem Block.lines_eq_of_face_eq {column column' : Block}
    (h : column.face options = column'.face options) : column.lines = column'.lines := by
  have htext : column.text = column'.text := congrArg Prod.fst h
  rw [lines, lines, htext]

theorem Block.text_lineCell_eq_of_face_eq {column column' : Block}
    (h : column.face options = column'.face options) (r : Nat) :
    (column.lineCell options column.lines[r]?).text =
      (column'.lineCell options column'.lines[r]?).text := by
  have hwidth : column.width options = column'.width options := congrArg Prod.snd h
  rw [width, width] at hwidth
  rw [lineCell, lineCell, lines_eq_of_face_eq h, hwidth]

theorem lineCount_congr
    (h : columns.map (Block.face options) = columns'.map (Block.face options)) :
    lineCount columns = lineCount columns' := by
  rw [lineCount, lineCount, map_eq_of_map_face_eq (fun _ _ => Block.lines_eq_of_face_eq) h]

theorem map_intersperse {α β : Type} (f : α → β) (sep : α) (xs : List α) :
    (xs.intersperse sep).map f = (xs.map f).intersperse (f sep) := by
  induction xs with
  | nil => rfl
  | cons x xs ih =>
    cases xs with
    | nil => rfl
    | cons y xs =>
      rw [List.map_cons] at ih
      rw [List.intersperse_cons_cons, List.map_cons, List.map_cons, ih, List.map_cons,
        List.map_cons, List.intersperse_cons_cons]

/-- Columns with the same faces make the same lines. -/
theorem lineTexts_congr
    (h : columns.map (Block.face options) = columns'.map (Block.face options)) :
    lineTexts options columns = lineTexts options columns' := by
  rw [lineTexts_eq, lineTexts_eq, lineCount_congr h]
  apply List.map_congr_left
  intro r _
  have hcells := map_eq_of_map_face_eq
    (fun column column' hface => Block.text_lineCell_eq_of_face_eq hface r) h
  rw [lineParts, lineParts, map_intersperse, map_intersperse, lineCells, lineCells, List.map_map,
    List.map_map]
  exact congrArg (fun texts => String.join (texts.intersperse options.border.text)) hcells

/-- In another row, rows of lines show nothing but where they are. -/
theorem map_face_synchronize (options : LayoutOptions) (props : Props) (columns : List Block) :
    (synchronize options props columns).map (Block.face options) =
      List.replicate (lineCount columns) ("", ColumnWidth.ofProps props options.colWidth) := by
  rw [synchronize_eq, List.map_map, List.eq_replicate_iff]
  refine ⟨by rw [List.length_map, List.length_range], fun face hface => ?_⟩
  obtain ⟨r, -, rfl⟩ := List.mem_map.mp hface
  rfl

end Columns

namespace Node

/-! ## The same rows -/

/-- What a document shows of some of its nodes. -/
@[ext] structure Appearance where
  /-- Their rows, where the props of the tables before them are given, and the table props that hold
  after them. -/
  rows : Props → List Row × Props
  /-- What a row reads of them if they stand in it. -/
  columns : List (String × ColumnWidth)

/-- What a document shows of a node. -/
def appearance (options : LayoutOptions) (node : Node) : Appearance where
  rows := fun tableProps => rowsFrom options tableProps node
  columns := (blocks options node).map (Block.face options)

/-- What a document shows of several nodes. -/
def appearanceOfAll (options : LayoutOptions) (nodes : List Node) : Appearance where
  rows := fun tableProps => rowsFromAll options tableProps nodes
  columns := (blocksOfAll options nodes).map (Block.face options)

variable {options : LayoutOptions}

theorem appearanceOfAll_cons_congr {node node' : Node} {nodes nodes' : List Node}
    (hnode : appearance options node' = appearance options node)
    (hnodes : appearanceOfAll options nodes' = appearanceOfAll options nodes) :
    appearanceOfAll options (node' :: nodes') = appearanceOfAll options (node :: nodes) := by
  have hrow := congrFun (congrArg Appearance.rows hnode)
  have hrows := congrFun (congrArg Appearance.rows hnodes)
  have hcolumn := congrArg Appearance.columns hnode
  have hcolumns := congrArg Appearance.columns hnodes
  simp only [appearance, appearanceOfAll] at hrow hrows hcolumn hcolumns
  ext1
  · funext tableProps
    simp only [appearanceOfAll, rowsFromAll, hrow, hrows]
  · simp only [appearanceOfAll, blocksOfAll, List.map_append, hcolumn, hcolumns]

/-- What a row reads of a node depends on the nodes in it through what a document shows of them. -/
theorem map_face_blocks_branch_congr {children children' : List Node}
    (hempty : children'.isEmpty = children.isEmpty)
    (hrows : ∀ tableProps,
      rowsFromAll options tableProps children' = rowsFromAll options tableProps children)
    (hcolumns : (blocksOfAll options children').map (Block.face options) =
      (blocksOfAll options children).map (Block.face options))
    (name : String) (props : Props) :
    (blocks options (branch name props children')).map (Block.face options) =
      (blocks options (branch name props children)).map (Block.face options) := by
  rw [blocks, blocks, hempty]
  cases Kind.ofName name with
  | table =>
    -- the rows of a table in a row are not read
    cases children.isEmpty with
    | true => rfl
    | false => rfl
  | row =>
    cases children.isEmpty with
    | true => rfl
    | false =>
      show (synchronize _ _ _).map _ = (synchronize _ _ _).map _
      rw [map_face_synchronize, map_face_synchronize, lineCount_congr hcolumns]
  | cell =>
    rw [Block.rowsOfAll, Block.rowsOfAll, rowsFromAll_blocksOfAll, rowsFromAll_blocksOfAll, hrows]
  | unknown => rfl

/-- What a document shows of a node depends on the nodes in it through what it shows of them. -/
theorem appearance_branch_congr {children children' : List Node}
    (hempty : children'.isEmpty = children.isEmpty)
    (hchildren : appearanceOfAll options children' = appearanceOfAll options children)
    (name : String) (props : Props) :
    appearance options (branch name props children') =
      appearance options (branch name props children) := by
  have hrows := congrFun (congrArg Appearance.rows hchildren)
  have hcolumns := congrArg Appearance.columns hchildren
  simp only [appearanceOfAll] at hrows hcolumns
  ext1
  · funext tableProps
    simp only [appearance, rowsFrom, hrows, lineTexts_congr hcolumns]
  · exact map_face_blocks_branch_congr hempty hrows hcolumns name props

/-- A document shows the same as before if each new node looks like the one that it replaces. -/
theorem Rewrites.appearanceOfAll_eq {step : Node → Node → Prop} {nodes nodes' : List Node}
    (h : Rewrites step nodes nodes')
    (hstep : ∀ node node', step node node' → appearance options node' = appearance options node) :
    appearanceOfAll options nodes' = appearanceOfAll options nodes := by
  induction h with
  | nil => rfl
  | keep node h ih => exact appearanceOfAll_cons_congr rfl ih
  | replace hnode h ih => exact appearanceOfAll_cons_congr (hstep _ _ hnode) ih
  | inside name props hchildren h ihChildren ih =>
    exact appearanceOfAll_cons_congr
      (appearance_branch_congr hchildren.isEmpty_eq ihChildren name props) ih

/-- Documents that show the same have the same rows. -/
theorem rows_eq_of_appearanceOfAll_eq {nodes nodes' : List Node}
    (h : appearanceOfAll options nodes' = appearanceOfAll options nodes) :
    Receipt.rows options nodes' = Receipt.rows options nodes := by
  have hrows := congrFun (congrArg Appearance.rows h) ∅
  simp only [appearanceOfAll] at hrows
  rw [rows_eq, rows_eq, hrows]

end Node

end Receipt
