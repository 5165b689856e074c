import Receipt.Event
import Receipt.Layout.Passes
import Receipt.Layout.Row
import Receipt.Layout.Width

/-!
Laying out a document. Texts are cut to the width of their column, and each row of the document
becomes as many rows of lines as its tallest cell needs, in which all columns stay in step. What is
nested in a cell is laid out first and its rows become the text of the cell.
-/

namespace Receipt

/-! ## Cells -/

/-- The lines of a nested row in a column. In a column of fixed width the row loses the blanks at
its end before it is cut. -/
def ColumnWidth.wrapRow : ColumnWidth → List Char → List (List Char)
  | .auto, line => [line]
  | .fixed width, line => (ColumnWidth.fixed width).wrap (Text.trimEnd line)

/-- A cell's block, with the given lines as its text. -/
def Block.ofLines (props : Props) (lines : List (List Char)) : Block where
  name := "td"
  props := props
  text := String.ofList (Text.joinLines lines)

/-- The block of a cell that holds text. -/
def cellOfText (options : LayoutOptions) (props : Props) (text : String) : Block :=
  Block.ofLines props ((ColumnWidth.ofProps props options.colWidth).wrap text.toList)

/-- The props of a cell that holds nodes: unless it has a width, it is as wide as they are. -/
def nestingProps (props : Props) : Props :=
  if props.contains ColumnWidth.key then props else props.set ColumnWidth.key "auto"

/-- The block of a cell in which the given rows are nested. -/
def cellOfRows (options : LayoutOptions) (props : Props) (rows : List Row) : Block :=
  let width := ColumnWidth.ofProps (nestingProps props) options.colWidth
  Block.ofLines (nestingProps props) (rows.flatMap fun row => width.wrapRow row.text.toList)

/-! ## Rows -/

/-- The lines that a column has to offer. Empty text offers none. -/
def Block.lines (column : Block) : List (List Char) :=
  if column.text.isEmpty then [] else Text.splitLines column.text.toList

/-- A column's cell in one row of lines: the next line, if there is one, padded to the width. -/
def Block.lineCell (options : LayoutOptions) (column : Block) (line : Option (List Char)) :
    Block :=
  { column.withoutChildren with
    text := String.ofList
      ((ColumnWidth.ofProps column.props options.colWidth).pad (line.getD [])) }

/-- The blank cell between two columns. -/
def LayoutOptions.border (options : LayoutOptions) : Block where
  name := "td"
  text := String.ofList (Text.padRight options.borderWidth.toNat [])

/-- The rows of lines of one row of the document. -/
def synchronize (options : LayoutOptions) (props : Props) (columns : List Block) : List Block :=
  (passes (columns.map Block.lines)).map fun pass =>
    { name := "tr"
      props
      children := (List.zipWith (Block.lineCell options) columns pass).intersperse options.border }

/-- The rows of lines of a row that holds text: the text stands in its only cell. -/
def rowsOfText (options : LayoutOptions) (props : Props) (text : String) : List Block :=
  synchronize options props [cellOfText options ∅ text]

/-- The block of a table that holds text: the text stands in the only cell of its only row. -/
def tableOfText (options : LayoutOptions) (props : Props) (text : String) : Block where
  name := "table"
  props := props
  children := rowsOfText options ∅ text

/-! ## Documents -/

namespace Node

mutual

/-- The blocks of a node. -/
def blocks (options : LayoutOptions) : Node → List Block
  | leaf name props text =>
    match Kind.ofName name with
    | .table => [tableOfText options props text]
    | .row => rowsOfText options props text
    | .cell => [cellOfText options props text]
    | .unknown => []
  | branch name props children =>
    match Kind.ofName name with
    | .table =>
      if children.isEmpty then [tableOfText options props ""]
      else [{ name, props, children := blocksOfAll options children }]
    | .row =>
      if children.isEmpty then rowsOfText options props ""
      else synchronize options props (blocksOfAll options children)
    | .cell => [cellOfRows options props (Block.rowsOfAll (blocksOfAll options children))]
    | .unknown => []

/-- The blocks of several nodes, one after the other. -/
def blocksOfAll (options : LayoutOptions) : List Node → List Block
  | [] => []
  | node :: nodes => blocks options node ++ blocksOfAll options nodes

end

end Node

/-- Lays a document out. -/
def layout (options : LayoutOptions) (nodes : List Node) : Block where
  name := "root"
  children := Node.blocksOfAll options nodes

/-- The rows of a document. -/
def rows (options : LayoutOptions) (nodes : List Node) : List Row :=
  (layout options nodes).rows

/-! ## Reports -/

/-- The report on a width that is asked for and cannot be used. -/
def widthEvents (options : LayoutOptions) (props : Props) : List Event :=
  match props.get? ColumnWidth.key with
  | none => []
  | some value =>
    if (ColumnWidth.read? value).isSome then [] else [.widthUnusable value options.colWidth]

namespace Node

mutual

/-- The reports of laying a node out. -/
def layoutEvents (options : LayoutOptions) : Node → List Event
  | leaf name props _ =>
    match Kind.ofName name with
    | .cell => widthEvents options props
    | .unknown => [.nodeIgnored name]
    | _ => []
  | branch name props children =>
    match Kind.ofName name with
    | .cell => layoutEventsOfAll options children ++ widthEvents options props
    | .unknown => [.nodeIgnored name]
    | _ => layoutEventsOfAll options children

/-- The reports of laying several nodes out. -/
def layoutEventsOfAll (options : LayoutOptions) : List Node → List Event
  | [] => []
  | node :: nodes => layoutEvents options node ++ layoutEventsOfAll options nodes

end

end Node

end Receipt
