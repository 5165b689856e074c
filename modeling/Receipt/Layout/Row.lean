import Receipt.Layout.Block
import Receipt.Tree

/-!
Rows: the lines of a laid-out document, each with the props that hold for it. The props of a table
hold for every row after them, until another table sets its own; the props of a row are set on top
of those, and hold for that row alone.
-/

namespace Receipt

/-- One line to print. -/
structure Row where
  text : String
  props : Props := ∅
deriving DecidableEq

namespace Block

mutual

/-- The rows of a block, where the props of the tables before it are `tableProps`; and the table
props that hold after it. -/
def rowsFrom (tableProps : Props) : Block → List Row × Props
  | ⟨name, props, _, children⟩ =>
    match Kind.ofName name with
    | .row => ([⟨String.join (children.map (·.text)), tableProps.merge props⟩], tableProps)
    | .table => rowsFromAll (if props.isEmpty then tableProps else props) children
    | _ => rowsFromAll tableProps children

/-- The rows of several blocks, one after the other. -/
def rowsFromAll (tableProps : Props) : List Block → List Row × Props
  | [] => ([], tableProps)
  | block :: blocks =>
    let (rows, tableProps) := rowsFrom tableProps block
    let (moreRows, tableProps) := rowsFromAll tableProps blocks
    (rows ++ moreRows, tableProps)

end

/-- The rows of a block. -/
def rows (block : Block) : List Row :=
  (block.rowsFrom ∅).1

/-- The rows of several blocks. -/
def rowsOfAll (blocks : List Block) : List Row :=
  (rowsFromAll ∅ blocks).1

end Block

end Receipt
