import Receipt.Props

/-!
Blocks: the result of laying a document out, before its lines are read off. A row's block holds
its cells, and a cell's block holds the text that stands in the cell.
-/

namespace Receipt

/-- A part of a laid-out document. -/
structure Block where
  name : String
  props : Props := ∅
  text : String := ""
  children : List Block := []
deriving Inhabited

namespace Block

mutual

/-- Whether two blocks are equal up to the order of their props. -/
def same : Block → Block → Bool
  | ⟨name, props, text, children⟩, ⟨name', props', text', children'⟩ =>
    name == name' && props.same props' && text == text' && sameAll children children'

/-- Whether two lists of blocks are equal up to the order of props. -/
def sameAll : List Block → List Block → Bool
  | [], [] => true
  | block :: blocks, block' :: blocks' => same block block' && sameAll blocks blocks'
  | _, _ => false

end

/-- The block with another one after its children. -/
def add (block child : Block) : Block :=
  { block with children := block.children ++ [child] }

/-- The block without its children. -/
def withoutChildren (block : Block) : Block :=
  { block with children := [] }

/-- The texts of the children, in order. -/
def childTexts (block : Block) : List String :=
  block.children.map (·.text)

end Block

end Receipt
