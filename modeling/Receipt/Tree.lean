import Receipt.Props

/-!
Document trees: what markup means before it is laid out. A node has a name and props, and holds
either a text or nodes.
-/

namespace Receipt

/-- A node of a document. -/
inductive Node where
  /-- A node that holds text. -/
  | leaf (name : String) (props : Props) (text : String)
  /-- A node that holds nodes, perhaps none. -/
  | branch (name : String) (props : Props) (children : List Node)
deriving Inhabited

/-- What a node holds. -/
inductive Content where
  | text (text : String)
  | nodes (nodes : List Node)
deriving Inhabited

namespace Node

/-- The node with the given name, props and content. -/
def ofContent (name : String) (props : Props) : Content → Node
  | .text text => leaf name props text
  | .nodes nodes => branch name props nodes

/-- The name of a node. -/
def name : Node → String
  | leaf name _ _ => name
  | branch name _ _ => name

/-- The props of a node. -/
def props : Node → Props
  | leaf _ props _ => props
  | branch _ props _ => props

/-- What a node holds. -/
def content : Node → Content
  | leaf _ _ text => .text text
  | branch _ _ children => .nodes children

mutual

/-- Whether two nodes are equal up to the order of their props. -/
def same : Node → Node → Bool
  | leaf name props text, leaf name' props' text' =>
    name == name' && props.same props' && text == text'
  | branch name props children, branch name' props' children' =>
    name == name' && props.same props' && sameAll children children'
  | _, _ => false

/-- Whether two lists of nodes are equal up to the order of props. -/
def sameAll : List Node → List Node → Bool
  | [], [] => true
  | node :: nodes, node' :: nodes' => same node node' && sameAll nodes nodes'
  | _, _ => false

end

end Node

/-- What a node is to the layout. -/
inductive Kind where
  | table
  | row
  | cell
  /-- Any other node; the layout leaves it out. -/
  | unknown
deriving DecidableEq

/-- The kind of the nodes of a name. -/
def Kind.ofName (name : String) : Kind :=
  if name = "table" then .table
  else if name = "tr" then .row
  else if name = "td" then .cell
  else .unknown

end Receipt
