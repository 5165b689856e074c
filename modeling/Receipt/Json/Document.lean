import Receipt.Json.Record
import Receipt.Tree

/-!
Documents in JSON. A node is a record of its type, its props and its children; the children are a
text or an array of nodes. Props and children may be missing, and then there are none.
-/

namespace Receipt.Json

mutual

/-- A node as an object. -/
def ofNode : Node → Json
  | .leaf name props text =>
    object [("type", string name), ("props", ofProps props), ("children", string text)]
  | .branch name props children =>
    object [("type", string name), ("props", ofProps props), ("children", array (ofNodes children))]

/-- Nodes as items of an array. -/
def ofNodes : List Node → List Json
  | [] => []
  | node :: nodes => ofNode node :: ofNodes nodes

end

/-- What a node holds. -/
def ofContent : Content → Json
  | .text text => string text
  | .nodes nodes => array (ofNodes nodes)

/-- A document as an array. -/
def ofDocument (nodes : List Node) : Json :=
  array (ofNodes nodes)

/-- The names of a node's fields. -/
def nodeFields : List String := ["type", "props", "children"]

mutual

/-- The node that is written as an object or as an array. -/
def node? : Json → Option Node
  | object members => do
    let fields ← fields? true nodeFields (object members)
    let content ← contentAmong? members
    match fields with
    | [some (string name), props, _] =>
      (orDefault ∅ props? props).map fun props => Node.ofContent name props content
    | _ => none
  | array [string name] => some (.branch name ∅ [])
  | array [string name, props] => (props? props).map fun props => .branch name props []
  | array [string name, props, content] => do
    let props ← props? props
    let content ← content? content
    pure (Node.ofContent name props content)
  | _ => none

/-- What the first member for a node's children holds. -/
def contentAmong? : List (String × Json) → Option Content
  | [] => some (.nodes [])
  | (name, json) :: members => if name = "children" then content? json else contentAmong? members

/-- A text, or nodes. -/
def content? : Json → Option Content
  | string text => some (.text text)
  | array items => (nodes? items).map Content.nodes
  | _ => none

/-- The nodes that the items of an array are written for. -/
def nodes? : List Json → Option (List Node)
  | [] => some []
  | item :: items => do
    let node ← node? item
    let nodes ← nodes? items
    pure (node :: nodes)

end

/-- The document that an array is written for. -/
def document? : Json → Option (List Node)
  | array items => nodes? items
  | _ => none

end Receipt.Json
