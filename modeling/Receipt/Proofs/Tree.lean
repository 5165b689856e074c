import Receipt.Tree

/-!
# What a document holds

The nodes of a document in the order in which their tags are opened and in the order in which they
are closed, its texts in the order in which they are read, and what a function makes of the nodes
from the bottom up.
-/

namespace Receipt.Node

mutual

/-- The texts of a node, in order. -/
def leafTexts : Node → List String
  | leaf _ _ text => [text]
  | branch _ _ children => leafTextsOfAll children

/-- The texts of several nodes, in order. -/
def leafTextsOfAll : List Node → List String
  | [] => []
  | node :: nodes => leafTexts node ++ leafTextsOfAll nodes

end

mutual

/-- The names and props of a node and of the nodes inside it, each node before those inside it. -/
def tags : Node → List (String × Props)
  | leaf name props _ => [(name, props)]
  | branch name props children => (name, props) :: tagsOfAll children

/-- The names and props of several nodes and of the nodes inside them. -/
def tagsOfAll : List Node → List (String × Props)
  | [] => []
  | node :: nodes => tags node ++ tagsOfAll nodes

end

mutual

/-- The names and props of a node and of the nodes inside it, each node after those inside it. -/
def tagsBottomUp : Node → List (String × Props)
  | leaf name props _ => [(name, props)]
  | branch name props children => tagsBottomUpOfAll children ++ [(name, props)]

/-- The names and props of several nodes and of the nodes inside them, each node after those inside
it. -/
def tagsBottomUpOfAll : List Node → List (String × Props)
  | [] => []
  | node :: nodes => tagsBottomUp node ++ tagsBottomUpOfAll nodes

end

mutual

/-- The node that a function makes of a node, when it has made those inside it. -/
def fold (f : String → Props → Content → Option Node) : Node → Option Node
  | leaf name props text => f name props (.text text)
  | branch name props children => f name props (.nodes (foldAll f children))

/-- The nodes that a function makes of several nodes. -/
def foldAll (f : String → Props → Content → Option Node) : List Node → List Node
  | [] => []
  | node :: nodes => (fold f node).toList ++ foldAll f nodes

end

end Receipt.Node
