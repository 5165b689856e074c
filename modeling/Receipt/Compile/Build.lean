import Receipt.Compile.Context
import Receipt.Event
import Receipt.Markup.Attributes
import Receipt.Markup.Outline
import Receipt.Vocabulary

/-!
From outlines to nodes. The elements of a text are taken from left to right, each after everything
inside it.
-/

namespace Receipt.Markup

/-- The name of the node that a tag opens. -/
def OpenTag.nodeName (tag : OpenTag) : String :=
  String.ofList tag.name

/-- The props of the node that a tag opens. -/
def OpenTag.nodeProps (tag : OpenTag) : Props :=
  readProps tag.attrs

namespace Outline

variable {σ : Type}

mutual

/-- The node that an element becomes. -/
def build (vocabulary : Vocabulary) (context : Context σ) : Outline → StateM σ (Option Node)
  | leaf tag text =>
    if vocabulary.recognizes tag.nodeName then
      context.convert tag.nodeName tag.nodeProps (.text (String.ofList text))
    else pure none
  | branch tag children =>
    if vocabulary.recognizes tag.nodeName then do
      let nodes ← buildAll vocabulary context children
      context.convert tag.nodeName tag.nodeProps (.nodes nodes)
    else pure none

/-- The nodes that elements become. -/
def buildAll (vocabulary : Vocabulary) (context : Context σ) :
    List Outline → StateM σ (List Node)
  | [] => pure []
  | outline :: outlines => do
    let node ← build vocabulary context outline
    let nodes ← buildAll vocabulary context outlines
    pure (node.toList ++ nodes)

end

mutual

/-- The reports on elements that are left out. -/
def events (vocabulary : Vocabulary) : Outline → List Event
  | leaf tag _ =>
    if vocabulary.recognizes tag.nodeName then []
    else [.tagDropped tag.nodeName]
  | branch tag children =>
    if vocabulary.recognizes tag.nodeName then allEvents vocabulary children
    else [.tagDropped tag.nodeName]

/-- The reports on elements that are left out, from left to right. -/
def allEvents (vocabulary : Vocabulary) : List Outline → List Event
  | [] => []
  | outline :: outlines => events vocabulary outline ++ allEvents vocabulary outlines

end

end Outline

end Receipt.Markup
