import Receipt.Compile.Compiler
import Receipt.Proofs.Markup.Outline

/-!
# Compiling with the plain context

The plain context keeps no state, so compiling with it is a function from outlines to nodes,
`Outline.plainNodes`.  `compileWith_eq` says that a markup is compiled by that function from its
outline, and `Compiler.freshNodes_eq` that a new compiler does the same on its first run, unless it
is given an empty vocabulary.
-/

namespace Receipt

namespace Markup.Outline

variable {vocabulary : Vocabulary} {tag : OpenTag} {text : List Char}
  {children outlines : List Outline}

/-- The node that an element becomes if it is made as it is written. -/
def plainNode (vocabulary : Vocabulary) (outline : Outline) : Option Node :=
  ((build vocabulary Context.plain outline).run ()).1

/-- The nodes that elements become if each is made as it is written. -/
def plainNodes (vocabulary : Vocabulary) (outlines : List Outline) : List Node :=
  ((buildAll vocabulary Context.plain outlines).run ()).1

@[simp] theorem plainNodes_nil (vocabulary : Vocabulary) : plainNodes vocabulary [] = [] := rfl

theorem plainNodes_cons (vocabulary : Vocabulary) (outline : Outline) (outlines : List Outline) :
    plainNodes vocabulary (outline :: outlines) =
      (plainNode vocabulary outline).toList ++ plainNodes vocabulary outlines := rfl

/-- Whether a tag opens an element that becomes a node. -/
structure Keeps (vocabulary : Vocabulary) (tag : OpenTag) : Prop where
  name_ne_nil : tag.name ≠ []
  recognized : vocabulary.recognizes tag.nodeName = true

theorem keeps_iff : Keeps vocabulary tag ↔
    vocabulary.recognizes tag.nodeName = true ∧ tag.nodeName.isEmpty = false := by
  have hname : tag.nodeName.isEmpty = false ↔ tag.name ≠ [] := by
    rw [OpenTag.nodeName]
    simp
  rw [hname]
  exact ⟨fun h => ⟨h.recognized, h.name_ne_nil⟩, fun h => ⟨h.2, h.1⟩⟩

/-- An element as it is written. -/
def asNode (vocabulary : Vocabulary) : Outline → Node
  | leaf tag text => .leaf tag.nodeName tag.nodeProps (String.ofList text)
  | branch tag children => .branch tag.nodeName tag.nodeProps (plainNodes vocabulary children)

theorem name_asNode (outline : Outline) :
    (asNode vocabulary outline).name = outline.tag.nodeName := by
  cases outline <;> rfl

theorem plainNode_eq (outline : Outline) : plainNode vocabulary outline =
    if vocabulary.recognizes outline.tag.nodeName then
      if outline.tag.nodeName.isEmpty then none else some (asNode vocabulary outline)
    else none := by
  cases outline with
  | leaf tag text =>
    rw [plainNode, build]
    show _ = if vocabulary.recognizes tag.nodeName then _ else _
    split <;> rfl
  | branch tag children =>
    rw [plainNode, build]
    show _ = if vocabulary.recognizes tag.nodeName then _ else _
    split <;> rfl

/-- The elements that are kept become nodes. -/
theorem plainNode_eq_some_iff {outline : Outline} {node : Node} :
    plainNode vocabulary outline = some node ↔
      Keeps vocabulary outline.tag ∧ asNode vocabulary outline = node := by
  rw [plainNode_eq, keeps_iff]
  split
  · split <;> simp_all
  · simp_all

theorem plainNode_leaf (h : Keeps vocabulary tag) (text : List Char) :
    plainNode vocabulary (leaf tag text) =
      some (.leaf tag.nodeName tag.nodeProps (String.ofList text)) :=
  plainNode_eq_some_iff.mpr ⟨h, rfl⟩

theorem plainNode_branch (h : Keeps vocabulary tag) (children : List Outline) :
    plainNode vocabulary (branch tag children) =
      some (.branch tag.nodeName tag.nodeProps (plainNodes vocabulary children)) :=
  plainNode_eq_some_iff.mpr ⟨h, rfl⟩

end Markup.Outline

open Markup (Outline)

/-- Trimming makes no difference to the nodes of a markup. -/
theorem compileWith_eq (vocabulary : Vocabulary) (markup : String) :
    compileWith vocabulary markup =
      Outline.plainNodes vocabulary (Outline.ofText markup.toList) := by
  rw [compileWith, Outline.ofText_trim]
  rfl

/-- The nodes that a new compiler for a markup gives on its first run. -/
def Compiler.freshNodes (vocabulary : Vocabulary) (markup : String) :
    Except RenderError (List Node) :=
  (Compiler.withVocabulary markup vocabulary).map fun compiler =>
    (compiler.run .own Context.plain ()).tree.nodes

theorem Compiler.freshNodes_eq (vocabulary : Vocabulary) (markup : String) :
    freshNodes vocabulary markup =
      if vocabulary.isEmpty then .error .emptyVocabulary
      else .ok (compileWith vocabulary markup) := by
  rw [freshNodes, withVocabulary]
  split
  · rfl
  · simp only [Except.map, run, ofMarkup, compileAnew, outlines, String.toList_ofList]
    rfl

end Receipt
