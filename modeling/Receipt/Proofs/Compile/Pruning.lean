import Receipt.Proofs.Compile.Plain
import Receipt.Proofs.Tree

/-!
# Smaller vocabularies

Which elements a markup has does not depend on the vocabulary.  The vocabulary only says which of
them become nodes, so with a smaller one the same document is compiled, less the nodes that are not
recognized and what is inside them.

* `Node.pruned`, `Node.prunedAll`: what a vocabulary leaves of nodes.
* `Node.recognizes_of_mem_tags`: all that is left is recognized.
* `Outline.plainNodes_eq_prunedAll`: the nodes for the smaller vocabulary.
* `Compiler.freshNodes_eq_prunedAll`: the same of new compilers.
-/

namespace Receipt

theorem Vocabulary.isEmpty_eq_false_iff {vocabulary : Vocabulary} :
    vocabulary.isEmpty = false ↔ ∃ name, vocabulary.recognizes name = true := by
  rw [isEmpty, List.isEmpty_eq_false_iff_exists_mem]
  simp only [recognizes, List.contains_iff_mem]

namespace Node

mutual

/-- What a vocabulary leaves of a node: nothing if the node is not recognized, and else the node
with what is left of those inside it. -/
def pruned (vocabulary : Vocabulary) : Node → Option Node
  | leaf name props text =>
    if vocabulary.recognizes name then some (leaf name props text) else none
  | branch name props children =>
    if vocabulary.recognizes name then
      some (branch name props (prunedAll vocabulary children))
    else none

/-- What a vocabulary leaves of several nodes. -/
def prunedAll (vocabulary : Vocabulary) : List Node → List Node
  | [] => []
  | node :: nodes => (pruned vocabulary node).toList ++ prunedAll vocabulary nodes

end

variable {vocabulary : Vocabulary}

theorem prunedAll_append (vocabulary : Vocabulary) (first second : List Node) :
    prunedAll vocabulary (first ++ second) =
      prunedAll vocabulary first ++ prunedAll vocabulary second := by
  induction first with
  | nil => rfl
  | cons node first ih => rw [List.cons_append, prunedAll, prunedAll, ih, List.append_assoc]

theorem prunedAll_toList (vocabulary : Vocabulary) (node : Option Node) :
    prunedAll vocabulary node.toList = (node.bind (pruned vocabulary)).toList := by
  cases node with
  | none => rfl
  | some node => exact List.append_nil _

mutual

/-- The names in what is left of a node are recognized. -/
theorem recognizes_of_mem_tags (node : Node) :
    ∀ left ∈ pruned vocabulary node, ∀ tag ∈ tags left,
      vocabulary.recognizes tag.1 = true := by
  cases node with
  | leaf name props text =>
    rw [pruned]
    split
    · rename_i hname
      rintro _ ⟨⟩
      rw [tags]
      exact List.forall_mem_singleton.mpr hname
    · rintro _ ⟨⟩
  | branch name props children =>
    rw [pruned]
    split
    · rename_i hname
      rintro _ ⟨⟩
      rw [tags]
      exact List.forall_mem_cons.mpr ⟨hname, recognizes_of_mem_tagsOfAll children⟩
    · rintro _ ⟨⟩

/-- The names in what is left of several nodes are recognized. -/
theorem recognizes_of_mem_tagsOfAll (nodes : List Node) :
    ∀ tag ∈ tagsOfAll (prunedAll vocabulary nodes), vocabulary.recognizes tag.1 = true := by
  cases nodes with
  | nil => exact fun tag htag => absurd htag List.not_mem_nil
  | cons node nodes =>
    have hrest := recognizes_of_mem_tagsOfAll nodes
    rw [prunedAll]
    cases hleft : pruned vocabulary node with
    | none => exact hrest
    | some left =>
      have hfirst := recognizes_of_mem_tags node left hleft
      exact List.forall_mem_append.mpr ⟨hfirst, hrest⟩

end

end Node

/-! ## Compiling -/

namespace Markup.Outline

variable {small large : Vocabulary}

/-- If a vocabulary leaves of an element's node what it makes of the element, it does so also where
the element has become no node. -/
theorem plainNode_eq_bind_pruned (h : ∀ name, small.recognizes name → large.recognizes name)
    {outline : Outline}
    (hnode : Node.pruned small (asNode large outline) =
      if small.recognizes outline.tag.nodeName then some (asNode small outline) else none) :
    plainNode small outline = (plainNode large outline).bind (Node.pruned small) := by
  rw [plainNode_eq, plainNode_eq]
  by_cases hsmall : small.recognizes outline.tag.nodeName = true
  · rw [if_pos hsmall, if_pos (h _ hsmall)]
    split
    · rfl
    · rw [Option.bind_some, hnode, if_pos hsmall]
  · rw [if_neg hsmall]
    split
    · split
      · rfl
      · rw [Option.bind_some, hnode, if_neg hsmall]
    · rfl

mutual

/-- What the smaller vocabulary leaves of an element's node is what it makes of the element. -/
theorem pruned_asNode (h : ∀ name, small.recognizes name → large.recognizes name)
    (outline : Outline) :
    Node.pruned small (asNode large outline) =
      if small.recognizes outline.tag.nodeName then some (asNode small outline) else none := by
  cases outline with
  | leaf tag text => rfl
  | branch tag children =>
    rw [asNode, asNode, Node.pruned, plainNodes_eq_prunedAll h children]
    rfl

/-- With the smaller vocabulary elements become what that leaves of their nodes. -/
theorem plainNodes_eq_prunedAll (h : ∀ name, small.recognizes name → large.recognizes name)
    (outlines : List Outline) :
    plainNodes small outlines = Node.prunedAll small (plainNodes large outlines) := by
  cases outlines with
  | nil => rfl
  | cons outline outlines =>
    rw [plainNodes_cons, plainNodes_cons, Node.prunedAll_append, Node.prunedAll_toList,
      plainNode_eq_bind_pruned h (pruned_asNode h outline), plainNodes_eq_prunedAll h outlines]

end

end Markup.Outline

/-- The document for a vocabulary is what it leaves of the document for a larger one. -/
theorem compileWith_eq_prunedAll {small large : Vocabulary}
    (h : ∀ name, small.recognizes name → large.recognizes name) (markup : String) :
    compileWith small markup = Node.prunedAll small (compileWith large markup) := by
  rw [compileWith_eq, compileWith_eq]
  exact Markup.Outline.plainNodes_eq_prunedAll h _

/-- All nodes of a document are recognized. -/
theorem recognizes_of_mem_tags_compileWith (vocabulary : Vocabulary) (markup : String) :
    ∀ tag ∈ Node.tagsOfAll (compileWith vocabulary markup),
      vocabulary.recognizes tag.1 = true := by
  rw [compileWith_eq_prunedAll (fun _ => id)]
  exact Node.recognizes_of_mem_tagsOfAll _

namespace Compiler

/-- New compilers for one markup, with two vocabularies of which the larger recognizes all that the
smaller does, and the smaller recognizes something.  Both compile the markup.  The document for the
smaller vocabulary is what that leaves of the other one: the nodes that are not recognized are
missing at every depth, with all that is inside them, and a node that holds nodes still holds those
that are left, perhaps none.  All nodes of a document are recognized. -/
theorem freshNodes_eq_prunedAll {small large : Vocabulary} (hsmall : small.isEmpty = false)
    (h : ∀ name, small.recognizes name → large.recognizes name) (markup : String) :
    ∃ nodes, freshNodes large markup = .ok nodes ∧
      freshNodes small markup = .ok (Node.prunedAll small nodes) ∧
      (∀ tag ∈ Node.tagsOfAll nodes, large.recognizes tag.1 = true) ∧
      ∀ tag ∈ Node.tagsOfAll (Node.prunedAll small nodes), small.recognizes tag.1 = true := by
  have hlarge : large.isEmpty = false := by
    obtain ⟨name, hname⟩ := Vocabulary.isEmpty_eq_false_iff.mp hsmall
    exact Vocabulary.isEmpty_eq_false_iff.mpr ⟨name, h name hname⟩
  refine ⟨compileWith large markup, ?_, ?_, recognizes_of_mem_tags_compileWith large markup,
    Node.recognizes_of_mem_tagsOfAll _⟩
  · rw [freshNodes_eq, hlarge, if_neg Bool.false_ne_true]
  · rw [freshNodes_eq, hsmall, if_neg Bool.false_ne_true, compileWith_eq_prunedAll h]

/-- Tables and cells without rows. -/
def cellsOnly : Vocabulary := ⟨["td", "table"]⟩

/-- A row that is not recognized takes its cell with it, and leaves an empty table; what is
malformed stays as it is. -/
theorem freshNodes_eq_prunedAll_cellsOnly :
    cellsOnly.isEmpty = false ∧
    (∀ name, cellsOnly.recognizes name → Vocabulary.standard.recognizes name) ∧
    ∃ nodes,
      freshNodes .standard "<table><tr><td>a</td></tr></table><td>b<tr></td></tr>" = .ok nodes ∧
      freshNodes cellsOnly "<table><tr><td>a</td></tr></table><td>b<tr></td></tr>" =
        .ok (Node.prunedAll cellsOnly nodes) ∧
      (Node.tagsOfAll nodes).map Prod.fst = ["table", "tr", "td", "td"] ∧
      (Node.tagsOfAll (Node.prunedAll cellsOnly nodes)).map Prod.fst = ["table", "td"] := by
  have hsmall : cellsOnly.isEmpty = false := rfl
  have hnames : ∀ name, cellsOnly.recognizes name → Vocabulary.standard.recognizes name := by
    intro name hname
    simp only [Vocabulary.recognizes, cellsOnly, Vocabulary.standard, List.contains_iff_mem,
      List.mem_cons, List.not_mem_nil, or_false] at hname ⊢
    rcases hname with rfl | rfl <;> simp
  obtain ⟨nodes, hlarge, hpruned, -, -⟩ := freshNodes_eq_prunedAll hsmall hnames
    "<table><tr><td>a</td></tr></table><td>b<tr></td></tr>"
  have hnodes : nodes = compileWith .standard
      "<table><tr><td>a</td></tr></table><td>b<tr></td></tr>" := by
    rw [freshNodes_eq] at hlarge
    exact (Except.ok.inj hlarge).symm
  refine ⟨hsmall, hnames, nodes, hlarge, hpruned, ?_⟩
  rw [hnodes]
  decide +kernel

end Compiler

end Receipt
