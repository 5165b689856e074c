import Receipt.Proofs.Compile.Plain
import Receipt.Proofs.Markup.Attributes

/-!
# Documents that are written and compiled again

`Written` relates the nodes of a document to the markups that spell them: each node stands between
its tags, with its props in the opening tag, and any text without `<` may stand beside the tags.
`freshNodes_written_append` says that compiling undoes writing, whatever markup follows.

The proof has two halves, both by induction on how the document is written.  A written document is
balanced for every name (`Written.balanced`), so each element is closed where it was closed by the
writer.  Its outline then comes first in the outline of any text that begins with it
(`Written.plainNodes_append`).
-/

namespace Receipt

open Markup (OpenTag Outline closeTag containsTag Balanced)

/-- The tag that opens a written node. -/
def writtenTag (name : String) (props : Props) : OpenTag where
  name := name.toList
  attrs := props.write

/-- A node as it is written around what stands inside it. -/
def writeAround (name : String) (props : Props) (inner : List Char) : List Char :=
  (writtenTag name props).write ++ inner ++ closeTag name.toList

/-- Markups that spell the nodes of a document. -/
inductive Written : List Node → List Char → Prop
  | nil {gap : List Char} (hgap : '<' ∉ gap) : Written [] gap
  | leaf {gap rest : List Char} {name : String} {props : Props} {text : String}
      {nodes : List Node} (hgap : '<' ∉ gap) (hrest : Written nodes rest) :
      Written (.leaf name props text :: nodes)
        (gap ++ writeAround name props text.toList ++ rest)
  | branch {gap inner rest : List Char} {name : String} {props : Props}
      {children nodes : List Node} (hgap : '<' ∉ gap) (hinner : Written children inner)
      (hrest : Written nodes rest) :
      Written (.branch name props children :: nodes) (gap ++ writeAround name props inner ++ rest)

/-- A name that can be written as a tag and is recognized. -/
structure WritableName (vocabulary : Vocabulary) (name : String) : Prop where
  ne_nil : name.toList ≠ []
  chars : ∀ c ∈ name.toList, Markup.isNameChar c = true
  recognized : vocabulary.recognizes name = true

/-- Nodes that can be written: names, props and texts are made of what markup can hold, and a node
that holds nodes holds at least one. -/
inductive Node.Writable (vocabulary : Vocabulary) : Node → Prop
  | leaf {name : String} {props : Props} {text : String} (hname : WritableName vocabulary name)
      (hprops : props.Writable) (htext : '<' ∉ text.toList) :
      Writable vocabulary (.leaf name props text)
  | branch {name : String} {props : Props} {children : List Node}
      (hname : WritableName vocabulary name) (hprops : props.Writable) (hne : children ≠ [])
      (hchildren : ∀ child ∈ children, Writable vocabulary child) :
      Writable vocabulary (.branch name props children)

variable {vocabulary : Vocabulary} {name : String} {props : Props} {nodes : List Node}

theorem WritableName.wellFormed (hname : WritableName vocabulary name) (hprops : props.Writable) :
    (writtenTag name props).WellFormed where
  name_ne_nil := hname.ne_nil
  name_chars := hname.chars
  attrs_head := Markup.head_write props
  gt_not_mem := Markup.gt_not_mem_write hprops

theorem WritableName.keeps (hname : WritableName vocabulary name) (props : Props) :
    Outline.Keeps vocabulary (writtenTag name props) where
  name_ne_nil := hname.ne_nil
  recognized := by
    rw [OpenTag.nodeName, writtenTag, String.ofList_toList]
    exact hname.recognized

theorem nodeName_writtenTag (name : String) (props : Props) :
    (writtenTag name props).nodeName = name :=
  String.ofList_toList

theorem nodeProps_writtenTag (name : String) (hprops : props.Writable) :
    (writtenTag name props).nodeProps = props :=
  Markup.readProps_write hprops

/-! ## One element -/

theorem balanced_writeAround {search inner : List Char} (hname : WritableName vocabulary name)
    (hprops : props.Writable) (hsearch : ∀ c ∈ search, Markup.isNameChar c = true)
    (hinner : Balanced search inner) : Balanced search (writeAround name props inner) :=
  (hinner.before _).element (hname.wellFormed hprops) (Markup.lt_not_mem_write hprops) hsearch

theorem containsTag_writeAround {gap : List Char} (hgap : '<' ∉ gap)
    (hname : WritableName vocabulary name) (hprops : props.Writable) (inner rest : List Char) :
    containsTag (gap ++ writeAround name props inner ++ rest) = true := by
  rw [writeAround]
  simp only [List.append_assoc]
  exact Markup.containsTag_append_write hgap (hname.wellFormed hprops) _

/-- A node whose inner text is balanced is read as one element. -/
theorem ofText_writeAround {gap inner : List Char} (hgap : '<' ∉ gap)
    (hname : WritableName vocabulary name) (hprops : props.Writable)
    (hinner : Balanced name.toList inner) (rest : List Char) :
    Outline.ofText (gap ++ writeAround name props inner ++ rest) =
      Outline.ofElement (writtenTag name props) inner :: Outline.ofText rest := by
  have hsplit := (hinner.before _).splitAtClose?_eq rest
  rw [writeAround]
  simp only [List.append_assoc]
  rw [Outline.ofText_append_left hgap]
  exact Outline.ofText_write_append (hname.wellFormed hprops) hsplit

/-! ## Documents -/

/-- A written document is balanced for every name. -/
theorem Written.balanced {written search : List Char} (h : Written nodes written)
    (hnodes : ∀ node ∈ nodes, node.Writable vocabulary)
    (hsearch : ∀ c ∈ search, Markup.isNameChar c = true) : Balanced search written := by
  induction h with
  | nil hgap => exact (Markup.passes_of_lt_not_mem hgap).balanced
  | leaf hgap hrest ih =>
    have htail := ih fun node hnode => hnodes node (by simp [hnode])
    cases hnodes _ List.mem_cons_self with
    | leaf hname hprops htext =>
      have htextBalanced : Balanced search _ := (Markup.passes_of_lt_not_mem htext).balanced
      have hhead := balanced_writeAround hname hprops hsearch htextBalanced
      exact ((Markup.passes_of_lt_not_mem hgap).balanced.append hhead).append htail
  | branch hgap hinner hrest ihinner ih =>
    have htail := ih fun node hnode => hnodes node (by simp [hnode])
    cases hnodes _ List.mem_cons_self with
    | branch hname hprops hne hchildren =>
      have hhead := balanced_writeAround hname hprops hsearch (ihinner hchildren)
      exact ((Markup.passes_of_lt_not_mem hgap).balanced.append hhead).append htail

/-- A written document that is not empty has an opening tag. -/
theorem Written.containsTag {written : List Char} (h : Written nodes written) (hne : nodes ≠ [])
    (hnodes : ∀ node ∈ nodes, node.Writable vocabulary) : containsTag written = true := by
  cases h with
  | nil => exact absurd rfl hne
  | leaf hgap hrest =>
    cases hnodes _ List.mem_cons_self with
    | leaf hname hprops htext => exact containsTag_writeAround hgap hname hprops _ _
  | branch hgap hinner hrest =>
    cases hnodes _ List.mem_cons_self with
    | branch hname hprops hne hchildren => exact containsTag_writeAround hgap hname hprops _ _

/-- The nodes of a text that begins with a written document begin with those of the document. -/
theorem Written.plainNodes_append {written : List Char} (h : Written nodes written)
    (hnodes : ∀ node ∈ nodes, node.Writable vocabulary) (text : List Char) :
    Outline.plainNodes vocabulary (Outline.ofText (written ++ text)) =
      nodes ++ Outline.plainNodes vocabulary (Outline.ofText text) := by
  induction h generalizing text with
  | nil hgap => rw [Outline.ofText_append_left hgap, List.nil_append]
  | @leaf gap rest name props content nodes hgap hrest ih =>
    have htail := ih fun node hnode => hnodes node (by simp [hnode])
    cases hnodes _ List.mem_cons_self with
    | leaf hname hprops htext =>
      have hbalanced : Balanced name.toList _ := (Markup.passes_of_lt_not_mem htext).balanced
      have hleaf : Outline.ofElement (writtenTag name props) content.toList =
          .leaf (writtenTag name props) content.toList := by
        rw [Outline.ofElement, Markup.containsTag, OpenTag.find?_eq_none_of_lt_not_mem htext]
        rfl
      rw [List.append_assoc, ofText_writeAround hgap hname hprops hbalanced, hleaf,
        Outline.plainNodes_cons, Outline.plainNode_leaf (hname.keeps props), nodeName_writtenTag,
        nodeProps_writtenTag name hprops, String.ofList_toList, htail]
      rfl
  | @branch gap inner rest name props children nodes hgap hinner hrest ihinner ih =>
    have htail := ih fun node hnode => hnodes node (by simp [hnode])
    cases hnodes _ List.mem_cons_self with
    | branch hname hprops hne hchildren =>
      have hbalanced := hinner.balanced hchildren hname.chars
      have hchildrenNodes : Outline.plainNodes vocabulary (Outline.ofText inner) = children := by
        simpa using ihinner hchildren []
      have hbranch : Outline.ofElement (writtenTag name props) inner =
          .branch (writtenTag name props) (Outline.ofText inner) := by
        rw [Outline.ofElement, hinner.containsTag hne hchildren, if_pos rfl]
      rw [List.append_assoc, ofText_writeAround hgap hname hprops hbalanced, hbranch,
        Outline.plainNodes_cons, Outline.plainNode_branch (hname.keeps props), nodeName_writtenTag,
        nodeProps_writtenTag name hprops, hchildrenNodes, htail]
      rfl

/-- Compiling undoes writing, whatever markup follows. -/
theorem freshNodes_written_append {written : String}
    (hnodes : ∀ node ∈ nodes, node.Writable vocabulary) (h : Written nodes written.toList) :
    (∀ markup : String, Compiler.freshNodes vocabulary (written ++ markup) =
      (Compiler.freshNodes vocabulary markup).map (nodes ++ ·)) ∧
    (vocabulary.isEmpty = false → Compiler.freshNodes vocabulary written = .ok nodes) := by
  have happend : ∀ markup : String, compileWith vocabulary (written ++ markup) =
      nodes ++ compileWith vocabulary markup := by
    intro markup
    rw [compileWith_eq, compileWith_eq, String.toList_append]
    exact h.plainNodes_append hnodes markup.toList
  constructor
  · intro markup
    rw [Compiler.freshNodes_eq, Compiler.freshNodes_eq, happend]
    split <;> rfl
  · intro hvocabulary
    have hempty : compileWith vocabulary "" = [] := by
      rw [compileWith_eq, String.toList_empty, Outline.ofText_nil, Outline.plainNodes_nil]
    have hwritten := happend ""
    rw [String.append_empty, hempty, List.append_nil] at hwritten
    rw [Compiler.freshNodes_eq, hvocabulary, if_neg (by simp), hwritten]

/-- A cell with a width, and a cell in it with a text that looks like the end of a tag. -/
def nestedCells : List Node :=
  [.branch "td" ⟨[("width", "5")], by decide⟩ [.leaf "td" ∅ "a > b"]]

theorem writable_nestedCells : ∀ node ∈ nestedCells, node.Writable .standard := by
  have hname : WritableName .standard "td" :=
    ⟨by decide, List.all_eq_true.mp (by decide), by decide⟩
  intro node hnode
  rw [nestedCells, List.mem_singleton] at hnode
  subst hnode
  refine .branch hname ?_ (by simp) ?_
  · intro entry hentry
    rw [List.mem_singleton] at hentry
    subst hentry
    exact ⟨by decide, List.all_eq_true.mp (by decide), by decide,
      List.all_eq_true.mp (by decide), by decide⟩
  · intro child hchild
    rw [List.mem_singleton] at hchild
    subst hchild
    exact .leaf hname (by intro entry hentry; simp at hentry) (by decide)

theorem written_nestedCells :
    Written nestedCells "x > y <td width=\"5\"> <td>a > b</td>;</td>z".toList := by
  have hlead : '<' ∉ "x > y ".toList := by decide
  have hspace : '<' ∉ " ".toList := by decide
  have hsemicolon : '<' ∉ ";".toList := by decide
  have htail : '<' ∉ "z".toList := by decide
  have hinner : Written [.leaf "td" ∅ "a > b"] " <td>a > b</td>;".toList :=
    .leaf hspace (.nil hsemicolon)
  exact .branch hlead hinner (.nil htail)

/-- A stray close, a row that is not closed and the start of a tag follow the document. -/
theorem freshNodes_nestedCells_append :
    (∀ node ∈ nestedCells, node.Writable .standard) ∧
    Written nestedCells "x > y <td width=\"5\"> <td>a > b</td>;</td>z".toList ∧
    Compiler.freshNodes .standard
        ("x > y <td width=\"5\"> <td>a > b</td>;</td>z" ++ "</td><tr>b<td") =
      (Compiler.freshNodes .standard "</td><tr>b<td").map (nestedCells ++ ·) :=
  ⟨writable_nestedCells, written_nestedCells,
    (freshNodes_written_append writable_nestedCells written_nestedCells).1 _⟩

end Receipt
