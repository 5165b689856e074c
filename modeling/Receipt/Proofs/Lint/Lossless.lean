import Mathlib.Data.List.Forall2
import Receipt.Proofs.Compile.Count
import Receipt.Proofs.Lint.Reading
import Receipt.Proofs.Tree

/-!
# When compiling keeps what the check has read

A markup about which the check is silent is made of elements (`exists_describes`).  Compiling reads
the same markup with other means: it looks for a bare `</name>`, wherever that stands, while for the
check a closing tag may have an ending and a `</name>` inside an opening tag is none.

* `Reading.Becomes` relates an element to a node that says the same.
* `Reading.ReadWhole` says that the search for the close of an element ends where the element does,
  and that an ending is not mistaken for text.
* `becomes_of_readWhole` goes through the elements and uses that each is read alone as it is read
  in its place.
* `readWhole_of_becomes` counts `>`.  Every node takes two of them and its text the others, so a
  document with a node for each element leaves none over, and each node ends where its element
  does.
-/

namespace Receipt

open Markup (OpenTag Outline Token closeTag containsTag splitAtClose?)

namespace Lint.Reading

/-! ## Elements and nodes -/

/-- The text before an element. -/
def gap : Reading → List Char
  | leaf gap _ _ _ => gap
  | branch gap _ _ _ _ => gap

/-- The tag that opens an element. -/
def tag : Reading → OpenTag
  | leaf _ tag _ _ => tag
  | branch _ tag _ _ _ => tag

/-- What stands between the tags of an element. -/
def inner : Reading → List Char
  | leaf _ _ text _ => text
  | branch _ _ children last _ => Token.writePieces (piecesOfAll children) ++ last

/-- What stands after the name in the closing tag. -/
def ending : Reading → List Char
  | leaf _ _ _ ending => ending
  | branch _ _ _ _ ending => ending

/-- The closing tag as it is written. -/
def close (reading : Reading) : List Char :=
  (closing reading.tag.name reading.ending).write

/-- A node says what an element says.  A text that is blank does not matter. -/
inductive Becomes : Reading → Node → Prop
  | leaf {gap text ending : List Char} {tag : OpenTag} {text' : String}
      (htext : Text.allBlank text = false → text' = String.ofList text) :
      Becomes (.leaf gap tag text ending) (.leaf tag.nodeName tag.nodeProps text')
  | branch {gap last ending : List Char} {tag : OpenTag} {children : List Reading}
      {nodes : List Node} (hnodes : List.Forall₂ Becomes children nodes) :
      Becomes (.branch gap tag children last ending) (.branch tag.nodeName tag.nodeProps nodes)

/-- The search for a close, which starts behind an opening tag, ends where the element ends. -/
def EndsAtClose (reading : Reading) : Prop :=
  ∃ inner, splitAtClose? reading.tag.name 0 (reading.inner ++ reading.close) = some (inner, [])

/-- Every element ends where its close is found, and a closing tag after a text is bare. -/
inductive ReadWhole : Reading → Prop
  | leaf {gap text ending : List Char} {tag : OpenTag}
      (hclose : EndsAtClose (.leaf gap tag text ending))
      (hending : Text.allBlank text = false → ending = []) : ReadWhole (.leaf gap tag text ending)
  | branch {gap last ending : List Char} {tag : OpenTag} {children : List Reading}
      (hclose : EndsAtClose (.branch gap tag children last ending))
      (hchildren : ∀ child ∈ children, ReadWhole child) :
      ReadWhole (.branch gap tag children last ending)

variable {vocabulary : Vocabulary} {reading : Reading} {readings : List Reading} {node : Node}
  {nodes : List Node} {text rest last inner : List Char}

theorem writePieces_pieces (reading : Reading) : Token.writePieces reading.pieces =
    reading.gap ++ (reading.tag.write ++ (reading.inner ++ reading.close)) := by
  cases reading with
  | leaf gap tag text ending =>
    rw [pieces, Token.writePieces_cons, Token.writePieces_cons, Token.writePieces_nil,
      List.append_nil]
    rfl
  | branch gap tag children last ending =>
    rw [pieces, Token.writePieces_cons, Token.writePieces_append, Token.writePieces_cons,
      Token.writePieces_nil, List.append_nil, Reading.inner, List.append_assoc]
    rfl

/-! ## What holds of every element that fits -/

theorem lt_not_mem_of_allBlank (h : Text.allBlank text = true) : '<' ∉ text :=
  Markup.lt_not_mem_of_isBlank (List.all_eq_true.mp h)

theorem gt_not_mem_of_allBlank (h : Text.allBlank text = true) : '>' ∉ text :=
  Markup.gt_not_mem_of_isBlank (List.all_eq_true.mp h)

namespace Fits

theorem allBlank_gap (h : Fits vocabulary reading) : Text.allBlank reading.gap = true := by
  cases h with
  | leaf hgap => exact hgap
  | branch hgap => exact hgap

theorem wellFormed_tag (h : Fits vocabulary reading) : reading.tag.WellFormed := by
  cases h with
  | leaf _ htag => exact htag
  | branch _ htag => exact htag

theorem keeps_tag (h : Fits vocabulary reading) : Outline.Keeps vocabulary reading.tag := by
  refine ⟨h.wellFormed_tag.name_ne_nil, ?_⟩
  cases h with
  | leaf _ _ hname => exact hname
  | branch _ _ hname => exact hname

theorem gt_not_mem_ending (h : Fits vocabulary reading) : '>' ∉ reading.ending := by
  cases h with
  | leaf _ _ _ _ hending => exact hending
  | branch _ _ _ _ _ _ hending => exact hending

/-- The closing tag has one `>`, at its end. -/
theorem exists_close_eq (h : Fits vocabulary reading) :
    ∃ body, '>' ∉ body ∧ body.length = reading.tag.name.length + reading.ending.length + 2 ∧
      reading.close = body ++ ['>'] := by
  refine ⟨'<' :: '/' :: (reading.tag.name ++ reading.ending), ?_, by simp, by
    simp [close, closing, Token.write]⟩
  have hname := Markup.gt_not_mem_of_isNameChar h.wellFormed_tag.name_chars
  have hending := h.gt_not_mem_ending
  simp [hname, hending]

end Fits

/-- What is found inside an element that ends at its close: what stands inside it, and in addition
as much as its closing tag is longer than a bare one. -/
theorem exists_extra (hfits : Fits vocabulary reading)
    (h : reading.inner ++ reading.close = inner ++ closeTag reading.tag.name) :
    ∃ extra, '>' ∉ extra ∧ extra.length = reading.ending.length ∧
      inner = reading.inner ++ extra := by
  obtain ⟨body, hbody, hlength, hclose⟩ := hfits.exists_close_eq
  have hbare : (closeTag reading.tag.name).length = reading.tag.name.length + 3 := by
    simp [closeTag]
  have htotal := congrArg List.length h
  simp only [List.length_append, hclose, hbare, hlength, List.length_singleton] at htotal
  have hprefix : reading.inner <+: inner := by
    apply List.prefix_of_prefix_length_le ⟨reading.close, h⟩ ⟨_, rfl⟩
    omega
  obtain ⟨extra, rfl⟩ := hprefix
  rw [List.length_append] at htotal
  refine ⟨extra, ?_, by omega, rfl⟩
  rw [List.append_assoc, hclose] at h
  have hextra : body ++ ['>'] = (extra ++ '<' :: '/' :: reading.tag.name) ++ ['>'] := by
    rw [List.append_cancel_left h, closeTag]
    simp
  intro hmem
  apply hbody
  rw [List.append_cancel_right hextra]
  exact List.mem_append_left _ hmem

/-- An element that ends at its close is read first, whatever follows it. -/
theorem EndsAtClose.exists_ofText_eq (h : EndsAtClose reading) (hfits : Fits vocabulary reading) :
    ∃ extra, '>' ∉ extra ∧ extra.length = reading.ending.length ∧
      ∀ rest, Outline.ofText (Token.writePieces reading.pieces ++ rest) =
        Outline.ofElement reading.tag (reading.inner ++ extra) :: Outline.ofText rest := by
  obtain ⟨inner, hinner⟩ := h
  have htext : reading.inner ++ reading.close = inner ++ closeTag reading.tag.name := by
    rw [Markup.eq_of_splitAtClose? hinner, List.append_nil]
  obtain ⟨extra, hextra, hlength, rfl⟩ := exists_extra hfits htext
  refine ⟨extra, hextra, hlength, ?_⟩
  intro rest
  have hgap : '<' ∉ reading.gap :=
    lt_not_mem_of_allBlank hfits.allBlank_gap
  have hsplit := Markup.splitAtClose?_replace_after hinner rest
  rw [← htext] at hsplit
  rw [writePieces_pieces, List.append_assoc, List.append_assoc, Outline.ofText_append_left hgap,
    Outline.ofText_write_append hfits.wellFormed_tag hsplit]

theorem containsTag_writePieces_append (hne : readings ≠ [])
    (hfits : ∀ reading ∈ readings, Fits vocabulary reading) (rest : List Char) :
    containsTag (Token.writePieces (piecesOfAll readings) ++ rest) = true := by
  cases readings with
  | nil => exact absurd rfl hne
  | cons reading readings =>
    have hreading := hfits reading List.mem_cons_self
    rw [piecesOfAll, Token.writePieces_append, writePieces_pieces]
    simp only [List.append_assoc]
    exact Markup.containsTag_append_write
      (lt_not_mem_of_allBlank hreading.allBlank_gap)
      hreading.wellFormed_tag _

mutual

/-- The node of an element that is read whole. -/
theorem becomes_of_readWhole (reading : Reading) (hfits : Fits vocabulary reading)
    (hwhole : ReadWhole reading) (rest : List Char) :
    ∃ node, Becomes reading node ∧
      Outline.plainNodes vocabulary (Outline.ofText (Token.writePieces reading.pieces ++ rest)) =
        node :: Outline.plainNodes vocabulary (Outline.ofText rest) := by
  have hkeeps := hfits.keeps_tag
  cases reading with
  | leaf gap tag text ending =>
    change Outline.Keeps vocabulary tag at hkeeps
    cases hwhole with
    | leaf hclose hending =>
      obtain ⟨extra, hextra, hlength, hread⟩ := hclose.exists_ofText_eq hfits
      have hleaf : Outline.ofElement tag (text ++ extra) = .leaf tag (text ++ extra) := by
        cases hfits with
        | leaf _ _ _ htext =>
          rw [Outline.ofElement, Markup.containsTag_append_of_not_mem hextra, containsTag,
            htext.find?_eq_none]
          rfl
      refine ⟨.leaf tag.nodeName tag.nodeProps (String.ofList (text ++ extra)), .leaf ?_, ?_⟩
      · intro hblank
        have hnil : extra.length = 0 := by
          rw [hlength, Reading.ending, hending hblank, List.length_nil]
        rw [List.length_eq_zero_iff.mp hnil, List.append_nil]
      · rw [hread]
        show Outline.plainNodes vocabulary (Outline.ofElement tag (text ++ extra) :: _) = _
        rw [hleaf, Outline.plainNodes_cons, Outline.plainNode_leaf hkeeps]
        rfl
  | branch gap tag children last ending =>
    change Outline.Keeps vocabulary tag at hkeeps
    cases hwhole with
    | branch hclose hchildren =>
      obtain ⟨extra, hextra, -, hread⟩ := hclose.exists_ofText_eq hfits
      cases hfits with
      | branch _ _ _ hne hfits hlast _ =>
        obtain ⟨nodes, hnodes, hcompile⟩ :=
          becomesAll_of_readWhole children hfits hchildren (last ++ extra)
        have hlastGt : '>' ∉ last ++ extra := by
          simp [gt_not_mem_of_allBlank hlast, hextra]
        rw [Outline.ofText_eq_nil_of_not_mem hlastGt, Outline.plainNodes_nil, List.append_nil]
          at hcompile
        refine ⟨.branch tag.nodeName tag.nodeProps nodes, .branch hnodes, ?_⟩
        rw [hread]
        show Outline.plainNodes vocabulary (Outline.ofElement tag
          (Token.writePieces (piecesOfAll children) ++ last ++ extra) :: _) = _
        rw [List.append_assoc, Outline.ofElement, containsTag_writePieces_append hne hfits,
          if_pos rfl, Outline.plainNodes_cons, Outline.plainNode_branch hkeeps, hcompile]
        rfl

/-- The nodes of elements that are read whole. -/
theorem becomesAll_of_readWhole (readings : List Reading)
    (hfits : ∀ reading ∈ readings, Fits vocabulary reading)
    (hwhole : ∀ reading ∈ readings, ReadWhole reading) (rest : List Char) :
    ∃ nodes, List.Forall₂ Becomes readings nodes ∧
      Outline.plainNodes vocabulary
          (Outline.ofText (Token.writePieces (piecesOfAll readings) ++ rest)) =
        nodes ++ Outline.plainNodes vocabulary (Outline.ofText rest) := by
  cases readings with
  | nil => exact ⟨[], .nil, rfl⟩
  | cons reading readings =>
    obtain ⟨hfits₁, hfits⟩ := List.forall_mem_cons.mp hfits
    obtain ⟨hwhole₁, hwhole⟩ := List.forall_mem_cons.mp hwhole
    obtain ⟨nodes, hnodes, hcompile⟩ := becomesAll_of_readWhole readings hfits hwhole rest
    obtain ⟨node, hnode, hfirst⟩ := becomes_of_readWhole reading hfits₁ hwhole₁
      (Token.writePieces (piecesOfAll readings) ++ rest)
    refine ⟨node :: nodes, .cons hnode hnodes, ?_⟩
    rw [piecesOfAll, Token.writePieces_append, List.append_assoc, hfirst, hcompile]
    rfl

end

/-! ## Counting ends of tags -/

theorem count_close (hfits : Fits vocabulary reading) : reading.close.count '>' = 1 := by
  obtain ⟨body, hbody, -, hclose⟩ := hfits.exists_close_eq
  rw [hclose, List.count_append, List.count_eq_zero_of_not_mem hbody, List.count_singleton_self]

theorem count_blank (h : Text.allBlank text = true) : text.count '>' = 0 :=
  List.count_eq_zero_of_not_mem (gt_not_mem_of_allBlank h)

theorem count_writePieces (hfits : Fits vocabulary reading) :
    (Token.writePieces reading.pieces).count '>' = reading.inner.count '>' + 2 := by
  rw [writePieces_pieces, List.count_append, List.count_append, List.count_append,
    count_blank hfits.allBlank_gap, Markup.count_write hfits.wellFormed_tag, count_close hfits]
  omega

mutual

/-- A node takes as many `>` as the element that it comes from, at least. -/
theorem Becomes.count_le (reading : Reading) {node : Node} (hfits : Fits vocabulary reading)
    (h : Becomes reading node) : (Token.writePieces reading.pieces).count '>' ≤ node.countGt := by
  rw [count_writePieces hfits]
  cases h with
  | @leaf gap text ending tag text' htext =>
    apply Nat.add_le_add_right
    show text.count '>' ≤ text'.toList.count '>'
    cases hblank : Text.allBlank text with
    | true =>
      rw [count_blank hblank]
      exact Nat.zero_le _
    | false => exact Nat.le_of_eq (by rw [htext hblank, String.toList_ofList])
  | @branch gap last ending tag children nodes hnodes =>
    cases hfits with
    | branch _ _ _ _ hchildren hlast _ =>
      have hcount := Becomes.count_le_all children hchildren hnodes
      apply Nat.add_le_add_right
      show (Token.writePieces (piecesOfAll children) ++ last).count '>' ≤ Node.countGtOfAll nodes
      rw [List.count_append, count_blank hlast]
      exact hcount

/-- Nodes take as many `>` as the elements that they come from, at least. -/
theorem Becomes.count_le_all (readings : List Reading) {nodes : List Node}
    (hfits : ∀ reading ∈ readings, Fits vocabulary reading)
    (h : List.Forall₂ Becomes readings nodes) :
    (Token.writePieces (piecesOfAll readings)).count '>' ≤ Node.countGtOfAll nodes := by
  cases h with
  | nil => exact Nat.zero_le _
  | @cons reading node readings nodes hnode hnodes =>
    obtain ⟨hfits₁, hfits⟩ := List.forall_mem_cons.mp hfits
    have hfirst := Becomes.count_le reading hfits₁ hnode
    have hlater := Becomes.count_le_all readings hfits hnodes
    rw [piecesOfAll, Token.writePieces_append, List.count_append, Node.countGtOfAll]
    omega

end

theorem Becomes.name_eq (h : Becomes reading node) : node.name = reading.tag.nodeName := by
  cases h with
  | leaf => rfl
  | branch => rfl

/-- An element of the check and the first one that compiling finds have the same end if they have
the same name and as many `>`. -/
theorem split_of_next? {element : Markup.Element} {after : List Char}
    (hfits : Fits vocabulary reading)
    (h : Markup.Element.next? (Token.writePieces reading.pieces ++ rest) = some (element, after))
    (hname : element.tag.name = reading.tag.name) (hbefore : element.before.count '>' = 0)
    (hinner : element.inner.count '>' = reading.inner.count '>') :
    splitAtClose? reading.tag.name 0 (reading.inner ++ reading.close) =
      some (element.inner, []) ∧ after = rest := by
  obtain ⟨rest', htext, htag, hsplit⟩ := Markup.Element.exists_of_next? h
  obtain ⟨body, hbody, -, hclose⟩ := hfits.exists_close_eq
  have hrest' : reading.inner ++ reading.close ++ rest = rest' := by
    rw [writePieces_pieces, List.append_assoc, List.append_assoc] at htext
    exact OpenTag.eq_of_append_write_eq hfits.wellFormed_tag htag
      (gt_not_mem_of_allBlank hfits.allBlank_gap) (List.count_eq_zero.mp hbefore) htext
  have hcloses : reading.inner ++ body ++ ['>'] ++ rest =
      element.inner ++ '<' :: '/' :: reading.tag.name ++ ['>'] ++ after := by
    have hfound := Markup.eq_of_splitAtClose? hsplit
    rw [← hrest', hclose, hname, closeTag] at hfound
    simpa using hfound
  have hbare := Markup.gt_not_mem_close_body hfits.wellFormed_tag.name_chars
  obtain ⟨hend, hafter⟩ := Text.append_inj_of_count_eq hcloses (by
    rw [List.count_append, List.count_append, List.count_eq_zero_of_not_mem hbody,
      List.count_eq_zero_of_not_mem hbare, hinner])
  have hwhole := Markup.splitAtClose?_replace_after hsplit []
  have hinnerClose : element.inner ++ closeTag reading.tag.name =
      reading.inner ++ reading.close := by
    rw [hclose, ← List.append_assoc, hend, closeTag]
    simp
  rw [List.append_nil, hname, hinnerClose] at hwhole
  exact ⟨hwhole, hafter.symm⟩

/-- If a text has no more `>` than its nodes take, the first node ends where its element does. -/
theorem exists_of_plainNodes_eq_cons (hfits : Fits vocabulary reading)
    (hnode : Becomes reading node) (hrest : rest.count '>' ≤ Node.countGtOfAll nodes)
    (h : Outline.plainNodes vocabulary
      (Outline.ofText (Token.writePieces reading.pieces ++ rest)) = node :: nodes) :
    ∃ tag inner,
      splitAtClose? reading.tag.name 0 (reading.inner ++ reading.close) = some (inner, []) ∧
      Outline.asNode vocabulary (Outline.ofElement tag inner) = node ∧
      Outline.plainNodes vocabulary (Outline.ofText rest) = nodes := by
  generalize htext : Token.writePieces reading.pieces ++ rest = text at h
  cases hnext : Markup.Element.next? text with
  | none =>
    rw [Outline.ofText_of_next?_eq_none hnext] at h
    exact absurd h (by simp)
  | some found =>
    obtain ⟨element, after⟩ := found
    rw [Outline.ofText_of_next?_eq_some hnext, Outline.plainNodes_cons] at h
    have hcount := Outline.count_of_next? hnext
    have hafter := Outline.countGtOfAll_plainNodes_le vocabulary after
    have hinner := Outline.countGtOfAll_plainNodes_le vocabulary element.inner
    have hreading := Becomes.count_le reading hfits hnode
    have htotal : text.count '>' =
        (Token.writePieces reading.pieces).count '>' + rest.count '>' := by
      rw [← htext, List.count_append]
    cases hplain : Outline.plainNode vocabulary
        (Outline.ofElement element.tag element.inner) with
    | none =>
      -- the first element is dropped, so its `>` are missing for the nodes
      rw [hplain] at h
      change Outline.plainNodes vocabulary (Outline.ofText after) = node :: nodes at h
      rw [h, Node.countGtOfAll] at hafter
      omega
    | some node' =>
      rw [hplain] at h
      obtain ⟨rfl, rfl⟩ := List.cons.inj h
      obtain ⟨hkeeps, rfl⟩ := Outline.plainNode_eq_some_iff.mp hplain
      -- the node and the nodes after it take all `>`, so none is left in the text before the
      -- element, and there are as many inside the element as inside that of the check
      have hnodeCount := Outline.countGt_asNode_le element.tag hinner
      have hfirst := count_writePieces hfits
      change rest.count '>' ≤ Node.countGtOfAll
        (Outline.plainNodes vocabulary (Outline.ofText after)) at hrest
      have hname : element.tag.name = reading.tag.name := by
        have hnames := hnode.name_eq
        rw [Outline.name_asNode, Outline.tag_ofElement] at hnames
        exact String.ofList_injective hnames
      rw [← htext] at hnext
      obtain ⟨hsplit, rfl⟩ := split_of_next? hfits hnext hname (by omega) (by omega)
      exact ⟨element.tag, element.inner, hsplit, rfl, rfl⟩

mutual

/-- An element that becomes a node which compiling makes of it is read whole. -/
theorem readWhole_of_becomes (reading : Reading) {tag : OpenTag} {inner : List Char}
    (hfits : Fits vocabulary reading)
    (hclose : splitAtClose? reading.tag.name 0 (reading.inner ++ reading.close) =
      some (inner, []))
    (h : Becomes reading (Outline.asNode vocabulary (Outline.ofElement tag inner))) :
    ReadWhole reading := by
  have htext := Markup.eq_of_splitAtClose? hclose
  rw [List.append_nil] at htext
  obtain ⟨extra, hextra, hlength, rfl⟩ := exists_extra hfits htext
  generalize hnode : Outline.asNode vocabulary (Outline.ofElement tag (reading.inner ++ extra)) =
    node at h
  cases h with
  | @leaf gap text ending tag' text' htext' =>
    refine .leaf ⟨_, hclose⟩ ?_
    intro hblank
    change Outline.asNode vocabulary (Outline.ofElement tag (text ++ extra)) = _ at hnode
    rw [Outline.ofElement] at hnode
    split at hnode
    · exact Node.noConfusion hnode
    · have hsame : String.ofList (text ++ extra) = String.ofList text :=
        (Node.leaf.inj hnode).2.2.trans (htext' hblank)
      have hextraNil : extra = [] := by simpa using String.ofList_injective hsame
      rw [hextraNil, List.length_nil] at hlength
      exact List.length_eq_zero_iff.mp hlength.symm
  | @branch gap last ending tag' children nodes hnodes =>
    refine .branch ⟨_, hclose⟩ ?_
    cases hfits with
    | branch _ _ _ _ hchildren hlast _ =>
      have hlastGt : '>' ∉ last ++ extra := by
        simp [gt_not_mem_of_allBlank hlast, hextra]
      change Outline.asNode vocabulary (Outline.ofElement tag
        (Token.writePieces (piecesOfAll children) ++ last ++ extra)) = _ at hnode
      rw [Outline.ofElement, List.append_assoc] at hnode
      split at hnode
      · rw [← (Node.branch.inj hnode).2.2] at hnodes
        exact readWholeAll_of_becomes children hchildren hlastGt hnodes
      · exact Node.noConfusion hnode

/-- Elements that become the nodes of their text are read whole. -/
theorem readWholeAll_of_becomes (readings : List Reading) {rest : List Char}
    (hfits : ∀ reading ∈ readings, Fits vocabulary reading) (hrest : '>' ∉ rest)
    (h : List.Forall₂ Becomes readings (Outline.plainNodes vocabulary
      (Outline.ofText (Token.writePieces (piecesOfAll readings) ++ rest)))) :
    ∀ reading ∈ readings, ReadWhole reading := by
  generalize hnodes : Outline.plainNodes vocabulary
    (Outline.ofText (Token.writePieces (piecesOfAll readings) ++ rest)) = nodes at h
  cases h with
  | nil => simp
  | @cons reading node readings nodes hnode htail =>
    obtain ⟨hfits₁, hfits⟩ := List.forall_mem_cons.mp hfits
    have hcount : (Token.writePieces (piecesOfAll readings) ++ rest).count '>' ≤
        Node.countGtOfAll nodes := by
      rw [List.count_append, List.count_eq_zero_of_not_mem hrest]
      exact Becomes.count_le_all readings hfits htail
    rw [piecesOfAll, Token.writePieces_append, List.append_assoc] at hnodes
    obtain ⟨tag, inner, hclose, rfl, rfl⟩ :=
      exists_of_plainNodes_eq_cons hfits₁ hnode hcount hnodes
    exact List.forall_mem_cons.mpr ⟨readWhole_of_becomes reading hfits₁ hclose hnode,
      readWholeAll_of_becomes readings hfits hrest htail⟩

end

end Lint.Reading

end Receipt
