import Receipt.Proofs.Lint.Lossless

/-!
# Compiling after a silent check

What is left of a markup when the check has nothing to remark on it.  `compileWith_of_silent` is the
exact condition for compiling to keep everything: each element, taken alone, is read whole.  It
holds of every markup whose tags are plain (`Reading.readWholeAll_of_isPlain`), that is, whose
closing tags are bare and whose opening tags have no `<` inside.

It does not hold of every markup.  The check takes `</td >` for a closing tag and compiling does
not (`not_losesNothing_of_silent`); compiling takes a `</td>` at the end of an opening tag for a
close and the check does not.
-/

namespace Receipt

open Markup (OpenTag Token Balanced BalancedBefore closeTag)

/-! ## Plain tags -/

/-- An opening tag without `<` inside, or a closing tag with nothing after its name. -/
def Markup.Token.isPlain (token : Token) : Bool :=
  if token.closes then token.tag.attrs.isEmpty else !token.tag.attrs.contains '<'

namespace Lint.Reading

variable {vocabulary : Vocabulary} {reading : Reading} {name : List Char}

/-- Whether all tags of an element and of those inside it are plain. -/
def IsPlain (reading : Reading) : Prop :=
  ∀ piece ∈ reading.pieces, piece.2.isPlain = true

theorem IsPlain.lt_not_mem_attrs (h : IsPlain reading) : '<' ∉ reading.tag.attrs := by
  have hopening : (opening reading.tag).isPlain = true := by
    cases reading with
    | leaf gap tag text ending => exact h (gap, opening tag) List.mem_cons_self
    | branch gap tag children last ending => exact h (gap, opening tag) List.mem_cons_self
  simpa [opening, Token.isPlain] using hopening

theorem IsPlain.ending_eq (h : IsPlain reading) : reading.ending = [] := by
  have hclosing : (closing reading.tag.name reading.ending).isPlain = true := by
    cases reading with
    | leaf gap tag text ending =>
      exact h (text, closing tag.name ending) (by simp [pieces])
    | branch gap tag children last ending =>
      exact h (last, closing tag.name ending) (by simp [pieces])
  simpa [closing, Token.isPlain] using hclosing

theorem IsPlain.close_eq (h : IsPlain reading) : reading.close = closeTag reading.tag.name := by
  rw [close, h.ending_eq]
  rfl

theorem mem_piecesOfAll {readings : List Reading} {piece : List Char × Token}
    (hreading : reading ∈ readings) (hpiece : piece ∈ reading.pieces) :
    piece ∈ piecesOfAll readings := by
  induction readings with
  | nil => simp at hreading
  | cons first readings ih =>
    rw [piecesOfAll, List.mem_append]
    rcases List.mem_cons.mp hreading with rfl | hlater
    · exact .inl hpiece
    · exact .inr (ih hlater)

theorem IsPlain.child {gap last ending : List Char} {tag : OpenTag} {children : List Reading}
    (h : IsPlain (.branch gap tag children last ending)) :
    ∀ child ∈ children, IsPlain child := by
  intro child hchild piece hpiece
  apply h
  have := mem_piecesOfAll hchild hpiece
  simp [pieces, this]

mutual

/-- What stands between plain tags is balanced for every name. -/
theorem balancedBefore_inner (reading : Reading) (hne : name ≠ [])
    (hname : ∀ c ∈ name, Markup.isNameChar c = true) (hfits : Fits vocabulary reading)
    (hplain : IsPlain reading) : BalancedBefore reading.tag.name name reading.inner := by
  cases reading with
  | leaf gap tag text ending =>
    have hending : ending = [] := hplain.ending_eq
    cases hfits with
    | leaf _ htag _ htext _ =>
      rw [hending] at htext
      exact Markup.balancedBefore_of_precedes hne hname htag.name_chars htext
  | branch gap tag children last ending =>
    cases hfits with
    | branch _ _ _ _ hchildren hlast _ =>
      have hlastBalanced : Balanced name last :=
        (Markup.passes_of_lt_not_mem (lt_not_mem_of_allBlank hlast)).balanced
      exact ((balanced_piecesOfAll children hne hname hchildren hplain.child).append
        hlastBalanced).before _

/-- Elements with plain tags are balanced for every name. -/
theorem balanced_piecesOfAll (readings : List Reading) (hne : name ≠ [])
    (hname : ∀ c ∈ name, Markup.isNameChar c = true)
    (hfits : ∀ reading ∈ readings, Fits vocabulary reading)
    (hplain : ∀ reading ∈ readings, IsPlain reading) :
    Balanced name (Token.writePieces (piecesOfAll readings)) := by
  cases readings with
  | nil =>
    have hnil : '<' ∉ ([] : List Char) := List.not_mem_nil
    exact (Markup.passes_of_lt_not_mem hnil).balanced
  | cons reading readings =>
    obtain ⟨hfits₁, hfits⟩ := List.forall_mem_cons.mp hfits
    obtain ⟨hplain₁, hplain⟩ := List.forall_mem_cons.mp hplain
    have hgap : Balanced name reading.gap :=
      (Markup.passes_of_lt_not_mem (lt_not_mem_of_allBlank hfits₁.allBlank_gap)).balanced
    have helement := (balancedBefore_inner reading hne hname hfits₁ hplain₁).element
      hfits₁.wellFormed_tag hplain₁.lt_not_mem_attrs hname
    rw [List.append_assoc] at helement
    rw [piecesOfAll, Token.writePieces_append, writePieces_pieces, hplain₁.close_eq]
    exact (hgap.append helement).append (balanced_piecesOfAll readings hne hname hfits hplain)

end

mutual

/-- An element with plain tags is read whole. -/
theorem readWhole_of_isPlain (reading : Reading) (hfits : Fits vocabulary reading)
    (hplain : IsPlain reading) : ReadWhole reading := by
  have htag := hfits.wellFormed_tag
  have hclose : EndsAtClose reading := by
    have hinner := balancedBefore_inner reading htag.name_ne_nil htag.name_chars hfits hplain
    have hfound := hinner.splitAtClose?_eq []
    rw [List.append_nil, ← hplain.close_eq] at hfound
    exact ⟨reading.inner, hfound⟩
  cases reading with
  | leaf gap tag text ending => exact .leaf hclose fun _ => hplain.ending_eq
  | branch gap tag children last ending =>
    cases hfits with
    | branch _ _ _ _ hchildren _ _ =>
      exact .branch hclose (readWholeAll_of_isPlain children hchildren hplain.child)

/-- Elements with plain tags are read whole. -/
theorem readWholeAll_of_isPlain (readings : List Reading)
    (hfits : ∀ reading ∈ readings, Fits vocabulary reading)
    (hplain : ∀ reading ∈ readings, IsPlain reading) :
    ∀ reading ∈ readings, ReadWhole reading := by
  cases readings with
  | nil => simp
  | cons reading readings =>
    obtain ⟨hfits₁, hfits⟩ := List.forall_mem_cons.mp hfits
    obtain ⟨hplain₁, hplain⟩ := List.forall_mem_cons.mp hplain
    exact List.forall_mem_cons.mpr ⟨readWhole_of_isPlain reading hfits₁ hplain₁,
      readWholeAll_of_isPlain readings hfits hplain⟩

end

end Lint.Reading

/-! ## What a markup says -/

namespace Lint

/-- The names and props in the opening tags among some tokens. -/
def openings (pieces : List (List Char × Token)) : List (String × Props) :=
  (pieces.filter fun piece => !piece.2.closes).map fun piece =>
    (piece.2.tag.nodeName, piece.2.tag.nodeProps)

/-- The texts before tokens that are not blank. -/
def runs (pieces : List (List Char × Token)) : List String :=
  (pieces.filter fun piece => !Text.allBlank piece.1).map fun piece => String.ofList piece.1

/-- The nodes have all tags of a markup in order, and each text between two tags is the text of a
node of its own. -/
structure LosesNothing (markup : String) (nodes : List Node) : Prop where
  tags : Node.tagsOfAll nodes = openings (Token.split markup.toList).1
  texts : (runs (Token.split markup.toList).1).Sublist (Node.leafTextsOfAll nodes)

theorem openings_append (first second : List (List Char × Token)) :
    openings (first ++ second) = openings first ++ openings second := by
  rw [openings, List.filter_append, List.map_append, openings, openings]

theorem runs_cons_of_allBlank {text : List Char} (h : Text.allBlank text = true) (token : Token)
    (pieces : List (List Char × Token)) : runs ((text, token) :: pieces) = runs pieces := by
  rw [runs, List.filter_cons_of_neg (by simp [h]), runs]

theorem runs_cons_of_not_allBlank {text : List Char} (h : Text.allBlank text = false)
    (token : Token) (pieces : List (List Char × Token)) :
    runs ((text, token) :: pieces) = String.ofList text :: runs pieces := by
  rw [runs, List.filter_cons_of_pos (by simp [h]), List.map_cons, runs]

theorem runs_append (first second : List (List Char × Token)) :
    runs (first ++ second) = runs first ++ runs second := by
  rw [runs, List.filter_append, List.map_append, runs, runs]

namespace Reading

variable {vocabulary : Vocabulary}

mutual

theorem Becomes.tags_eq (reading : Reading) {node : Node} (h : Becomes reading node) :
    node.tags = openings reading.pieces := by
  cases h with
  | leaf => rfl
  | @branch gap last ending tag children nodes hnodes =>
    have hchildren := Becomes.tagsOfAll_eq children hnodes
    show (tag.nodeName, tag.nodeProps) :: Node.tagsOfAll nodes =
      (tag.nodeName, tag.nodeProps) :: openings (piecesOfAll children ++ [_])
    rw [openings_append, hchildren]
    show _ = _ :: (_ ++ [])
    rw [List.append_nil]

theorem Becomes.tagsOfAll_eq (readings : List Reading) {nodes : List Node}
    (h : List.Forall₂ Becomes readings nodes) :
    Node.tagsOfAll nodes = openings (piecesOfAll readings) := by
  cases h with
  | nil => rfl
  | @cons reading node readings nodes hnode hnodes =>
    rw [Node.tagsOfAll, piecesOfAll, openings_append, Becomes.tags_eq reading hnode,
      Becomes.tagsOfAll_eq readings hnodes]

end

mutual

theorem Becomes.runs_sublist (reading : Reading) {node : Node} (hfits : Fits vocabulary reading)
    (h : Becomes reading node) : (runs reading.pieces).Sublist node.leafTexts := by
  cases h with
  | @leaf gap text ending tag text' htext =>
    have hgap : Text.allBlank gap = true := hfits.allBlank_gap
    rw [pieces, runs_cons_of_allBlank hgap]
    cases hblank : Text.allBlank text with
    | true =>
      rw [runs_cons_of_allBlank hblank]
      exact List.nil_sublist _
    | false =>
      rw [runs_cons_of_not_allBlank hblank, htext hblank]
      exact List.Sublist.refl _
  | @branch gap last ending tag children nodes hnodes =>
    cases hfits with
    | branch hgap _ _ _ hchildren hlast _ =>
      have hsublist := Becomes.runs_sublist_all children hchildren hnodes
      rw [pieces, runs_cons_of_allBlank hgap, runs_append, runs_cons_of_allBlank hlast]
      show (runs (piecesOfAll children) ++ []).Sublist (Node.leafTextsOfAll nodes)
      rw [List.append_nil]
      exact hsublist

theorem Becomes.runs_sublist_all (readings : List Reading) {nodes : List Node}
    (hfits : ∀ reading ∈ readings, Fits vocabulary reading)
    (h : List.Forall₂ Becomes readings nodes) :
    (runs (piecesOfAll readings)).Sublist (Node.leafTextsOfAll nodes) := by
  cases h with
  | nil => exact List.nil_sublist _
  | @cons reading node readings nodes hnode hnodes =>
    obtain ⟨hfits₁, hfits⟩ := List.forall_mem_cons.mp hfits
    rw [Node.leafTextsOfAll, piecesOfAll, runs_append]
    exact (Becomes.runs_sublist reading hfits₁ hnode).append
      (Becomes.runs_sublist_all readings hfits hnodes)

end

variable {markup : String} {readings : List Reading}

theorem Describes.compileWith_eq (h : Describes vocabulary markup readings) :
    ∃ rest, Text.allBlank rest = true ∧ compileWith vocabulary markup =
      Markup.Outline.plainNodes vocabulary
        (Markup.Outline.ofText (Token.writePieces (piecesOfAll readings) ++ rest)) := by
  refine ⟨_, h.rest, ?_⟩
  rw [Receipt.compileWith_eq, ← h.pieces, ← (Token.splits_split markup.toList).eq]

/-- The elements of a markup become its nodes exactly if they are read whole. -/
theorem Describes.becomes_iff (h : Describes vocabulary markup readings) :
    List.Forall₂ Becomes readings (compileWith vocabulary markup) ↔
      ∀ reading ∈ readings, ReadWhole reading := by
  obtain ⟨rest, hblank, hcompile⟩ := h.compileWith_eq
  have hrest : '>' ∉ rest := Reading.gt_not_mem_of_allBlank hblank
  rw [hcompile]
  constructor
  · exact readWholeAll_of_becomes readings h.fits hrest
  · intro hwhole
    obtain ⟨nodes, hnodes, heq⟩ := becomesAll_of_readWhole readings h.fits hwhole rest
    rw [heq, Markup.Outline.ofText_eq_nil_of_not_mem hrest, Markup.Outline.plainNodes_nil,
      List.append_nil]
    exact hnodes

/-- If the elements of a markup become nodes, the nodes have all that the markup says. -/
theorem Describes.losesNothing {nodes : List Node} (h : Describes vocabulary markup readings)
    (hnodes : List.Forall₂ Becomes readings nodes) : LosesNothing markup nodes where
  tags := by rw [h.pieces, Becomes.tagsOfAll_eq readings hnodes]
  texts := by
    rw [h.pieces]
    exact Becomes.runs_sublist_all readings h.fits hnodes

theorem Describes.isPlain (h : Describes vocabulary markup readings)
    (hplain : ∀ token ∈ Token.all markup.toList, token.isPlain = true) :
    ∀ reading ∈ readings, IsPlain reading := by
  intro reading hreading piece hpiece
  apply hplain
  rw [Token.all, h.pieces]
  exact List.mem_map_of_mem (mem_piecesOfAll hreading hpiece)

end Reading

end Lint

open Lint (LosesNothing Reading)

/-- If the check has nothing to remark on a markup, the markup is made of elements, and compiling
makes of each the node that says the same exactly if each is read whole.  Then nothing of the markup
is lost.  This is so whenever all tags are plain. -/
theorem compileWith_of_silent (vocabulary : Vocabulary) (markup : String)
    (h : (checkWith vocabulary markup).diagnostics = []) :
    ∃ readings, Reading.Describes vocabulary markup readings ∧
      (List.Forall₂ Reading.Becomes readings (compileWith vocabulary markup) ↔
        ∀ reading ∈ readings, Reading.ReadWhole reading) ∧
      (List.Forall₂ Reading.Becomes readings (compileWith vocabulary markup) →
        LosesNothing markup (compileWith vocabulary markup)) ∧
      ((∀ token ∈ Token.all markup.toList, token.isPlain = true) →
        LosesNothing markup (compileWith vocabulary markup)) := by
  obtain ⟨readings, hreadings⟩ := Lint.exists_describes h
  refine ⟨readings, hreadings, hreadings.becomes_iff, hreadings.losesNothing, ?_⟩
  intro hplain
  have hwhole := Reading.readWholeAll_of_isPlain readings hreadings.fits (hreadings.isPlain hplain)
  exact hreadings.losesNothing (hreadings.becomes_iff.mpr hwhole)

/-- Rows and cells with blanks between them, and with signs in a text that begin no tag. -/
theorem compileWith_of_silent_row :
    (checkWith .standard "<tr>\n<td width=\"3\">a < b</td> <td></td></tr>").diagnostics = [] ∧
    LosesNothing "<tr>\n<td width=\"3\">a < b</td> <td></td></tr>"
      (compileWith .standard "<tr>\n<td width=\"3\">a < b</td> <td></td></tr>") := by
  have hsilent :
      (checkWith .standard "<tr>\n<td width=\"3\">a < b</td> <td></td></tr>").diagnostics = [] := by
    decide +kernel
  obtain ⟨-, -, -, -, hplain⟩ := compileWith_of_silent .standard _ hsilent
  exact ⟨hsilent, hplain (by decide +kernel)⟩

-- The tags in their order do not show how they are nested.  Here they come in the same order from
-- both readings, but to the check it is one row, and compiling ends that row in the second cell.
example :
    (checkWith .standard "<tr><td></td><td </tr></td <td><td></td></tr </td>").isEmpty = true ∧
    (compileWith .standard "<tr><td></td><td </tr></td <td><td></td></tr </td>").map Node.name =
      ["tr", "td"] := by
  decide +kernel

/-- A blank in a closing tag is nothing to the check, and compiling drops the element. -/
theorem not_losesNothing_of_silent :
    (checkWith .standard "<td>x</td >").diagnostics = [] ∧
    compileWith .standard "<td>x</td >" = [] ∧
    ¬ LosesNothing "<td>x</td >" (compileWith .standard "<td>x</td >") := by
  have hnodes : compileWith .standard "<td>x</td >" = [] :=
    List.length_eq_zero_iff.mp (by decide +kernel)
  refine ⟨by decide +kernel, hnodes, ?_⟩
  intro h
  have htags : (Lint.openings (Token.split "<td>x</td >".toList).1).length = 0 := by
    rw [← h.tags, hnodes]
    rfl
  exact absurd htags (by decide +kernel)

end Receipt
