import Mathlib.Data.List.Forall2
import Receipt.Proofs.Compile.Plain
import Receipt.Proofs.Text.Places
import Receipt.Proofs.Tree

/-!
# Where a document comes from

Compiling cuts a text into smaller and smaller parts, and counts anew in each of them.  Counted in
the whole text, every node stands where its element is written, the nodes inside it stand between
its two tags, and what stands behind a node comes after it in the document.  So the texts of a
document are parts of its markup, in the order in which they stand there, and no part is used twice.

* `Extent`: where the two tags of an element stand, and what is inside.
* `Extent.InOrder`: extents that follow each other between two places.
* `Node.Stands`: a node and its extent, with the extents of all nodes inside it.
* `Node.StandWithin`: nodes that stand between two places, in order.
* `Node.standWithin_leavesOfAll`: the leaves of such nodes stand there, too.
* `Outline.standWithin_plainNodes`: the nodes of a part of a text stand in that part.
* `stands_compileWith`: both of any markup.
-/

namespace Receipt

open Markup (OpenTag Outline Element closeTag containsTag)
open Text (StandsAt)

/-! ## Extents -/

/-- Where an element stands in a text: the bytes before its opening tag, before what is inside,
before its close, and before what follows it. -/
structure Extent where
  start : Nat
  inside : Nat
  close : Nat
  stop : Nat

namespace Extent

variable {text inner : List Char} {tag : OpenTag} {extent : Extent}
  {extents first second : List Extent} {start middle stop : Nat}

/-- An element of a text is written there: its opening tag, what is inside, and its close. -/
structure Holds (text : List Char) (extent : Extent) (tag : OpenTag) (inner : List Char) :
    Prop where
  wellFormed : tag.WellFormed
  opening : StandsAt text tag.write extent.start extent.inside
  inner : StandsAt text inner extent.inside extent.close
  closing : StandsAt text (closeTag tag.name) extent.close extent.stop

theorem Holds.start_lt (h : extent.Holds text tag inner) : extent.start < extent.inside :=
  h.opening.start_lt (by simp [OpenTag.write])

theorem Holds.close_lt (h : extent.Holds text tag inner) : extent.close < extent.stop :=
  h.closing.start_lt (Markup.closeTag_ne_nil tag.name)

theorem Holds.start_le_stop (h : extent.Holds text tag inner) : extent.start ≤ extent.stop := by
  have hopening := h.start_lt
  have hinner := h.inner.start_le
  have hclosing := h.close_lt
  omega

/-- Where an element stands behind a text. -/
def behind (before : List Char) (tag : OpenTag) (inner : List Char) : Extent where
  start := Text.Utf8.length before
  inside := Text.Utf8.length (before ++ tag.write)
  close := Text.Utf8.length (before ++ tag.write ++ inner)
  stop := Text.Utf8.length (before ++ tag.write ++ inner ++ closeTag tag.name)

theorem holds_behind (htag : tag.WellFormed) (before inner after : List Char) :
    (behind before tag inner).Holds (before ++ tag.write ++ inner ++ closeTag tag.name ++ after) tag
      inner where
  wellFormed := htag
  opening := ⟨before, inner ++ closeTag tag.name ++ after, by simp only [List.append_assoc], rfl,
    (Text.Utf8.length_append _ _).symm⟩
  inner := ⟨before ++ tag.write, closeTag tag.name ++ after, by simp only [List.append_assoc], rfl,
    (Text.Utf8.length_append _ _).symm⟩
  closing := ⟨before ++ tag.write ++ inner, after, rfl, rfl, (Text.Utf8.length_append _ _).symm⟩

/-- Elements follow each other between two places of a text. -/
structure InOrder (start stop : Nat) (extents : List Extent) : Prop where
  within : ∀ extent ∈ extents, start ≤ extent.start ∧ extent.stop ≤ stop
  follow : extents.Pairwise fun earlier later => earlier.stop ≤ later.start

theorem inOrder_nil (start stop : Nat) : InOrder start stop [] :=
  ⟨fun _ hextent => absurd hextent List.not_mem_nil, List.Pairwise.nil⟩

theorem inOrder_singleton (extent : Extent) : InOrder extent.start extent.stop [extent] :=
  ⟨List.forall_mem_singleton.mpr ⟨Nat.le_refl _, Nat.le_refl _⟩, List.pairwise_singleton _ _⟩

theorem InOrder.widen {start' stop' : Nat} (h : InOrder start stop extents)
    (hstart : start' ≤ start) (hstop : stop ≤ stop') : InOrder start' stop' extents := by
  refine ⟨fun extent hextent => ?_, h.follow⟩
  obtain ⟨hfrom, hto⟩ := h.within extent hextent
  exact ⟨Nat.le_trans hstart hfrom, Nat.le_trans hto hstop⟩

theorem InOrder.append (hfirst : InOrder start middle first) (hsecond : InOrder middle stop second)
    (hstart : start ≤ middle) (hstop : middle ≤ stop) : InOrder start stop (first ++ second) where
  within := List.forall_mem_append.mpr
    ⟨(hfirst.widen start.le_refl hstop).within, (hsecond.widen hstart stop.le_refl).within⟩
  follow := by
    refine List.pairwise_append.mpr ⟨hfirst.follow, hsecond.follow, ?_⟩
    intro earlier hearlier later hlater
    exact Nat.le_trans (hfirst.within earlier hearlier).2 (hsecond.within later hlater).1

theorem InOrder.tail (h : InOrder start stop (extent :: extents)) :
    InOrder extent.stop stop extents := by
  obtain ⟨hbehind, hfollow⟩ := List.pairwise_cons.mp h.follow
  refine ⟨fun later hlater => ⟨hbehind later hlater, ?_⟩, hfollow⟩
  exact (h.within later (List.mem_cons_of_mem _ hlater)).2

end Extent

/-! ## Nodes -/

namespace Node

mutual

/-- The leaves of a node, in order. -/
def leaves : Node → List Node
  | leaf name props text => [leaf name props text]
  | branch _ _ children => leavesOfAll children

/-- The leaves of several nodes, in order. -/
def leavesOfAll : List Node → List Node
  | [] => []
  | node :: nodes => leaves node ++ leavesOfAll nodes

end

mutual

/-- The leaves of a node hold its texts. -/
theorem map_content_leaves (node : Node) :
    (leaves node).map content = (leafTexts node).map Content.text := by
  cases node with
  | leaf name props text => rfl
  | branch name props children => exact map_content_leavesOfAll children

/-- The leaves of several nodes hold their texts. -/
theorem map_content_leavesOfAll (nodes : List Node) :
    (leavesOfAll nodes).map content = (leafTextsOfAll nodes).map Content.text := by
  cases nodes with
  | nil => rfl
  | cons node nodes =>
    rw [leavesOfAll, leafTextsOfAll, List.map_append, List.map_append, map_content_leaves node,
      map_content_leavesOfAll nodes]

end

/-- A node stands where an element is written whose tag gives the name and the props.  A leaf holds
what is inside, and there is no opening tag in it.  The nodes that a branch holds stand there, in
order. -/
inductive Stands (text : List Char) : Node → Extent → Prop
  | leaf {extent : Extent} {tag : OpenTag} {inner : List Char} (holds : extent.Holds text tag inner)
      (hplain : Markup.Untagged inner) :
      Stands text (leaf tag.nodeName tag.nodeProps (String.ofList inner)) extent
  | branch {extent : Extent} {tag : OpenTag} {inner : List Char}
      (holds : extent.Holds text tag inner)
      {children : List Node} {extents : List Extent}
      (hchildren : List.Forall₂ (Stands text) children extents)
      (horder : Extent.InOrder extent.inside extent.close extents) :
      Stands text (branch tag.nodeName tag.nodeProps children) extent

/-- Nodes stand between two places of a text, in order. -/
def StandWithin (text : List Char) (start stop : Nat) (nodes : List Node) : Prop :=
  ∃ extents, List.Forall₂ (Stands text) nodes extents ∧ Extent.InOrder start stop extents

variable {text : List Char} {node : Node} {nodes first second : List Node} {extent : Extent}
  {extents : List Extent} {start middle stop : Nat}

theorem Stands.exists_holds (h : Stands text node extent) :
    ∃ tag inner, extent.Holds text tag inner := by
  cases h with
  | leaf holds _ => exact ⟨_, _, holds⟩
  | branch holds _ _ => exact ⟨_, _, holds⟩

theorem standWithin_nil (text : List Char) (start stop : Nat) : StandWithin text start stop [] :=
  ⟨[], .nil, Extent.inOrder_nil start stop⟩

theorem Stands.standWithin (h : Stands text node extent) :
    StandWithin text extent.start extent.stop [node] :=
  ⟨[extent], .cons h .nil, Extent.inOrder_singleton extent⟩

theorem StandWithin.widen {start' stop' : Nat} (h : StandWithin text start stop nodes)
    (hstart : start' ≤ start) (hstop : stop ≤ stop') : StandWithin text start' stop' nodes := by
  obtain ⟨extents, hextents, horder⟩ := h
  exact ⟨extents, hextents, horder.widen hstart hstop⟩

theorem StandWithin.append (hfirst : StandWithin text start middle first)
    (hsecond : StandWithin text middle stop second) (hstart : start ≤ middle)
    (hstop : middle ≤ stop) : StandWithin text start stop (first ++ second) := by
  obtain ⟨_, hfirst, hfirstOrder⟩ := hfirst
  obtain ⟨_, hsecond, hsecondOrder⟩ := hsecond
  exact ⟨_, List.rel_append hfirst hsecond, hfirstOrder.append hsecondOrder hstart hstop⟩

/-- The first of several nodes, and the others behind it. -/
theorem StandWithin.exists_of_cons (h : StandWithin text start stop (node :: nodes)) :
    ∃ extent, Stands text node extent ∧ start ≤ extent.start ∧ extent.stop ≤ stop ∧
      StandWithin text extent.stop stop nodes := by
  obtain ⟨_, hextents, horder⟩ := h
  cases hextents with
  | @cons _ extent _ extents hnode hnodes =>
    obtain ⟨hstart, hstop⟩ := horder.within extent List.mem_cons_self
    exact ⟨extent, hnode, hstart, hstop, extents, hnodes, horder.tail⟩

mutual

/-- The leaves of a node stand where the node does. -/
theorem standWithin_leaves (node : Node) {extent : Extent} (h : Stands text node extent) :
    StandWithin text extent.start extent.stop (leaves node) := by
  cases node with
  | leaf name props inner => exact h.standWithin
  | branch name props children =>
    cases h with
    | branch holds hchildren horder =>
      exact (standWithin_leavesOfAll children ⟨_, hchildren, horder⟩).widen
        (Nat.le_of_lt holds.start_lt) (Nat.le_of_lt holds.close_lt)

/-- The leaves of several nodes stand where the nodes do. -/
theorem standWithin_leavesOfAll (nodes : List Node) {start stop : Nat}
    (h : StandWithin text start stop nodes) : StandWithin text start stop (leavesOfAll nodes) := by
  cases nodes with
  | nil => exact standWithin_nil text start stop
  | cons node nodes =>
    obtain ⟨extent, hnode, hstart, hstop, hnodes⟩ := h.exists_of_cons
    obtain ⟨_, _, holds⟩ := hnode.exists_holds
    have hfirst := (standWithin_leaves node hnode).widen hstart (Nat.le_refl _)
    exact hfirst.append (standWithin_leavesOfAll nodes hnodes)
      (Nat.le_trans hstart holds.start_le_stop) hstop

end

/-- What is inside one node ends before what is inside the next begins, even if there is nothing. -/
theorem pairwise_close_lt (h : List.Forall₂ (Stands text) nodes extents)
    (horder : Extent.InOrder start stop extents) :
    extents.Pairwise fun earlier later => earlier.close < later.inside := by
  have hholds : ∀ extent ∈ extents, ∃ tag inner, extent.Holds text tag inner := by
    clear horder
    induction h with
    | nil => exact fun extent hextent => absurd hextent List.not_mem_nil
    | cons hnode _ ih => exact List.forall_mem_cons.mpr ⟨hnode.exists_holds, ih⟩
  refine horder.follow.imp_of_mem fun {earlier later} hearlier hlater hle => ?_
  obtain ⟨_, _, holds⟩ := hholds earlier hearlier
  obtain ⟨_, _, holds'⟩ := hholds later hlater
  exact Nat.lt_of_lt_of_le holds.close_lt (Nat.le_trans hle (Nat.le_of_lt holds'.start_lt))

/-- The texts of leaves stand inside of them, and have no opening tags. -/
theorem standsAt_of_map_content_eq {texts : List String}
    (h : List.Forall₂ (Stands text) nodes extents)
    (htexts : nodes.map content = texts.map Content.text) :
    List.Forall₂
      (fun leafText extent => StandsAt text leafText.toList extent.inside extent.close ∧
        Markup.Untagged leafText.toList)
      texts extents := by
  induction h generalizing texts with
  | nil =>
    rw [List.map_nil, eq_comm, List.map_eq_nil_iff] at htexts
    subst htexts
    exact .nil
  | cons hnode _ ih =>
    cases texts with
    | nil => simp at htexts
    | cons leafText texts =>
      rw [List.map_cons, List.map_cons] at htexts
      obtain ⟨hcontent, hrest⟩ := List.cons.inj htexts
      refine .cons ?_ (ih hrest)
      cases hnode with
      | leaf holds hplain =>
        obtain rfl := Content.text.inj hcontent
        rw [String.toList_ofList]
        exact ⟨holds.inner, hplain⟩
      | branch _ _ _ => simp [content] at hcontent

end Node

/-! ## Compiling -/

namespace Markup.Outline

open Node (StandWithin)

variable {vocabulary : Vocabulary} {tag : OpenTag} {before inner after : List Char}

/-- An element becomes a node that stands where the element does, if what is inside becomes nodes
that stand there. -/
theorem standWithin_plainNode (htag : tag.WellFormed)
    (hchildren : StandWithin (before ++ tag.write ++ inner ++ closeTag tag.name ++ after)
      (Text.Utf8.length (before ++ tag.write)) (Text.Utf8.length (before ++ tag.write ++ inner))
      (plainNodes vocabulary (ofText inner))) :
    StandWithin (before ++ tag.write ++ inner ++ closeTag tag.name ++ after)
      (Text.Utf8.length before)
      (Text.Utf8.length (before ++ tag.write ++ inner ++ closeTag tag.name))
      (plainNode vocabulary (ofElement tag inner)).toList := by
  have holds := Extent.holds_behind htag before inner after
  cases hnode : plainNode vocabulary (ofElement tag inner) with
  | none => exact Node.standWithin_nil _ _ _
  | some node =>
    have hstands : Node.Stands (before ++ tag.write ++ inner ++ closeTag tag.name ++ after) node
        (Extent.behind before tag inner) := by
      obtain ⟨-, rfl⟩ := plainNode_eq_some_iff.mp hnode
      rw [ofElement]
      split
      · obtain ⟨extents, hextents, horder⟩ := hchildren
        exact .branch holds hextents horder
      · rename_i hplain
        rw [Bool.not_eq_true] at hplain
        exact .leaf holds (untagged_of_containsTag_eq_false hplain)
    exact hstands.standWithin

/-- The nodes of a part of a text stand in that part.  They are counted from the beginning of the
text, whatever stands before and after the part. -/
theorem standWithin_plainNodes (vocabulary : Vocabulary) (before part after : List Char) :
    StandWithin (before ++ part ++ after) (Text.Utf8.length before)
      (Text.Utf8.length (before ++ part)) (plainNodes vocabulary (ofText part)) := by
  induction hlen : part.length using Nat.strongRecOn generalizing before part after with
  | ind n ih =>
    cases hnext : Element.next? part with
    | none =>
      rw [ofText_of_next?_eq_none hnext]
      exact Node.standWithin_nil _ _ _
    | some found =>
      obtain ⟨element, rest⟩ := found
      obtain ⟨hinner, hrest⟩ := Element.length_lt_of_next? hnext
      obtain ⟨-, -, htag, -⟩ := Element.exists_of_next? hnext
      -- the text, cut around the element and cut around what follows it
      have hcut : before ++ part ++ after = before ++ element.before ++ element.tag.write ++
          element.inner ++ closeTag element.tag.name ++ (rest ++ after) := by
        rw [Element.eq_of_next? hnext]
        simp only [Element.write, List.append_assoc]
      have hstop : before ++ part = before ++ element.before ++ element.tag.write ++
          element.inner ++ closeTag element.tag.name ++ rest := by
        rw [Element.eq_of_next? hnext]
        simp only [Element.write, List.append_assoc]
      have hinside := ih element.inner.length (by omega)
        (before ++ element.before ++ element.tag.write) element.inner
        (closeTag element.tag.name ++ (rest ++ after)) rfl
      rw [← List.append_assoc _ (closeTag element.tag.name)] at hinside
      have helement := standWithin_plainNode htag hinside
      have hbehind := ih rest.length (by omega) (before ++ element.before ++ element.tag.write ++
        element.inner ++ closeTag element.tag.name) rest after rfl
      rw [List.append_assoc _ rest after] at hbehind
      rw [ofText_of_next?_eq_some hnext, plainNodes_cons, hcut, hstop]
      refine (helement.widen ?_ (Nat.le_refl _)).append hbehind ?_ ?_
      · rw [Text.Utf8.length_append]
        exact Nat.le_add_right _ _
      · simp only [Text.Utf8.length_append]
        omega
      · rw [Text.Utf8.length_append _ rest]
        exact Nat.le_add_right _ _

end Markup.Outline

open Node (Stands leavesOfAll leafTextsOfAll)

/-- Where the document of any markup comes from, for any vocabulary.  Its nodes stand in the trimmed
markup, in order, each where the element is written that gives its name and props, and what a node
holds stands between the tags of that element.  So its leaves stand there in the order of the
document, each behind the last, and the text of a leaf, which has no opening tag, is what is written
there from the `>` of its opening tag to its close. -/
theorem stands_compileWith (vocabulary : Vocabulary) (markup : String) :
    let text := Text.trim markup.toList
    let nodes := compileWith vocabulary markup
    (∃ extents, List.Forall₂ (Stands text) nodes extents ∧
      Extent.InOrder 0 (Text.Utf8.length text) extents) ∧
    ∃ extents, List.Forall₂ (Stands text) (leavesOfAll nodes) extents ∧
      (extents.Pairwise fun earlier later => earlier.close < later.inside) ∧
      List.Forall₂
        (fun leafText extent => StandsAt text leafText.toList extent.inside extent.close ∧
          Markup.Untagged leafText.toList)
        (leafTextsOfAll nodes) extents := by
  intro text nodes
  have hnodes : Node.StandWithin text 0 (Text.Utf8.length text) nodes := by
    have hpart := Outline.standWithin_plainNodes vocabulary [] text []
    rw [List.nil_append, List.append_nil] at hpart
    exact hpart
  obtain ⟨extents, hleaves, horder⟩ := Node.standWithin_leavesOfAll nodes hnodes
  exact ⟨hnodes, extents, hleaves, Node.pairwise_close_lt hleaves horder,
    Node.standsAt_of_map_content_eq hleaves (Node.map_content_leavesOfAll nodes)⟩

/-- What is between two elements is in no leaf.  A leaf keeps its blanks, and an empty one stands
somewhere, too. -/
example : leafTextsOfAll (compileWith .standard " <tr>a<td> b </td>c<td></td></tr>d</td>") =
    [" b ", ""] := by
  decide +kernel

end Receipt
