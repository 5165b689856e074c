import Mathlib.Data.List.Induction
import Mathlib.Data.List.TakeWhile
import Receipt.Proofs.Lint.Reading

/-!
# Which closing tag closes which opening tag

A closing tag closes the innermost open element of its name, and with it all that are open inside.
This module follows the tags of a markup alone, one after the other, and says for each of them what
becomes of it.

* `PlacedTag` is a tag with its place, and `placedTags` are those of a markup.
* `Pairing.ofTags` pairs the tags.
* `Pairing.Covers`: every opening tag is in one pair or is left unclosed, and every closing tag is
  in one pair, after an opening tag of its name, or is left unmatched.
* `WellNested`: the tags are those of elements that stand in each other and after each other.
* `Reading.placed`: elements with their tags, and `Pairing.foldl_take_piecesOfAll`: these tags are
  the pairs.
* `Pairing.wellNested_iff`: tags are well nested exactly if none is left over.
-/

namespace Receipt.Lint

open Markup (OpenTag Token)
open Reading (opening closing piecesOfAll)

/-! ## Tags in their places -/

/-- A tag, with the markup before it. -/
structure PlacedTag where
  before : List Char
  token : Token
deriving DecidableEq

namespace PlacedTag

/-- The name of the tag. -/
def name (tag : PlacedTag) : String := String.ofList tag.token.tag.name

/-- Where the tag stands. -/
def location (tag : PlacedTag) : Location := Location.after {} tag.before

/-- How many characters stand before the tag. -/
def offset (tag : PlacedTag) : Nat := tag.before.length

end PlacedTag

/-- The tags of pieces of a markup that come after `before`. -/
def placedFrom (before : List Char) : List (List Char × Token) → List PlacedTag
  | [] => []
  | (gap, token) :: pieces =>
    ⟨before ++ gap, token⟩ :: placedFrom (before ++ gap ++ token.write) pieces

/-- The tags of a markup. -/
def placedTags (markup : String) : List PlacedTag :=
  placedFrom [] (Token.split markup.toList).1

theorem map_token_placedFrom (before : List Char) (pieces : List (List Char × Token)) :
    (placedFrom before pieces).map (·.token) = pieces.map Prod.snd := by
  induction pieces generalizing before with
  | nil => rfl
  | cons piece pieces ih => rw [placedFrom, List.map_cons, List.map_cons, ih]

theorem placedFrom_append (before : List Char) (first second : List (List Char × Token)) :
    placedFrom before (first ++ second) =
      placedFrom before first ++ placedFrom (before ++ Token.writePieces first) second := by
  induction first generalizing before with
  | nil => rw [Token.writePieces_nil, List.append_nil, placedFrom, List.nil_append, List.nil_append]
  | cons piece first ih =>
    rw [List.cons_append, placedFrom, placedFrom, ih, Token.writePieces_cons, List.cons_append,
      List.append_assoc, List.append_assoc, List.append_assoc]

theorem length_le_offset {before : List Char} {pieces : List (List Char × Token)} {tag : PlacedTag}
    (h : tag ∈ placedFrom before pieces) : before.length ≤ tag.offset := by
  induction pieces generalizing before with
  | nil => exact absurd h List.not_mem_nil
  | cons piece pieces ih =>
    rcases List.mem_cons.mp h with rfl | hrest
    · rw [PlacedTag.offset, List.length_append]
      exact Nat.le_add_right _ _
    · have hle := ih hrest
      rw [List.length_append, List.length_append] at hle
      omega

/-- The tags come in the order in which they stand. -/
theorem pairwise_offset (before : List Char) (pieces : List (List Char × Token)) :
    (placedFrom before pieces).Pairwise fun first second => first.offset < second.offset := by
  induction pieces generalizing before with
  | nil => exact List.Pairwise.nil
  | cons piece pieces ih =>
    refine List.Pairwise.cons (fun tag htag => ?_) (ih _)
    have hle := length_le_offset htag
    have hpos := piece.2.length_write_pos
    show (before ++ piece.1).length < tag.offset
    rw [List.length_append] at hle
    omega

/-- The opening tags. -/
def openingTags (tags : List PlacedTag) : List PlacedTag :=
  tags.filter fun tag => !tag.token.closes

/-- The closing tags. -/
def closingTags (tags : List PlacedTag) : List PlacedTag :=
  tags.filter (·.token.closes)

theorem openingTags_concat (tags : List PlacedTag) (tag : PlacedTag) :
    openingTags (tags ++ [tag]) =
      if tag.token.closes then openingTags tags else openingTags tags ++ [tag] := by
  rw [openingTags, List.filter_append]
  cases htag : tag.token.closes with
  | true =>
    rw [List.filter_cons_of_neg (by simp [htag]), List.filter_nil, List.append_nil]
    rfl
  | false =>
    rw [List.filter_cons_of_pos (by simp [htag])]
    rfl

theorem closingTags_concat (tags : List PlacedTag) (tag : PlacedTag) :
    closingTags (tags ++ [tag]) =
      if tag.token.closes then closingTags tags ++ [tag] else closingTags tags := by
  rw [closingTags, List.filter_append]
  cases htag : tag.token.closes with
  | true =>
    rw [List.filter_cons_of_pos (by simp [htag])]
    rfl
  | false =>
    rw [List.filter_cons_of_neg (by simp [htag]), List.filter_nil, List.append_nil]
    rfl

/-! ## Pairing -/

/-- What has become of the tags that were read. -/
structure Pairing where
  /-- The opening tags that may still be closed, the innermost first. -/
  stack : List PlacedTag := []
  /-- Opening tags, each with the tag that closed it. -/
  pairs : List (PlacedTag × PlacedTag) := []
  /-- Opening tags that were given up when an element around them was closed. -/
  givenUp : List PlacedTag := []
  /-- Closing tags that had nothing to close. -/
  unmatched : List PlacedTag := []

namespace Pairing

/-- The pairing with one tag more. -/
def take (pairing : Pairing) (tag : PlacedTag) : Pairing :=
  if tag.token.closes then
    match pairing.stack.dropWhile (·.name != tag.name) with
    | [] => { pairing with unmatched := pairing.unmatched ++ [tag] }
    | opened :: outer =>
      { pairing with
        stack := outer
        pairs := pairing.pairs ++ [(opened, tag)]
        givenUp := pairing.givenUp ++ pairing.stack.takeWhile (·.name != tag.name) }
  else { pairing with stack := tag :: pairing.stack }

/-- The pairing of all tags. -/
def ofTags (tags : List PlacedTag) : Pairing :=
  tags.foldl take {}

/-- The opening tags without a closing tag. -/
def unclosed (pairing : Pairing) : List PlacedTag :=
  pairing.givenUp ++ pairing.stack

/-- What a tag does.  An opening tag is put on the stack.  A closing tag takes the innermost opening
tag of its name from the stack, and gives up those inside; if there is none, it is unmatched. -/
inductive Takes (pairing : Pairing) (tag : PlacedTag) : Pairing → Prop
  | opens (htag : tag.token.closes = false) :
      Takes pairing tag { pairing with stack := tag :: pairing.stack }
  | closes {inner outer : List PlacedTag} {opened : PlacedTag} (htag : tag.token.closes = true)
      (hstack : pairing.stack = inner ++ opened :: outer)
      (hinner : ∀ other ∈ inner, other.name ≠ tag.name) (hname : opened.name = tag.name) :
      Takes pairing tag
        { pairing with
          stack := outer
          pairs := pairing.pairs ++ [(opened, tag)]
          givenUp := pairing.givenUp ++ inner }
  | unmatched (htag : tag.token.closes = true)
      (hstack : ∀ other ∈ pairing.stack, other.name ≠ tag.name) :
      Takes pairing tag { pairing with unmatched := pairing.unmatched ++ [tag] }

theorem takes_take (pairing : Pairing) (tag : PlacedTag) :
    Takes pairing tag (pairing.take tag) := by
  rw [take]
  cases htag : tag.token.closes with
  | false => exact .opens htag
  | true =>
    have hsplit := List.takeWhile_append_dropWhile (p := (·.name != tag.name)) (l := pairing.stack)
    have hinner : ∀ other ∈ pairing.stack.takeWhile (·.name != tag.name), other.name ≠ tag.name :=
      fun other hother => by simpa using List.mem_takeWhile_imp hother
    cases hdrop : pairing.stack.dropWhile (·.name != tag.name) with
    | nil =>
      rw [hdrop, List.append_nil] at hsplit
      rw [hsplit] at hinner
      exact .unmatched htag hinner
    | cons opened outer =>
      rw [hdrop] at hsplit
      have hname : opened.name = tag.name := by
        have hhead := List.head?_dropWhile_not (·.name != tag.name) pairing.stack
        rw [hdrop] at hhead
        simpa using hhead
      exact .closes htag hsplit.symm hinner hname

/-! ## Every tag has its place -/

/-- What a pairing says of the tags that were read. -/
structure Covers (pairing : Pairing) (tags : List PlacedTag) : Prop where
  openings : (openingTags tags).Perm (pairing.pairs.map Prod.fst ++ pairing.unclosed)
  closings : (closingTags tags).Perm (pairing.pairs.map Prod.snd ++ pairing.unmatched)
  pairs : ∀ pair ∈ pairing.pairs, pair.1.name = pair.2.name ∧ pair.1.offset < pair.2.offset

namespace Covers

variable {pairing pairing' : Pairing} {tags : List PlacedTag} {tag : PlacedTag}

/-- A tag that is still open was read. -/
theorem mem_of_mem_stack (h : pairing.Covers tags) {opened : PlacedTag}
    (hopened : opened ∈ pairing.stack) : opened ∈ tags := by
  have hmem := h.openings.mem_iff.mpr
    (List.mem_append_right _ (List.mem_append_right pairing.givenUp hopened))
  exact (List.mem_filter.mp hmem).1

/-- One tag more. -/
theorem take (h : pairing.Covers tags) (htags : ∀ other ∈ tags, other.offset < tag.offset)
    (htakes : Takes pairing tag pairing') : pairing'.Covers (tags ++ [tag]) := by
  cases htakes with
  | opens htag =>
    have hneg : ¬ tag.token.closes = true := by simp [htag]
    refine ⟨?_, ?_, h.pairs⟩
    · rw [openingTags_concat, if_neg hneg]
      refine (List.perm_append_singleton tag _).trans ((h.openings.cons tag).trans ?_)
      rw [unclosed, unclosed, ← List.append_assoc, ← List.append_assoc]
      exact List.perm_middle.symm
    · rw [closingTags_concat, if_neg hneg]
      exact h.closings
  | @closes inner outer opened htag hsplit hinner hname =>
    have hopened : opened ∈ pairing.stack := by
      rw [hsplit]
      exact List.mem_append_right inner List.mem_cons_self
    refine ⟨?_, ?_, fun pair hpair => ?_⟩
    · have hmiddle : (pairing.givenUp ++ (inner ++ opened :: outer)).Perm
          (opened :: (pairing.givenUp ++ inner ++ outer)) := by
        rw [← List.append_assoc]
        exact List.perm_middle
      rw [openingTags_concat, if_pos htag]
      refine h.openings.trans ?_
      rw [unclosed, hsplit, List.map_append, List.append_assoc]
      exact hmiddle.append_left _
    · rw [closingTags_concat, if_pos htag, List.map_append, List.append_assoc]
      refine (List.perm_append_singleton tag _).trans ((h.closings.cons tag).trans ?_)
      exact List.perm_middle.symm
    · rcases List.mem_append.mp hpair with hold | hnew
      · exact h.pairs pair hold
      · rw [List.mem_singleton.mp hnew]
        exact ⟨hname, htags opened (h.mem_of_mem_stack hopened)⟩
  | unmatched htag hnone =>
    refine ⟨?_, ?_, h.pairs⟩
    · rw [openingTags_concat, if_pos htag]
      exact h.openings
    · rw [closingTags_concat, if_pos htag, ← List.append_assoc]
      exact h.closings.append_right [tag]

end Covers

/-- Every tag is covered once all are paired, provided that they come in order. -/
theorem covers_ofTags {tags : List PlacedTag}
    (h : tags.Pairwise fun first second => first.offset < second.offset) :
    (ofTags tags).Covers tags := by
  induction tags using List.reverseRecOn with
  | nil => exact ⟨List.Perm.nil, List.Perm.nil, by simp [ofTags]⟩
  | append_singleton tags tag ih =>
    obtain ⟨hbefore, -, hlast⟩ := List.pairwise_append.mp h
    rw [ofTags, List.foldl_append]
    have htags : ∀ other ∈ tags, other.offset < tag.offset := fun other hother =>
      hlast other hother tag (List.mem_singleton_self tag)
    exact (ih hbefore).take htags (takes_take _ tag)

/-- The cell is given up when the row around it is closed. -/
example :
    let pairing := ofTags (placedTags "<tr><td></tr></table>")
    (pairing.pairs.map fun pair => (pair.1.offset, pair.2.offset)) = [(0, 8)] ∧
      pairing.unclosed.map (·.name) = ["td"] ∧ pairing.unmatched.map (·.name) = ["table"] := by
  decide +kernel

end Pairing

/-! ## Well-nested tags -/

/-- The tokens of elements, each of which is closed by a tag of its own name. -/
inductive WellNested : List Token → Prop
  | nil : WellNested []
  | element {inner rest : List Token} (tag : OpenTag) (ending : List Char)
      (hinner : WellNested inner) (hrest : WellNested rest) :
      WellNested (opening tag :: (inner ++ closing tag.name ending :: rest))

theorem WellNested.append {first second : List Token} (hfirst : WellNested first)
    (hsecond : WellNested second) : WellNested (first ++ second) := by
  induction hfirst with
  | nil => exact hsecond
  | @element inner rest tag ending hinner hrest ihInner ihRest =>
    rw [List.cons_append, List.append_assoc, List.cons_append]
    exact .element tag ending hinner ihRest

/-- The tokens of elements, and between them the tags that are still open, the last of which is the
innermost. -/
inductive Opened : List PlacedTag → List Token → Prop
  | outside {tokens : List Token} (h : WellNested tokens) : Opened [] tokens
  | inside {stack : List PlacedTag} {tokens inner : List Token} (opened : PlacedTag)
      (hopens : opened.token.closes = false) (h : Opened stack tokens) (hinner : WellNested inner) :
      Opened (opened :: stack) (tokens ++ opened.token :: inner)

namespace Opened

variable {stack : List PlacedTag} {tokens more : List Token}

theorem append (h : Opened stack tokens) (hmore : WellNested more) :
    Opened stack (tokens ++ more) := by
  cases h with
  | outside h => exact .outside (h.append hmore)
  | inside opened hopens h hinner =>
    rw [List.append_assoc, List.cons_append]
    exact .inside opened hopens h (hinner.append hmore)

/-- The innermost element is closed. -/
theorem close {tag opened : PlacedTag} (h : Opened (opened :: stack) tokens)
    (htag : tag.token.closes = true) (hname : opened.name = tag.name) :
    Opened stack (tokens ++ [tag.token]) := by
  cases h with
  | @inside _ tokens inner _ hopens h hinner =>
    have hopening : opened.token = opening opened.token.tag := by rw [opening, ← hopens]
    have hclosing : tag.token = closing opened.token.tag.name tag.token.tag.attrs := by
      have hchars : opened.token.tag.name = tag.token.tag.name := String.ofList_injective hname
      rw [closing, hchars, ← htag]
    have helement := WellNested.element opened.token.tag tag.token.tag.attrs hinner .nil
    rw [← hopening, ← hclosing] at helement
    rw [List.append_assoc, List.cons_append]
    exact h.append helement

end Opened

namespace Pairing

variable {pairing pairing' : Pairing} {tags : List PlacedTag} {tag : PlacedTag}

/-- Nothing was given up and nothing is unmatched. -/
structure Clean (pairing : Pairing) : Prop where
  givenUp : pairing.givenUp = []
  unmatched : pairing.unmatched = []

/-- As long as nothing is left over, the tags are those of elements and of what is still open. -/
theorem opened_take {tokens : List Token} (h : pairing.Clean → Opened pairing.stack tokens)
    (htakes : Takes pairing tag pairing') (hclean : pairing'.Clean) :
    Opened pairing'.stack (tokens ++ [tag.token]) := by
  obtain ⟨hgivenUp, hunmatched⟩ := hclean
  -- as nothing is left over now, nothing was before, and a closing tag meets its element on top
  cases htakes with
  | opens htag => exact .inside tag htag (h ⟨hgivenUp, hunmatched⟩) .nil
  | @closes inner outer opened htag hsplit hinner hname =>
    obtain ⟨hbefore, rfl⟩ := List.append_eq_nil_iff.mp hgivenUp
    have hopened := h ⟨hbefore, hunmatched⟩
    rw [hsplit, List.nil_append] at hopened
    exact hopened.close htag hname
  | unmatched htag hnone => exact absurd hunmatched (by simp)

theorem opened_ofTags (tags : List PlacedTag) :
    (ofTags tags).Clean → Opened (ofTags tags).stack (tags.map (·.token)) := by
  induction tags using List.reverseRecOn with
  | nil => exact fun _ => .outside .nil
  | append_singleton tags tag ih =>
    rw [List.map_append, ofTags, List.foldl_append]
    exact opened_take ih (takes_take _ tag)

/-- The innermost element is closed by a tag of its name. -/
theorem take_close {opened : PlacedTag} {outer : List PlacedTag} (htag : tag.token.closes = true)
    (hstack : pairing.stack = opened :: outer) (hname : opened.name = tag.name) :
    pairing.take tag =
      { pairing with stack := outer, pairs := pairing.pairs ++ [(opened, tag)] } := by
  have hdrop : (opened :: outer).dropWhile (·.name != tag.name) = opened :: outer :=
    List.dropWhile_cons_of_neg (by simp [hname])
  have htake : (opened :: outer).takeWhile (·.name != tag.name) = [] :=
    List.takeWhile_cons_of_neg (by simp [hname])
  rw [take, if_pos htag]
  simp only [hstack, hdrop, htake, List.append_nil]

end Pairing

/-! ## Elements -/

/-- Pieces whose tokens are well nested are those of elements. -/
theorem exists_readings {tokens : List Token} (h : WellNested tokens)
    {pieces : List (List Char × Token)} (hpieces : pieces.map Prod.snd = tokens) :
    ∃ readings, pieces = piecesOfAll readings := by
  induction h generalizing pieces with
  | nil => exact ⟨[], List.map_eq_nil_iff.mp hpieces⟩
  | @element inner rest tag ending hinner hrest ihInner ihRest =>
    obtain ⟨⟨gap, opened⟩, pieces, rfl, hopened, hafter⟩ := List.map_eq_cons_iff.mp hpieces
    obtain ⟨innerPieces, pieces, rfl, hinnerPieces, hafter⟩ := List.map_eq_append_iff.mp hafter
    obtain ⟨⟨last, closed⟩, restPieces, rfl, hclosed, hrestPieces⟩ :=
      List.map_eq_cons_iff.mp hafter
    obtain ⟨children, rfl⟩ := ihInner hinnerPieces
    obtain ⟨readings, rfl⟩ := ihRest hrestPieces
    refine ⟨.branch gap tag children last ending :: readings, ?_⟩
    rw [piecesOfAll, Reading.pieces, List.cons_append, List.append_assoc, ← hopened, ← hclosed]
    rfl

mutual

theorem wellNested_pieces (reading : Reading) : WellNested (reading.pieces.map Prod.snd) := by
  cases reading with
  | leaf gap tag text ending => exact .element tag ending .nil .nil
  | branch gap tag children last ending =>
    rw [Reading.pieces, List.map_cons, List.map_append]
    exact .element tag ending (wellNested_piecesOfAll children) .nil

/-- The tokens of elements are well nested. -/
theorem wellNested_piecesOfAll (readings : List Reading) :
    WellNested ((piecesOfAll readings).map Prod.snd) := by
  cases readings with
  | nil => exact .nil
  | cons reading readings =>
    rw [piecesOfAll, List.map_append]
    exact (wellNested_pieces reading).append (wellNested_piecesOfAll readings)

end

/-- An element with its tags. -/
structure PlacedElement where
  opened : PlacedTag
  closed : PlacedTag
  reading : Reading

namespace Reading

mutual

/-- An element and those inside it, in the order in which they are closed. -/
def placed (before : List Char) : Reading → List PlacedElement
  | leaf gap tag text ending =>
    let inside := before ++ gap ++ (opening tag).write
    [⟨⟨before ++ gap, opening tag⟩, ⟨inside ++ text, closing tag.name ending⟩,
      leaf gap tag text ending⟩]
  | branch gap tag children last ending =>
    let inside := before ++ gap ++ (opening tag).write
    placedAll inside children ++
      [⟨⟨before ++ gap, opening tag⟩,
        ⟨inside ++ Token.writePieces (piecesOfAll children) ++ last, closing tag.name ending⟩,
        branch gap tag children last ending⟩]

/-- The same for several elements that stand after each other. -/
def placedAll (before : List Char) : List Reading → List PlacedElement
  | [] => []
  | reading :: readings =>
    placed before reading ++ placedAll (before ++ Token.writePieces reading.pieces) readings

end

end Reading

namespace Pairing

/-- The pairing with the tags of elements. -/
def addElements (pairing : Pairing) (elements : List PlacedElement) : Pairing :=
  { pairing with
    pairs := pairing.pairs ++ elements.map fun element => (element.opened, element.closed) }

theorem addElements_nil (pairing : Pairing) : pairing.addElements [] = pairing := by
  rw [addElements, List.map_nil, List.append_nil]

theorem addElements_append (pairing : Pairing) (first second : List PlacedElement) :
    pairing.addElements (first ++ second) = (pairing.addElements first).addElements second := by
  rw [addElements, addElements, addElements, List.map_append, List.append_assoc]

/-- The tags of an element make a pair, if those between them do. -/
theorem take_element (pairing : Pairing) (elements : List PlacedElement) (element : PlacedElement)
    (hcloses : element.closed.token.closes = true)
    (hname : element.opened.name = element.closed.name) :
    ({ pairing with stack := element.opened :: pairing.stack }.addElements elements).take
        element.closed =
      pairing.addElements (elements ++ [element]) := by
  rw [addElements_append]
  exact take_close hcloses rfl hname

mutual

theorem foldl_take_pieces (pairing : Pairing) (before : List Char) (reading : Reading) :
    (placedFrom before reading.pieces).foldl take pairing =
      pairing.addElements (reading.placed before) := by
  cases reading with
  | leaf gap tag text ending =>
    let element : PlacedElement :=
      ⟨⟨before ++ gap, opening tag⟩,
        ⟨before ++ gap ++ (opening tag).write ++ text, closing tag.name ending⟩,
        .leaf gap tag text ending⟩
    have helement := take_element pairing [] element rfl rfl
    rw [addElements_nil] at helement
    exact helement
  | branch gap tag children last ending =>
    let inside := before ++ gap ++ (opening tag).write
    let element : PlacedElement :=
      ⟨⟨before ++ gap, opening tag⟩,
        ⟨inside ++ Token.writePieces (piecesOfAll children) ++ last, closing tag.name ending⟩,
        .branch gap tag children last ending⟩
    rw [Reading.pieces, placedFrom, placedFrom_append, List.foldl_cons, List.foldl_append,
      foldl_take_piecesOfAll _ inside children]
    exact take_element pairing (Reading.placedAll inside children) element rfl rfl

/-- The pairs of elements are their tags, and nothing is left over. -/
theorem foldl_take_piecesOfAll (pairing : Pairing) (before : List Char) (readings : List Reading) :
    (placedFrom before (piecesOfAll readings)).foldl take pairing =
      pairing.addElements (Reading.placedAll before readings) := by
  cases readings with
  | nil => exact (addElements_nil pairing).symm
  | cons reading readings =>
    rw [piecesOfAll, placedFrom_append, List.foldl_append, foldl_take_pieces,
      foldl_take_piecesOfAll _ _ readings, Reading.placedAll, addElements_append]

end

/-- Tags are well nested exactly if none is left without another. -/
theorem wellNested_iff (before : List Char) (pieces : List (List Char × Token)) :
    WellNested (pieces.map Prod.snd) ↔
      (ofTags (placedFrom before pieces)).unclosed = [] ∧
        (ofTags (placedFrom before pieces)).unmatched = [] := by
  rw [unclosed, List.append_eq_nil_iff]
  constructor
  · intro h
    obtain ⟨readings, rfl⟩ := exists_readings h rfl
    rw [ofTags, foldl_take_piecesOfAll]
    exact ⟨⟨rfl, rfl⟩, rfl⟩
  · rintro ⟨⟨hgivenUp, hstack⟩, hunmatched⟩
    have hopened := opened_ofTags (placedFrom before pieces) ⟨hgivenUp, hunmatched⟩
    rw [hstack, map_token_placedFrom] at hopened
    cases hopened with
    | outside h => exact h

end Pairing

end Receipt.Lint
