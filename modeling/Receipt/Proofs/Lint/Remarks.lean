import Receipt.Proofs.Lint.Errors

/-!
# The warnings and the notes of any markup

The check keeps the elements that are open, each with the place of its opening tag and with what was
noted in it.  This module follows it beside the pairing of the tags, as `Receipt.Proofs.Lint.Errors`
does, and now keeps all of that.

* `anyIn` looks for what stands directly inside an element, and `PlacedTag.noted` is the element
  that a tag opens with all that the check notes there.
* `Checker.stack_report_take_opens`, `Checker.stack_report_take_closes` and
  `Checker.stack_report_take_unmatched`: what one piece of the markup does.
* `Checker.Remarks` relates the check to the pieces that it has read.  `Checker.Remarks.take` is one
  piece more, and `Checker.remarks_foldl` are all.
* `ofLevel_warning_checkWith` and `ofLevel_info_checkWith_eq`: the warnings and the notes, next to
  the errors of `ofLevel_error_checkWith`.
-/

namespace Receipt.Lint

open Markup (OpenTag Token)
open Reading (opening closing)

variable {pieces : List (List Char × Token)} {piece : List Char × Token}
  {kind : List Char × Token → Bool} {tag : PlacedTag}

/-! ## Pairing pieces -/

/-- The pairing of the tags of some pieces with which a markup begins. -/
def pairingOf (pieces : List (List Char × Token)) : Pairing :=
  Pairing.ofTags (placedFrom [] pieces)

/-- The tag of the piece that comes after some others. -/
def nextTag (pieces : List (List Char × Token)) (piece : List Char × Token) : PlacedTag where
  before := Token.writePieces pieces ++ piece.1
  token := piece.2

theorem placedFrom_concat (pieces : List (List Char × Token)) (piece : List Char × Token) :
    placedFrom [] (pieces ++ [piece]) = placedFrom [] pieces ++ [nextTag pieces piece] := by
  rw [placedFrom_append, List.nil_append]
  rfl

theorem pairingOf_concat (pieces : List (List Char × Token)) (piece : List Char × Token) :
    pairingOf (pieces ++ [piece]) = (pairingOf pieces).take (nextTag pieces piece) := by
  rw [pairingOf, placedFrom_concat, Pairing.ofTags, List.foldl_concat]
  rfl

theorem covers_pairingOf (pieces : List (List Char × Token)) :
    (pairingOf pieces).Covers (placedFrom [] pieces) :=
  Pairing.covers_ofTags (pairwise_offset [] pieces)

/-- A tag that comes later is a different one. -/
theorem nextTag_not_mem (pieces : List (List Char × Token)) (piece : List Char × Token) :
    nextTag pieces piece ∉ placedFrom [] pieces := by
  intro hmem
  have hpairwise := pairwise_offset [] (pieces ++ [piece])
  rw [placedFrom_concat] at hpairwise
  have hlt := (List.pairwise_append.mp hpairwise).2.2 _ hmem _ (List.mem_singleton_self _)
  exact Nat.lt_irrefl _ hlt

/-- No opening tag is closed twice, or closed and still open. -/
theorem nodup_openings (pieces : List (List Char × Token)) :
    ((pairingOf pieces).pairs.map Prod.fst ++ (pairingOf pieces).unclosed).Nodup := by
  have htags : (placedFrom [] pieces).Nodup := by
    refine (pairwise_offset [] pieces).imp ?_
    rintro first second hlt rfl
    exact Nat.lt_irrefl _ hlt
  exact (covers_pairingOf pieces).openings.nodup_iff.mp (htags.filter _)

theorem nodup_stack (pieces : List (List Char × Token)) : (pairingOf pieces).stack.Nodup :=
  ((nodup_openings pieces).sublist (List.sublist_append_right _ _)).sublist
    (List.sublist_append_right _ _)

/-- A tag that is closed is no longer open. -/
theorem not_mem_stack_of_mem_pairs {pair : PlacedTag × PlacedTag}
    (h : pair ∈ (pairingOf pieces).pairs) : pair.1 ∉ (pairingOf pieces).stack := by
  intro hstack
  exact (List.nodup_append.mp (nodup_openings pieces)).2.2 pair.1 (List.mem_map_of_mem h) pair.1
    (List.mem_append_right _ hstack) rfl

/-! ## What stands directly inside an element -/

/-- The innermost of the tags that are open after some pieces. -/
def innermost? (pieces : List (List Char × Token)) : Option PlacedTag :=
  (pairingOf pieces).stack.head?

/-- Whether a piece of some kind stands directly inside the element that a tag opens: of the tags
that are open before the piece, it is the innermost. -/
def anyIn (kind : List Char × Token → Bool) (pieces : List (List Char × Token))
    (tag : PlacedTag) : Bool :=
  (List.range pieces.length).any fun n =>
    decide (innermost? (pieces.take n) = some tag) && pieces[n]?.any kind

/-- Whether a text that is not blank stands before the tag of a piece. -/
def hasText (piece : List Char × Token) : Bool :=
  !Text.allBlank piece.1

/-- Whether the tag of a piece is an opening one. -/
def opens (piece : List Char × Token) : Bool :=
  !piece.2.closes

/-- The element that a tag opens, with what is noted in it. -/
def PlacedTag.noted (pieces : List (List Char × Token)) (tag : PlacedTag) : OpenElement :=
  { tag.element with hasTags := anyIn opens pieces tag, hasText := anyIn hasText pieces tag }

theorem anyIn_concat (kind : List Char × Token → Bool) (pieces : List (List Char × Token))
    (piece : List Char × Token) (tag : PlacedTag) :
    anyIn kind (pieces ++ [piece]) tag =
      (anyIn kind pieces tag || (decide (innermost? pieces = some tag) && kind piece)) := by
  have hearlier : (List.range pieces.length).any (fun n =>
        decide (innermost? ((pieces ++ [piece]).take n) = some tag) &&
          (pieces ++ [piece])[n]?.any kind) = anyIn kind pieces tag := by
    rw [anyIn, Bool.eq_iff_iff, List.any_eq_true, List.any_eq_true]
    refine exists_congr fun n => and_congr_right fun hn => ?_
    have hlt := List.mem_range.mp hn
    rw [List.take_append_of_le_length (by omega), List.getElem?_append_left hlt]
  rw [anyIn, List.length_append, List.length_singleton, List.range_succ, List.any_append, hearlier,
    List.any_cons, List.any_nil, Bool.or_false, List.take_left' rfl, List.getElem?_concat_length]
  rfl

/-- Only a tag that was read has something inside. -/
theorem mem_of_anyIn (h : anyIn kind pieces tag = true) : tag ∈ placedFrom [] pieces := by
  induction pieces using List.reverseRecOn with
  | nil => exact absurd h (by simp [anyIn])
  | append_singleton pieces piece ih =>
    rw [anyIn_concat, Bool.or_eq_true, Bool.and_eq_true, decide_eq_true_eq] at h
    rw [placedFrom_concat]
    apply List.mem_append_left
    rcases h with hearlier | ⟨hinnermost, -⟩
    · exact ih hearlier
    · exact (covers_pairingOf pieces).mem_of_mem_stack (List.mem_of_mem_head? hinnermost)

/-- Nothing is noted yet in an element that was just opened. -/
theorem noted_nextTag (pieces : List (List Char × Token)) (piece : List Char × Token) :
    (nextTag pieces piece).noted (pieces ++ [piece]) = (nextTag pieces piece).element := by
  have hnone (kind : List Char × Token → Bool) :
      anyIn kind (pieces ++ [piece]) (nextTag pieces piece) = false := by
    rw [anyIn_concat, Bool.or_eq_false_iff, Bool.and_eq_false_iff, decide_eq_false_iff_not,
      Bool.eq_false_iff]
    refine ⟨fun hany => nextTag_not_mem pieces piece (mem_of_anyIn hany), .inl fun hinnermost => ?_⟩
    exact nextTag_not_mem pieces piece
      ((covers_pairingOf pieces).mem_of_mem_stack (List.mem_of_mem_head? hinnermost))
  rw [PlacedTag.noted, hnone, hnone]
  rfl

/-- A piece changes nothing in an element that is not the innermost. -/
theorem anyIn_concat_of_ne (h : innermost? pieces ≠ some tag) (kind : List Char × Token → Bool)
    (piece : List Char × Token) : anyIn kind (pieces ++ [piece]) tag = anyIn kind pieces tag := by
  rw [anyIn_concat, decide_eq_false h, Bool.false_and, Bool.or_false]

theorem noted_concat_of_ne (h : innermost? pieces ≠ some tag) (piece : List Char × Token) :
    tag.noted (pieces ++ [piece]) = tag.noted pieces := by
  rw [PlacedTag.noted, anyIn_concat_of_ne h, anyIn_concat_of_ne h]
  rfl

theorem noted_concat_of_eq (h : innermost? pieces = some tag) (piece : List Char × Token) :
    tag.noted (pieces ++ [piece]) =
      { tag.noted pieces with
        hasTags := (tag.noted pieces).hasTags || opens piece
        hasText := (tag.noted pieces).hasText || hasText piece } := by
  rw [PlacedTag.noted, anyIn_concat, anyIn_concat, decide_eq_true h, Bool.true_and, Bool.true_and]
  rfl

/-- The check notes a piece in the innermost element, and in no other. -/
theorem Checker.stack_note {checker : Checker}
    (h : checker.stack = (pairingOf pieces).stack.map (PlacedTag.noted pieces))
    (piece : List Char × Token) :
    (checker.note (hasText piece) (opens piece)).stack =
      (pairingOf pieces).stack.map (PlacedTag.noted (pieces ++ [piece])) := by
  have hnodup := nodup_stack pieces
  cases hstack : (pairingOf pieces).stack with
  | nil =>
    rw [hstack] at h
    rw [note_of_nil h]
    exact h
  | cons tag outer =>
    have hinnermost : innermost? pieces = some tag := by rw [innermost?, hstack]; rfl
    have houter : outer.map (PlacedTag.noted (pieces ++ [piece])) =
        outer.map (PlacedTag.noted pieces) := by
      rw [hstack, List.nodup_cons] at hnodup
      refine List.map_congr_left fun other hother => noted_concat_of_ne ?_ piece
      rw [hinnermost]
      intro heq
      exact hnodup.1 (Option.some.inj heq ▸ hother)
    rw [hstack] at h
    rw [note_of_cons h, List.map_cons, houter, noted_concat_of_eq hinnermost]

/-! ## The remarks of a check -/

/-- The warnings on opening tags. -/
def warningsOn (vocabulary : Vocabulary) (tags : List PlacedTag) : List Diagnostic :=
  (openingTags tags).flatMap fun tag => openingRemarks vocabulary tag.token.tag tag.location

/-- Whether text stands beside tags in the element that a tag opens. -/
def isMixedIn (pieces : List (List Char × Token)) (tag : PlacedTag) : Bool :=
  anyIn opens pieces tag && anyIn hasText pieces tag

/-- The notes on elements that are closed. -/
def notesOn (pieces : List (List Char × Token)) (pairs : List (PlacedTag × PlacedTag)) :
    List Diagnostic :=
  (pairs.filter fun pair => isMixedIn pieces pair.1).map fun pair => mixedContent pair.1.element

theorem notesOn_append (pieces : List (List Char × Token))
    (first second : List (PlacedTag × PlacedTag)) :
    notesOn pieces (first ++ second) = notesOn pieces first ++ notesOn pieces second := by
  rw [notesOn, List.filter_append, List.map_append]
  rfl

/-- Once an element is closed, what comes after it makes no difference to its note. -/
theorem notesOn_concat (pieces : List (List Char × Token)) (piece : List Char × Token) :
    notesOn (pieces ++ [piece]) (pairingOf pieces).pairs =
      notesOn pieces (pairingOf pieces).pairs := by
  rw [notesOn, notesOn]
  congr 1
  refine List.filter_congr fun pair hpair => ?_
  have hclosed : innermost? pieces ≠ some pair.1 := fun hinnermost =>
    not_mem_stack_of_mem_pairs hpair (List.mem_of_mem_head? hinnermost)
  rw [isMixedIn, anyIn_concat_of_ne hclosed, anyIn_concat_of_ne hclosed]
  rfl

theorem checkContent_noted (pieces : List (List Char × Token)) (tag closed : PlacedTag) :
    checkContent (tag.noted pieces) = notesOn pieces [(tag, closed)] := by
  rw [checkContent, notesOn, List.filter_cons, List.filter_nil]
  show (if isMixedIn pieces tag then _ else _) = List.map _ (if isMixedIn pieces tag then _ else _)
  cases isMixedIn pieces tag with
  | true => rfl
  | false => rfl

namespace Checker

variable {vocabulary : Vocabulary} {checker : Checker}

/-- The check has read some pieces of a markup, the tags of which are paired so far, and has made
its remarks on them. -/
structure Remarks (vocabulary : Vocabulary) (checker : Checker)
    (pieces : List (List Char × Token)) (pairing : Pairing) : Prop where
  follows : checker.Follows (Token.writePieces pieces) pairing
  stack : checker.stack = pairing.stack.map (PlacedTag.noted pieces)
  warnings : checker.report.ofLevel .warning = warningsOn vocabulary (placedFrom [] pieces)
  notes : checker.report.ofLevel .info = notesOn pieces pairing.pairs

theorem warningsOn_concat (vocabulary : Vocabulary) (tags : List PlacedTag) (tag : PlacedTag) :
    warningsOn vocabulary (tags ++ [tag]) =
      warningsOn vocabulary tags ++
        if tag.token.closes then []
        else openingRemarks vocabulary tag.token.tag tag.location := by
  rw [warningsOn, openingTags_concat]
  cases tag.token.closes with
  | true => exact (List.append_nil _).symm
  | false =>
    show (openingTags tags ++ [tag]).flatMap _ = _
    rw [List.flatMap_append, List.flatMap_singleton]
    rfl

/-- The text before a closing tag is noted in the innermost element. -/
theorem stack_takeText
    (h : checker.stack = (pairingOf pieces).stack.map (PlacedTag.noted pieces))
    (hcloses : piece.2.closes = true) :
    (checker.takeText piece.1).stack =
      (pairingOf pieces).stack.map (PlacedTag.noted (pieces ++ [piece])) := by
  have hopens : opens piece = false := by rw [opens, hcloses]; rfl
  rw [takeText_eq, ← stack_note h piece, hopens]
  rfl

/-- A closing tag closes its element, and gives up those inside. -/
theorem stack_report_take_closes (vocabulary : Vocabulary) {inner outer : List OpenElement}
    {element : OpenElement} (hcloses : piece.2.closes = true)
    (hstack : (checker.takeText piece.1).stack = inner ++ element :: outer)
    (hinner : ∀ other ∈ inner, other.name ≠ String.ofList piece.2.tag.name)
    (hname : element.name = String.ofList piece.2.tag.name) :
    (checker.take vocabulary piece).stack = outer ∧
      (checker.take vocabulary piece).report =
        checker.report.addAll (inner.map unclosed ++ checkContent element) := by
  rw [Checker.take, takeToken, if_pos hcloses, closeElement_eq hstack hinner hname, report_takeText]
  exact ⟨rfl, rfl⟩

/-- A closing tag without an element to close leaves the elements open. -/
theorem stack_report_take_unmatched (vocabulary : Vocabulary)
    (hcloses : piece.2.closes = true)
    (hstack : ∀ other ∈ (checker.takeText piece.1).stack,
      other.name ≠ String.ofList piece.2.tag.name) :
    (checker.take vocabulary piece).stack = (checker.takeText piece.1).stack ∧
      (checker.take vocabulary piece).report =
        checker.report.addAll [unmatched (String.ofList piece.2.tag.name)
          (checker.takeText piece.1).location] := by
  rw [Checker.take, takeToken, if_pos hcloses, closeElement_eq_unmatched hstack, remark,
    report_takeText]
  exact ⟨rfl, rfl⟩

/-- An opening tag opens its element, and may cause warnings. -/
theorem stack_report_take_opens (vocabulary : Vocabulary) (checker : Checker)
    (hopens : piece.2.closes = false) :
    (checker.take vocabulary piece).stack =
        { name := String.ofList piece.2.tag.name, location := checker.location.after piece.1 } ::
          (checker.note (hasText piece) (opens piece)).stack ∧
      (checker.take vocabulary piece).report =
        checker.report.addAll
          (openingRemarks vocabulary piece.2.tag (checker.location.after piece.1)) := by
  obtain ⟨gap, closes, tag⟩ := piece
  obtain rfl : closes = false := hopens
  have htake := take_opening vocabulary checker gap tag
  rw [opening] at htake
  rw [htake]
  exact ⟨rfl, rfl⟩

namespace Remarks

variable {pairing' : Pairing}

theorem writePieces_concat (pieces : List (List Char × Token)) (piece : List Char × Token) :
    Token.writePieces (pieces ++ [piece]) =
      Token.writePieces pieces ++ piece.1 ++ piece.2.write := by
  rw [Token.writePieces_append, Token.writePieces_cons, Token.writePieces_nil, List.append_nil,
    List.append_assoc]

/-- One piece more. -/
theorem take (h : checker.Remarks vocabulary pieces (pairingOf pieces))
    (htakes : Pairing.Takes (pairingOf pieces) (nextTag pieces piece) pairing') :
    (checker.take vocabulary piece).Remarks vocabulary (pieces ++ [piece]) pairing' := by
  have hfollows := h.follows.take vocabulary htakes
  rw [← writePieces_concat] at hfollows
  cases htakes with
  | opens hopens =>
    have hplace : checker.location.after piece.1 = (nextTag pieces piece).location := by
      rw [PlacedTag.location, nextTag, Location.after_append, ← h.follows.location]
    obtain ⟨hstack, hreport⟩ := stack_report_take_opens vocabulary checker hopens
    rw [hplace] at hstack hreport
    refine ⟨hfollows, ?_, ?_, ?_⟩
    · rw [hstack, stack_note h.stack, List.map_cons, noted_nextTag]
      rfl
    · rw [hreport, Report.ofLevel_addAll_of_eq (fun _ => level_openingRemarks), placedFrom_concat,
        warningsOn_concat, h.warnings, if_neg (by simp [hopens])]
      rfl
    · rw [hreport, Report.ofLevel_addAll_of_ne (fun _ => level_openingRemarks) (by decide), h.notes,
        notesOn_concat]
  | @closes inner outer opened hcloses hsplit hinner hname =>
    have hbefore := stack_takeText h.stack hcloses
    rw [hsplit, List.map_append, List.map_cons] at hbefore
    have hother : ∀ other ∈ inner.map (PlacedTag.noted (pieces ++ [piece])),
        other.name ≠ String.ofList piece.2.tag.name := by
      intro other hmem
      obtain ⟨tag, htag, rfl⟩ := List.mem_map.mp hmem
      exact hinner tag htag
    obtain ⟨hstack, hreport⟩ := stack_report_take_closes vocabulary hcloses hbefore hother hname
    refine ⟨hfollows, hstack, ?_, ?_⟩
    · rw [hreport, Report.addAll_append,
        Report.ofLevel_addAll_of_ne (fun _ => level_checkContent) (by decide),
        Report.ofLevel_addAll_of_ne (fun _ => level_of_mem_map_unclosed) (by decide), h.warnings,
        placedFrom_concat, warningsOn_concat, if_pos hcloses, List.append_nil]
    · rw [hreport, Report.addAll_append, Report.ofLevel_addAll_of_eq (fun _ => level_checkContent),
        Report.ofLevel_addAll_of_ne (fun _ => level_of_mem_map_unclosed) (by decide), h.notes,
        notesOn_append, notesOn_concat, checkContent_noted _ _ (nextTag pieces piece)]
  | unmatched hcloses hnone =>
    have hbefore := stack_takeText h.stack hcloses
    have hother : ∀ other ∈ (checker.takeText piece.1).stack,
        other.name ≠ String.ofList piece.2.tag.name := by
      intro other hmem
      rw [hbefore] at hmem
      obtain ⟨tag, htag, rfl⟩ := List.mem_map.mp hmem
      exact hnone tag htag
    have hlevel : ∀ diagnostic ∈ [Lint.unmatched (String.ofList piece.2.tag.name)
        (checker.takeText piece.1).location], diagnostic.level = .error := by
      intro diagnostic hmem
      rw [List.mem_singleton.mp hmem]
      rfl
    obtain ⟨hstack, hreport⟩ := stack_report_take_unmatched vocabulary hcloses hother
    refine ⟨hfollows, hstack.trans hbefore, ?_, ?_⟩
    · rw [hreport, Report.ofLevel_addAll_of_ne hlevel (by decide), h.warnings, placedFrom_concat,
        warningsOn_concat, if_pos hcloses, List.append_nil]
    · rw [hreport, Report.ofLevel_addAll_of_ne hlevel (by decide), h.notes]
      exact (notesOn_concat pieces piece).symm

end Remarks

theorem remarks_start (vocabulary : Vocabulary) : Remarks vocabulary {} [] {} :=
  ⟨follows_start, rfl, rfl, rfl⟩

/-- All pieces. -/
theorem remarks_foldl (vocabulary : Vocabulary) (pieces : List (List Char × Token)) :
    (pieces.foldl (Checker.take vocabulary) {}).Remarks vocabulary pieces (pairingOf pieces) := by
  induction pieces using List.reverseRecOn with
  | nil => exact remarks_start vocabulary
  | append_singleton pieces piece ih =>
    rw [List.foldl_concat, pairingOf_concat]
    exact ih.take (Pairing.takes_take _ _)

end Checker

/-! ## The whole markup -/

/-- The warnings of a check are on the names and the props of its opening tags, in order. -/
theorem ofLevel_warning_checkWith (vocabulary : Vocabulary) (markup : String) :
    (checkWith vocabulary markup).ofLevel .warning = warningsOn vocabulary (placedTags markup) := by
  have hremarks := Checker.remarks_foldl vocabulary (Token.split markup.toList).1
  have hfinish : checkWith vocabulary markup =
      (((Token.split markup.toList).1.foldl (Checker.take vocabulary) {}).takeText
        (Token.split markup.toList).2).finish := rfl
  rw [hfinish, Checker.finish, Checker.remark, Report.addAll_append,
    Report.ofLevel_addAll_of_ne (fun _ => level_looseText) (by decide),
    Report.ofLevel_addAll_of_ne (fun _ => level_of_mem_map_unclosed) (by decide),
    Checker.report_takeText, hremarks.warnings]
  rfl

/-- The notes of a check that name a place are on elements that are closed, in that order. -/
theorem ofLevel_info_checkWith_eq (vocabulary : Vocabulary) (markup : String) :
    ∃ looseText : Bool,
      (checkWith vocabulary markup).ofLevel .info =
        notesOn (Token.split markup.toList).1 (Pairing.ofTags (placedTags markup)).pairs ++
          if looseText then [looseTextNote] else [] := by
  let checker := ((Token.split markup.toList).1.foldl (Checker.take vocabulary) {}).takeText
    (Token.split markup.toList).2
  have hremarks := Checker.remarks_foldl vocabulary (Token.split markup.toList).1
  have hfinish : checkWith vocabulary markup = checker.finish := rfl
  refine ⟨checker.looseText, ?_⟩
  rw [hfinish, Checker.finish, Checker.remark, Report.addAll_append,
    Report.ofLevel_addAll_of_eq (fun _ => level_looseText),
    Report.ofLevel_addAll_of_ne (fun _ => level_of_mem_map_unclosed) (by decide),
    Checker.report_takeText, hremarks.notes]
  rfl

end Receipt.Lint
