import Receipt.Proofs.Lint.Errors
import Receipt.Proofs.Lint.Lossless

/-!
# The notes of the check

If the tags of a markup are well nested, they make elements of it.  The check then goes past every
element as it goes past a single tag, and on the way makes a note of each element in which text
stands beside tags.

* `Reading.isMixed`: the elements in which text stands beside tags, and `mixedNotes` their notes.
* `Checker.Passes` is what a part of the markup does in which all elements are closed.  Two such
  parts after each other are one again (`Checker.Passes.append`), and so is an element around one
  (`Checker.Passes.element`).
* `Checker.passes_piecesOfAll`: any elements are such a part.
* `verdict_exact` is all that the errors, notes and counters of a check mean.
-/

namespace Receipt.Lint

open Markup (OpenTag Token)
open Reading (opening closing piecesOfAll)

/-! ## Elements -/

namespace Reading

/-- Whether a text that is not blank stands before one of several elements. -/
def anyGap (readings : List Reading) : Bool :=
  readings.any fun reading => !Text.allBlank reading.gap

/-- Whether a tag stands directly inside an element. -/
def hasTags : Reading → Bool
  | leaf .. => false
  | branch _ _ children _ _ => !children.isEmpty

/-- Whether a text that is not blank stands directly inside an element. -/
def hasText : Reading → Bool
  | leaf _ _ text _ => !Text.allBlank text
  | branch _ _ children last _ => anyGap children || !Text.allBlank last

/-- Whether text stands beside tags in an element. -/
def isMixed (reading : Reading) : Bool :=
  reading.hasTags && reading.hasText

end Reading

/-- The notes of elements. -/
def mixedNotes (elements : List PlacedElement) : List Diagnostic :=
  (elements.filter (·.reading.isMixed)).map fun element => mixedContent element.opened.element

theorem mixedNotes_append (first second : List PlacedElement) :
    mixedNotes (first ++ second) = mixedNotes first ++ mixedNotes second := by
  rw [mixedNotes, List.filter_append, List.map_append]
  rfl

/-! ## Parts of a markup in which all elements are closed -/

namespace Checker

variable {vocabulary : Vocabulary} {checker checker' checker'' : Checker}
  {before written more gap : List Char} {text tags text' tags' : Bool}
  {notes notes' : List Diagnostic}

/-- What the check knows of the open elements, and of the markup outside of them. -/
def inside (checker : Checker) : List OpenElement × Bool :=
  (checker.stack, checker.looseText)

theorem inside_note_congr (h : checker'.inside = checker.inside) (text tags : Bool) :
    (checker'.note text tags).inside = (checker.note text tags).inside := by
  obtain ⟨hstack, hloose⟩ := Prod.mk.inj h
  cases hcases : checker.stack with
  | nil =>
    rw [note_of_nil hcases, note_of_nil (hstack.trans hcases), inside, inside, hstack, hloose]
  | cons element outer =>
    rw [note_of_cons hcases, note_of_cons (hstack.trans hcases), inside, inside, hloose]

theorem inside_note_note (checker : Checker) (text tags text' tags' : Bool) :
    ((checker.note text tags).note text' tags').inside =
      (checker.note (text || text') (tags || tags')).inside := by
  cases hcases : checker.stack with
  | nil =>
    have hnoted : ({ checker with looseText := checker.looseText || text } : Checker).stack = [] :=
      hcases
    rw [note_of_nil hcases, note_of_nil hcases, note_of_nil hnoted, inside, inside, Bool.or_assoc]
  | cons element outer =>
    rw [note_of_cons hcases, note_of_cons hcases, note_of_cons rfl, inside, inside, Bool.or_assoc,
      Bool.or_assoc]

theorem inside_note_false (checker : Checker) :
    (checker.note false false).inside = checker.inside := by
  cases hcases : checker.stack with
  | nil => rw [note_of_nil hcases, inside, inside, Bool.or_false]
  | cons element outer =>
    rw [note_of_cons hcases, inside, inside, Bool.or_false, Bool.or_false, hcases]

/-- The check goes from one checker to another past what is written there, which comes after
`before`.  All elements in it are closed.  Directly in it may be a text that is not blank, or tags,
and it causes some notes. -/
structure Passes (checker : Checker) (before : List Char) (text tags : Bool) (written : List Char)
    (notes : List Diagnostic) (checker' : Checker) : Prop where
  location : checker'.location = Location.after {} (before ++ written)
  inside : checker'.inside = (checker.note text tags).inside
  notes : checker'.report.ofLevel .info = checker.report.ofLevel .info ++ notes

namespace Passes

theorem nil (h : checker.location = Location.after {} before) :
    Passes checker before false false [] [] checker where
  location := by rw [List.append_nil, h]
  inside := (inside_note_false checker).symm
  notes := (List.append_nil _).symm

/-- Two parts after each other. -/
theorem append (h : Passes checker before text tags written notes checker')
    (h' : Passes checker' (before ++ written) text' tags' more notes' checker'') :
    Passes checker before (text || text') (tags || tags') (written ++ more) (notes ++ notes')
      checker'' where
  location := by rw [h'.location, List.append_assoc]
  inside := by rw [h'.inside, inside_note_congr h.inside, inside_note_note]
  notes := by rw [h'.notes, h.notes, List.append_assoc]

/-- An element around such a part. -/
theorem element {tag : OpenTag} (last ending : List Char)
    (hlocation : checker.location = Location.after {} before)
    (h : Passes (checker.take vocabulary (gap, opening tag)) (before ++ gap ++ (opening tag).write)
      text tags written notes checker') :
    Passes checker before (!Text.allBlank gap) true
      (gap ++ ((opening tag).write ++ (written ++ (last ++ (closing tag.name ending).write))))
      (notes ++ checkContent
        { name := String.ofList tag.name
          location := Location.after {} (before ++ gap)
          hasTags := tags
          hasText := text || !Text.allBlank last })
      (checker'.take vocabulary (last, closing tag.name ending)) := by
  obtain ⟨hplace, hinside, hnotes⟩ := h
  -- what is noted between the two tags is noted in the new element, and lost with it
  rw [take_opening, note_of_cons rfl, Bool.false_or, Bool.false_or] at hinside
  rw [take_opening, Report.ofLevel_addAll_of_ne (fun _ => level_openingRemarks) (by decide)]
    at hnotes
  obtain ⟨hstack, hloose⟩ := Prod.mk.inj hinside
  rw [take_closing hstack rfl]
  refine ⟨?_, ?_, ?_⟩
  · rw [hplace, ← Location.after_append, ← Location.after_append]
    simp only [List.append_assoc]
  · rw [Checker.inside, hloose]
    rfl
  · rw [Report.ofLevel_addAll_of_eq (fun _ => level_checkContent), hnotes, List.append_assoc,
      Location.after_append, ← hlocation]
    rfl

end Passes

theorem location_take_opening (h : checker.location = Location.after {} before)
    (vocabulary : Vocabulary) (gap : List Char) (tag : OpenTag) :
    (checker.take vocabulary (gap, opening tag)).location =
      Location.after {} (before ++ gap ++ (opening tag).write) := by
  rw [take_opening, Location.after_append, Location.after_append, ← h]

/-- The note of an element is made when it is closed. -/
theorem checkContent_eq (element : PlacedElement) :
    checkContent
        { element.opened.element with
          hasTags := element.reading.hasTags, hasText := element.reading.hasText } =
      mixedNotes [element] := by
  rw [checkContent, mixedNotes, List.filter_cons, List.filter_nil]
  show (if element.reading.isMixed then [mixedContent element.opened.element] else []) =
    List.map _ (if element.reading.isMixed then [element] else [])
  split
  · rfl
  · rfl

mutual

/-- Going past an element. -/
theorem passes_pieces (vocabulary : Vocabulary) {checker : Checker} {before : List Char}
    (h : checker.location = Location.after {} before) (reading : Reading) :
    Passes checker before (!Text.allBlank reading.gap) true (Token.writePieces reading.pieces)
      (mixedNotes (reading.placed before))
      (reading.pieces.foldl (take vocabulary) checker) := by
  cases reading with
  | leaf gap tag text ending =>
    have hinner := Passes.nil (location_take_opening h vocabulary gap tag)
    have helement := hinner.element text ending h
    rw [List.nil_append, List.nil_append] at helement
    rw [Reading.pieces, Token.writePieces_cons, Token.writePieces_cons, Token.writePieces_nil,
      List.append_nil]
    exact helement
  | branch gap tag children last ending =>
    have hinner := passes_piecesOfAll vocabulary (location_take_opening h vocabulary gap tag)
      children
    have helement := hinner.element last ending h
    rw [Reading.pieces, Token.writePieces_cons, Token.writePieces_append, Token.writePieces_cons,
      Token.writePieces_nil, List.append_nil, List.foldl_cons, List.foldl_append, Reading.placed,
      mixedNotes_append, ← checkContent_eq]
    exact helement

/-- Going past several elements. -/
theorem passes_piecesOfAll (vocabulary : Vocabulary) {checker : Checker} {before : List Char}
    (h : checker.location = Location.after {} before) (readings : List Reading) :
    Passes checker before (Reading.anyGap readings) (!readings.isEmpty)
      (Token.writePieces (piecesOfAll readings)) (mixedNotes (Reading.placedAll before readings))
      ((piecesOfAll readings).foldl (take vocabulary) checker) := by
  cases readings with
  | nil => exact Passes.nil h
  | cons reading readings =>
    have hfirst := passes_pieces vocabulary h reading
    have hrest := passes_piecesOfAll vocabulary hfirst.location readings
    have hboth := hfirst.append hrest
    rw [piecesOfAll, List.foldl_append, Token.writePieces_append, Reading.placedAll,
      mixedNotes_append]
    exact hboth

end

end Checker

/-! ## The whole markup -/

/-- The notes of a check of elements: one for each of them in which text stands beside tags, and one
if there is text outside of all. -/
theorem ofLevel_info_checkWith (vocabulary : Vocabulary) {markup : String}
    {readings : List Reading} (h : (Token.split markup.toList).1 = piecesOfAll readings) :
    (checkWith vocabulary markup).ofLevel .info =
      mixedNotes (Reading.placedAll [] readings) ++
        if Reading.anyGap readings || !Text.allBlank (Token.split markup.toList).2 then
          [looseTextNote]
        else [] := by
  let rest := (Token.split markup.toList).2
  have hstart : ({} : Checker).location = Location.after {} [] := rfl
  obtain ⟨-, hinside, hnotes⟩ := Checker.passes_piecesOfAll vocabulary hstart readings
  rw [← h] at hinside hnotes
  let checker := (Token.split markup.toList).1.foldl (Checker.take vocabulary) {}
  obtain ⟨hstack, hloose⟩ : checker.stack = [] ∧ checker.looseText = Reading.anyGap readings :=
    Prod.mk.inj hinside
  have hfinish : checkWith vocabulary markup = (checker.takeText rest).finish := rfl
  rw [hfinish, Checker.finish, Checker.takeText_eq, Checker.note_of_nil hstack]
  show (checker.report.addAll (checker.stack.map unclosed ++
    if checker.looseText || !Text.allBlank rest then [looseTextNote] else [])).ofLevel .info = _
  rw [hstack, hloose, List.map_nil, List.nil_append,
    Report.ofLevel_addAll_of_eq (fun _ => level_looseText), hnotes]
  rfl

/-- What the errors, the notes and the counters of a check mean.  The counters are the numbers of
the remarks.  There is no error exactly if the tags are well nested.  In general every opening tag
is in one pair or makes one error, and every closing tag is in one pair, after an opening tag of its
name, or makes one error.  If the tags are well nested, the pairs are the elements of the markup;
there is a note for each element in which text stands beside tags, and one more if text stands
outside of all elements. -/
theorem verdict_exact (vocabulary : Vocabulary) (markup : String) :
    let report := checkWith vocabulary markup
    let tags := placedTags markup
    let pairing := Pairing.ofTags tags
    let wellNested := WellNested (Token.all markup.toList)
    report.Tallied ∧
    (report.errors = 0 ↔ wellNested) ∧
    pairing.Covers tags ∧
    (openingTags tags).length - pairing.unclosed.length =
      (closingTags tags).length - pairing.unmatched.length ∧
    (report.ofLevel .error).Perm (errorsFor pairing.unclosed pairing.unmatched) ∧
    (wellNested ↔ ∃ readings, (Token.split markup.toList).1 = piecesOfAll readings) ∧
    ∀ readings, (Token.split markup.toList).1 = piecesOfAll readings →
      pairing.pairs = (Reading.placedAll [] readings).map (fun element =>
        (element.opened, element.closed)) ∧
      report.ofLevel .info =
        mixedNotes (Reading.placedAll [] readings) ++
          if Reading.anyGap readings || !Text.allBlank (Token.split markup.toList).2 then
            [looseTextNote]
          else [] := by
  intro report tags pairing wellNested
  have htallied : report.Tallied := tallied_checkWith vocabulary markup
  have hcovers : pairing.Covers tags := Pairing.covers_ofTags (pairwise_offset [] _)
  have herrors := ofLevel_error_checkWith vocabulary markup
  have hnested : wellNested ↔ pairing.unclosed = [] ∧ pairing.unmatched = [] :=
    Pairing.wellNested_iff [] _
  have hverdict : report.errors = 0 ↔ wellNested := by
    rw [htallied.errors, herrors.length_eq, hnested, errorsFor, List.length_append,
      List.length_map, List.length_map, Nat.add_eq_zero_iff, List.length_eq_zero_iff,
      List.length_eq_zero_iff]
  have hcounts : (openingTags tags).length - pairing.unclosed.length =
      (closingTags tags).length - pairing.unmatched.length := by
    have hopenings := hcovers.openings.length_eq
    have hclosings := hcovers.closings.length_eq
    rw [List.length_append, List.length_map] at hopenings hclosings
    omega
  refine ⟨htallied, hverdict, hcovers, hcounts, herrors, ⟨?_, ?_⟩, fun readings hpieces => ⟨?_, ?_⟩⟩
  · intro h
    exact exists_readings h rfl
  · rintro ⟨readings, hpieces⟩
    show WellNested ((Token.split markup.toList).1.map Prod.snd)
    rw [hpieces]
    exact wellNested_piecesOfAll readings
  · show ((placedFrom [] (Token.split markup.toList).1).foldl Pairing.take {}).pairs = _
    rw [hpieces, Pairing.foldl_take_piecesOfAll]
    rfl
  · exact ofLevel_info_checkWith vocabulary hpieces

/-- A row in which text stands beside a cell, with text after it. -/
def mixedRow : String := "<tr>a<td>b</td></tr>c"

/-- The elements of that markup. -/
def mixedRowReadings : List Reading :=
  [.branch [] ⟨['t', 'r'], []⟩ [.leaf ['a'] ⟨['t', 'd'], []⟩ ['b'] []] [] []]

theorem verdict_exact_mixedRow :
    (Token.split mixedRow.toList).1 = piecesOfAll mixedRowReadings ∧
    (checkWith .standard mixedRow).errors = 0 ∧
    (checkWith .standard mixedRow).ofLevel .info =
      [mixedContent { name := "tr", location := {} }, looseTextNote] := by
  have hpieces : (Token.split mixedRow.toList).1 = piecesOfAll mixedRowReadings := by
    decide +kernel
  obtain ⟨-, hverdict, -, -, -, hnested, hnotes⟩ := verdict_exact .standard mixedRow
  refine ⟨hpieces, hverdict.mpr (hnested.mpr ⟨_, hpieces⟩), ?_⟩
  rw [(hnotes mixedRowReadings hpieces).2]
  decide +kernel

end Receipt.Lint
