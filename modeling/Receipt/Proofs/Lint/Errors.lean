import Receipt.Proofs.Lint.Locations
import Receipt.Proofs.Lint.Pairing

/-!
# The errors of the check

The check makes an error of every opening tag that is not closed and of every closing tag that
closes nothing.  It finds them while it goes through the markup, so this module follows it beside
the pairing of the tags.

* `Report.Tallied`: the counters of a report are the numbers of its remarks.
* `Checker.take_opening`, `Checker.closeElement_eq` and `Checker.closeElement_eq_unmatched`: all
  that a piece of the markup does.
* `Checker.Follows` relates the check to the pairing of the tags that it has read;
  `Checker.Follows.take` is one piece and `Checker.Follows.foldl` are several.
* `ofLevel_error_checkWith`: the errors are what the pairing leaves over.
-/

namespace Receipt

/-! ## Reports -/

namespace Report

variable {report : Report} {diagnostic : Diagnostic} {diagnostics : List Diagnostic} {level : Level}

/-- The remarks of a level. -/
def ofLevel (report : Report) (level : Level) : List Diagnostic :=
  report.diagnostics.filter (·.level = level)

theorem ofLevel_addAll (report : Report) (diagnostics : List Diagnostic) (level : Level) :
    (report.addAll diagnostics).ofLevel level =
      report.ofLevel level ++ diagnostics.filter (·.level = level) := by
  rw [ofLevel, diagnostics_addAll, List.filter_append]
  rfl

theorem addAll_append (report : Report) (first second : List Diagnostic) :
    report.addAll (first ++ second) = (report.addAll first).addAll second :=
  List.foldl_append

/-- Remarks of another level do not matter. -/
theorem ofLevel_addAll_of_ne {other : Level}
    (h : ∀ diagnostic ∈ diagnostics, diagnostic.level = other) (hne : other ≠ level) :
    (report.addAll diagnostics).ofLevel level = report.ofLevel level := by
  have hnone : diagnostics.filter (·.level = level) = [] := by
    rw [List.filter_eq_nil_iff]
    intro diagnostic hmem
    rw [h diagnostic hmem]
    simpa using hne
  rw [ofLevel_addAll, hnone, List.append_nil]

/-- Remarks of the level are all added. -/
theorem ofLevel_addAll_of_eq (h : ∀ diagnostic ∈ diagnostics, diagnostic.level = level) :
    (report.addAll diagnostics).ofLevel level = report.ofLevel level ++ diagnostics := by
  have hall : diagnostics.filter (·.level = level) = diagnostics := by
    rw [List.filter_eq_self]
    intro diagnostic hmem
    simpa using h diagnostic hmem
  rw [ofLevel_addAll, hall]

/-- The counters are the numbers of the remarks of each level. -/
structure Tallied (report : Report) : Prop where
  errors : report.errors = (report.ofLevel .error).length
  warnings : report.warnings = (report.ofLevel .warning).length
  infos : report.infos = (report.ofLevel .info).length

theorem tallied_empty : Tallied {} :=
  ⟨rfl, rfl, rfl⟩

theorem Tallied.add (h : report.Tallied) (diagnostic : Diagnostic) :
    (report.add diagnostic).Tallied := by
  obtain ⟨herrors, hwarnings, hinfos⟩ := h
  have hlevel : ∀ level, (report.add diagnostic).ofLevel level =
      report.ofLevel level ++ [diagnostic].filter (·.level = level) :=
    report.ofLevel_addAll [diagnostic]
  rw [ofLevel] at herrors hwarnings hinfos
  constructor
  all_goals
    rw [hlevel, List.length_append, Report.add]
    cases hlevel : diagnostic.level <;> simp [hlevel, ofLevel, herrors, hwarnings, hinfos]

theorem Tallied.addAll (h : report.Tallied) (diagnostics : List Diagnostic) :
    (report.addAll diagnostics).Tallied := by
  induction diagnostics generalizing report with
  | nil => exact h
  | cons diagnostic diagnostics ih => exact ih (h.add diagnostic)

end Report

namespace Lint

open Markup (OpenTag Token)
open Reading (opening closing)

/-! ## Remarks on an opening tag -/

/-- The remarks on an opening tag. -/
def openingRemarks (vocabulary : Vocabulary) (tag : OpenTag) (location : Location) :
    List Diagnostic :=
  (if vocabulary.recognizes (String.ofList tag.name) then []
    else [unknownTag (opening tag) location]) ++
  checkProps (Markup.readProps tag.attrs) location

theorem mem_checkWidth_iff {props : Props} {location : Location} {diagnostic : Diagnostic} :
    diagnostic ∈ checkWidth props location ↔
      ∃ value, props.get? ColumnWidth.key = some value ∧ ColumnWidth.read? value = none ∧
        diagnostic = unusableWidth value location := by
  rw [checkWidth]
  cases hvalue : props.get? ColumnWidth.key with
  | none => simp
  | some value =>
    cases hread : ColumnWidth.read? value with
    | none => simp [hread]
    | some width => simp [hread]

theorem mem_checkNumber_iff {props : Props} {key : String} {location : Location}
    {diagnostic : Diagnostic} :
    diagnostic ∈ checkNumber props key location ↔
      ∃ value, props.get? key = some value ∧ Text.Decimal.readUInt32? value.toList = none ∧
        diagnostic = notNumeric key value location := by
  rw [checkNumber]
  cases hvalue : props.get? key with
  | none => simp
  | some value =>
    cases hread : Text.Decimal.readUInt32? value.toList with
    | none => simp [hread]
    | some number => simp [hread]

theorem level_checkWidth {props : Props} {location : Location} {diagnostic : Diagnostic}
    (h : diagnostic ∈ checkWidth props location) : diagnostic.level = .warning := by
  obtain ⟨value, -, -, rfl⟩ := mem_checkWidth_iff.mp h
  rfl

theorem level_checkNumber {props : Props} {key : String} {location : Location}
    {diagnostic : Diagnostic} (h : diagnostic ∈ checkNumber props key location) :
    diagnostic.level = .warning := by
  obtain ⟨value, -, -, rfl⟩ := mem_checkNumber_iff.mp h
  rfl

/-- A remark on the props of a tag is on the width or on a number. -/
theorem mem_checkProps_iff {props : Props} {location : Location} {diagnostic : Diagnostic} :
    diagnostic ∈ checkProps props location ↔
      diagnostic ∈ checkWidth props location ∨
        ∃ key, (key = fontSizeKey ∨ key = lineHeightKey) ∧
          diagnostic ∈ checkNumber props key location := by
  rw [checkProps, List.mem_append, List.mem_append, or_assoc]
  simp only [or_and_right, exists_or, exists_eq_left]

/-- All remarks on an opening tag are warnings. -/
theorem level_openingRemarks {vocabulary : Vocabulary} {tag : OpenTag} {location : Location}
    {diagnostic : Diagnostic} (h : diagnostic ∈ openingRemarks vocabulary tag location) :
    diagnostic.level = .warning := by
  rcases List.mem_append.mp h with hname | hprops
  · split at hname
    · exact absurd hname List.not_mem_nil
    · rw [List.mem_singleton.mp hname]
      rfl
  · rcases mem_checkProps_iff.mp hprops with hwidth | ⟨key, -, hnumber⟩
    · exact level_checkWidth hwidth
    · exact level_checkNumber hnumber

/-! ## Pieces of the markup -/

namespace Checker

variable {vocabulary : Vocabulary} {checker : Checker} {text gap : List Char} {token : Token}

/-- What a text that is not blank, or a tag, does to what it stands in directly: the innermost open
element, or the markup as a whole. -/
def note (checker : Checker) (text tags : Bool) : Checker :=
  match checker.stack with
  | [] => { checker with looseText := checker.looseText || text }
  | element :: outer =>
    { checker with
      stack := { element with
        hasTags := element.hasTags || tags, hasText := element.hasText || text } :: outer }

theorem note_of_nil (h : checker.stack = []) (text tags : Bool) :
    checker.note text tags = { checker with looseText := checker.looseText || text } := by
  rw [note, h]

theorem note_of_cons {element : OpenElement} {outer : List OpenElement}
    (h : checker.stack = element :: outer) (text tags : Bool) :
    checker.note text tags =
      { checker with
        stack := { element with
          hasTags := element.hasTags || tags, hasText := element.hasText || text } :: outer } := by
  rw [note, h]

theorem takeText_eq (checker : Checker) (text : List Char) :
    checker.takeText text =
      { checker.note (!Text.allBlank text) false with
        location := checker.location.after text } := by
  cases hstack : checker.stack with
  | nil =>
    rw [note_of_nil hstack, takeText]
    cases hblank : Text.allBlank text with
    | true => simp
    | false => simp [hstack]
  | cons element outer =>
    rw [note_of_cons hstack, takeText]
    cases hblank : Text.allBlank text with
    | true => simp [hstack]
    | false => simp [hstack]

/-- An opening tag is noted in what it stands in, and opens an element of its own. -/
theorem take_opening (vocabulary : Vocabulary) (checker : Checker) (gap : List Char)
    (tag : OpenTag) :
    let outside := checker.note (!Text.allBlank gap) true
    let location := checker.location.after gap
    checker.take vocabulary (gap, opening tag) =
      { location := location.after (opening tag).write
        stack := { name := String.ofList tag.name, location } :: outside.stack
        looseText := outside.looseText
        report := checker.report.addAll (openingRemarks vocabulary tag location) } := by
  intro outside location
  rw [take, takeText_eq]
  obtain ⟨start, stack, looseText, report⟩ := checker
  cases stack with
  | nil => rfl
  | cons element outer =>
    simp only [outside, note, Bool.or_true]
    rfl

/-- A closing tag closes the innermost element of its name. -/
theorem closeElement_eq {inner outer : List OpenElement} {element : OpenElement}
    (hstack : checker.stack = inner ++ element :: outer)
    (hinner : ∀ other ∈ inner, other.name ≠ String.ofList token.tag.name)
    (hname : element.name = String.ofList token.tag.name) :
    checker.closeElement token =
      { checker with
        stack := outer
        report := checker.report.addAll (inner.map unclosed ++ checkContent element) } := by
  have hall : ∀ other ∈ inner, (other.name != String.ofList token.tag.name) = true :=
    fun other hother => bne_iff_ne.mpr (hinner other hother)
  have hdrop : checker.stack.dropWhile (·.name != String.ofList token.tag.name) =
      element :: outer := by
    rw [hstack, List.dropWhile_append_of_pos hall, List.dropWhile_cons_of_neg (by simp [hname])]
  have htake : checker.stack.takeWhile (·.name != String.ofList token.tag.name) = inner := by
    rw [hstack, List.takeWhile_append_of_pos hall, List.takeWhile_cons_of_neg (by simp [hname]),
      List.append_nil]
  rw [closeElement]
  simp only [hdrop, htake]
  rfl

/-- A text, and after it the tag that closes the innermost element. -/
theorem take_closing {element : OpenElement} {outer : List OpenElement} {name ending : List Char}
    (hstack : checker.stack = element :: outer) (hname : element.name = String.ofList name) :
    checker.take vocabulary (text, closing name ending) =
      { location := (checker.location.after text).after (closing name ending).write
        stack := outer
        looseText := checker.looseText
        report := checker.report.addAll (checkContent (element.noteText text)) } := by
  have htext : (checker.takeText text).stack = [] ++ element.noteText text :: outer :=
    stack_takeText_cons hstack
  have hclose : (checker.takeText text).closeElement (closing name ending) = _ :=
    closeElement_eq htext (by simp) hname
  rw [takeText_eq, note_of_cons hstack] at hclose
  rw [take, takeToken, takeText_eq, note_of_cons hstack]
  show { (closeElement _ (closing name ending)) with
    location := (closeElement _ (closing name ending)).location.after _ : Checker } = _
  rw [hclose]
  rfl

/-- A closing tag without an element to close. -/
theorem closeElement_eq_unmatched
    (hstack : ∀ other ∈ checker.stack, other.name ≠ String.ofList token.tag.name) :
    checker.closeElement token =
      checker.remark [unmatched (String.ofList token.tag.name) checker.location] := by
  have hdrop : checker.stack.dropWhile (·.name != String.ofList token.tag.name) = [] :=
    List.dropWhile_eq_nil_iff.mpr fun other hother => bne_iff_ne.mpr (hstack other hother)
  rw [closeElement]
  simp only [hdrop]

end Checker

/-! ## Beside the pairing -/

/-- An element as it was opened. -/
def OpenElement.bare (element : OpenElement) : OpenElement :=
  { element with hasTags := false, hasText := false }

/-- The element that a tag opens. -/
def PlacedTag.element (tag : PlacedTag) : OpenElement where
  name := tag.name
  location := tag.location

/-- The errors for opening and closing tags that belong to no pair. -/
def errorsFor (opened closed : List PlacedTag) : List Diagnostic :=
  opened.map (fun tag => unclosed tag.element) ++
    closed.map fun tag => unmatched tag.name tag.location

/-- An error says nothing of what was noted in the element. -/
theorem map_unclosed_of_map_bare_eq {elements : List OpenElement} {tags : List PlacedTag}
    (h : elements.map OpenElement.bare = tags.map PlacedTag.element) :
    elements.map unclosed = tags.map fun tag => unclosed tag.element := by
  have hunclosed := congrArg (List.map unclosed) h
  rw [List.map_map, List.map_map] at hunclosed
  exact hunclosed

theorem map_name_of_map_bare_eq {elements : List OpenElement} {tags : List PlacedTag}
    (h : elements.map OpenElement.bare = tags.map PlacedTag.element) :
    elements.map (·.name) = tags.map (·.name) := by
  have hnames := congrArg (List.map (·.name)) h
  rw [List.map_map, List.map_map] at hnames
  exact hnames

theorem level_of_mem_map_unclosed {elements : List OpenElement} {diagnostic : Diagnostic}
    (h : diagnostic ∈ elements.map unclosed) : diagnostic.level = .error := by
  obtain ⟨element, -, rfl⟩ := List.mem_map.mp h
  rfl

theorem level_checkContent {element : OpenElement} {diagnostic : Diagnostic}
    (h : diagnostic ∈ checkContent element) : diagnostic.level = .info := by
  rw [checkContent] at h
  split at h
  · rw [List.mem_singleton.mp h]
    rfl
  · exact absurd h List.not_mem_nil

theorem level_looseText {looseText : Bool} {diagnostic : Diagnostic}
    (h : diagnostic ∈ if looseText then [looseTextNote] else []) : diagnostic.level = .info := by
  split at h
  · rw [List.mem_singleton.mp h]
    rfl
  · exact absurd h List.not_mem_nil

/-- If no tag has a name, no element has it. -/
theorem forall_name_ne_of_map_bare_eq {elements : List OpenElement} {tags : List PlacedTag}
    {name : String} (h : elements.map OpenElement.bare = tags.map PlacedTag.element)
    (htags : ∀ tag ∈ tags, tag.name ≠ name) : ∀ element ∈ elements, element.name ≠ name := by
  intro element helement
  have hmem : element.name ∈ elements.map (·.name) := List.mem_map_of_mem helement
  rw [map_name_of_map_bare_eq h] at hmem
  obtain ⟨tag, htag, hname⟩ := List.mem_map.mp hmem
  rw [← hname]
  exact htags tag htag

namespace Checker

variable {vocabulary : Vocabulary} {checker : Checker}

theorem map_bare_note (checker : Checker) (text tags : Bool) :
    (checker.note text tags).stack.map OpenElement.bare = checker.stack.map OpenElement.bare := by
  cases hstack : checker.stack with
  | nil =>
    rw [note_of_nil hstack, hstack]
  | cons element outer =>
    rw [note_of_cons hstack]
    rfl

theorem report_note (checker : Checker) (text tags : Bool) :
    (checker.note text tags).report = checker.report := by
  cases hstack : checker.stack with
  | nil => rw [note_of_nil hstack]
  | cons element outer => rw [note_of_cons hstack]

theorem report_takeText (checker : Checker) (text : List Char) :
    (checker.takeText text).report = checker.report := by
  rw [takeText_eq]
  exact report_note checker _ _

/-- The check has read some of the markup, and the tags of it are paired so far. -/
structure Follows (checker : Checker) (before : List Char) (pairing : Pairing) : Prop where
  location : checker.location = Location.after {} before
  stack : checker.stack.map OpenElement.bare = pairing.stack.map PlacedTag.element
  errors : (checker.report.ofLevel .error).Perm (errorsFor pairing.givenUp pairing.unmatched)

namespace Follows

variable {before text : List Char} {pairing pairing' : Pairing} {token : Token}

/-- Text between two tags makes no error. -/
theorem takeText (h : checker.Follows before pairing) (text : List Char) :
    (checker.takeText text).Follows (before ++ text) pairing where
  location := by
    rw [takeText_eq, Location.after_append, ← h.location]
  stack := by
    rw [takeText_eq]
    exact (map_bare_note checker _ _).trans h.stack
  errors := by
    rw [report_takeText]
    exact h.errors

/-- A tag does to the check what it does to the pairing. -/
theorem take (h : checker.Follows before pairing) (vocabulary : Vocabulary)
    (htakes : Pairing.Takes pairing ⟨before ++ text, token⟩ pairing') :
    (checker.take vocabulary (text, token)).Follows (before ++ text ++ token.write) pairing' := by
  have htext := h.takeText text
  cases htakes with
  | opens htag =>
    have htoken : token = opening token.tag := by rw [opening, ← htag]
    rw [htoken, take_opening]
    refine ⟨?_, ?_, ?_⟩
    · rw [Location.after_append, Location.after_append, ← h.location]
    · show _ :: (checker.note _ _).stack.map OpenElement.bare = _
      rw [map_bare_note, h.stack, List.map_cons, PlacedTag.element, PlacedTag.location,
        Location.after_append, ← h.location]
      rfl
    · rw [Report.ofLevel_addAll_of_ne (fun _ => level_openingRemarks) (by decide)]
      exact h.errors
  | @closes inner outer opened htag hsplit hinner hname =>
    -- the check finds the element at the same depth as the pairing finds the tag
    have hstack := htext.stack
    rw [hsplit, List.map_append, List.map_cons] at hstack
    obtain ⟨elements, rest, helements, hmapInner, hrest⟩ := List.map_eq_append_iff.mp hstack
    obtain ⟨element, outside, rfl, helement, houter⟩ := List.map_eq_cons_iff.mp hrest
    have hclosed : element.name = String.ofList token.tag.name :=
      (congrArg OpenElement.name helement).trans hname
    rw [Checker.take, Checker.takeToken, if_pos htag, closeElement_eq helements
      (forall_name_ne_of_map_bare_eq hmapInner hinner) hclosed]
    refine ⟨?_, houter, ?_⟩
    · rw [Location.after_append, ← htext.location]
    · rw [Report.addAll_append,
        Report.ofLevel_addAll_of_ne (fun _ => level_checkContent) (by decide),
        Report.ofLevel_addAll_of_eq (fun _ => level_of_mem_map_unclosed),
        map_unclosed_of_map_bare_eq hmapInner, errorsFor, List.map_append, List.append_assoc]
      refine (htext.errors.append_right _).trans ?_
      rw [errorsFor, List.append_assoc]
      exact List.perm_append_comm.append_left _
  | unmatched htag hnone =>
    rw [Checker.take, Checker.takeToken, if_pos htag,
      closeElement_eq_unmatched (forall_name_ne_of_map_bare_eq htext.stack hnone)]
    refine ⟨?_, htext.stack, ?_⟩
    · rw [Location.after_append, ← htext.location]
      rfl
    · have hlevel : ∀ diagnostic ∈ [Lint.unmatched (String.ofList token.tag.name)
          (checker.takeText text).location], diagnostic.level = .error := by
        intro diagnostic hmem
        rw [List.mem_singleton.mp hmem]
        rfl
      rw [remark, Report.ofLevel_addAll_of_eq hlevel, htext.location, errorsFor, List.map_append,
        ← List.append_assoc]
      exact htext.errors.append_right _

/-- The same over several pieces. -/
theorem foldl (h : checker.Follows before pairing) (vocabulary : Vocabulary)
    (pieces : List (List Char × Token)) :
    (pieces.foldl (Checker.take vocabulary) checker).Follows
      (before ++ Token.writePieces pieces)
      ((placedFrom before pieces).foldl Pairing.take pairing) := by
  induction pieces generalizing checker before pairing with
  | nil =>
    rw [Token.writePieces_nil, List.append_nil]
    exact h
  | cons piece pieces ih =>
    obtain ⟨gap, token⟩ := piece
    have hnext := ih (h.take vocabulary (Pairing.takes_take pairing ⟨before ++ gap, token⟩))
    rw [List.append_assoc, List.append_assoc, ← Token.writePieces_cons (gap, token)] at hnext
    exact hnext

end Follows

theorem follows_start : Follows {} [] {} :=
  ⟨rfl, rfl, List.Perm.nil⟩

theorem tallied_takeText (h : checker.report.Tallied) (text : List Char) :
    (checker.takeText text).report.Tallied := by
  rw [report_takeText]
  exact h

theorem tallied_take (h : checker.report.Tallied) (piece : List Char × Token) :
    (checker.take vocabulary piece).report.Tallied := by
  obtain ⟨gap, closes, tag⟩ := piece
  cases closes with
  | false =>
    show (checker.take vocabulary (gap, opening tag)).report.Tallied
    rw [take_opening]
    exact h.addAll _
  | true =>
    show ((checker.takeText gap).closeElement (closing tag.name tag.attrs)).report.Tallied
    rw [closeElement]
    split
    · exact (tallied_takeText h gap).addAll _
    · exact (tallied_takeText h gap).addAll _

theorem tallied_foldl (h : checker.report.Tallied) (pieces : List (List Char × Token)) :
    (pieces.foldl (take vocabulary) checker).report.Tallied := by
  induction pieces generalizing checker with
  | nil => exact h
  | cons piece pieces ih => exact ih (tallied_take h piece)

end Checker

/-! ## The whole markup -/

/-- The counters of a check are the numbers of its remarks. -/
theorem tallied_checkWith (vocabulary : Vocabulary) (markup : String) :
    (checkWith vocabulary markup).Tallied :=
  (Checker.tallied_takeText (Checker.tallied_foldl Report.tallied_empty _) _).addAll _

/-- The errors of a check are for the opening tags that are not closed and for the closing tags that
close nothing, one for each. -/
theorem ofLevel_error_checkWith (vocabulary : Vocabulary) (markup : String) :
    let pairing := Pairing.ofTags (placedTags markup)
    ((checkWith vocabulary markup).ofLevel .error).Perm
      (errorsFor pairing.unclosed pairing.unmatched) := by
  intro pairing
  have hfollows := (Checker.follows_start.foldl vocabulary
    (Token.split markup.toList).1).takeText (Token.split markup.toList).2
  generalize hchecker : Checker.takeText _ _ = checker at hfollows
  change Checker.Follows checker _ pairing at hfollows
  have hfinish : checkWith vocabulary markup = checker.finish := by
    rw [← hchecker]
    rfl
  rw [hfinish, Checker.finish, Checker.remark, Report.addAll_append,
    Report.ofLevel_addAll_of_ne (fun _ => level_looseText) (by decide),
    Report.ofLevel_addAll_of_eq (fun _ => level_of_mem_map_unclosed),
    map_unclosed_of_map_bare_eq hfollows.stack]
  refine (hfollows.errors.append_right _).trans ?_
  rw [errorsFor, errorsFor, Pairing.unclosed, List.map_append, List.append_assoc, List.append_assoc]
  exact List.perm_append_comm.append_left _

end Lint

end Receipt
