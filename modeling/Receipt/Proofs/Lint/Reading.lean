import Receipt.Lint.Check
import Receipt.Proofs.Markup.Token

/-!
# What a silent check has read

The check keeps a stack of open elements and pairs each closing tag with the innermost one.  If it
has nothing to remark, this pairing makes a forest of the markup: every tag belongs to an element,
all names are known, and text stands only in elements without tags.

* `Reading` is an element as the check pairs its tags, and `Reading.Fits` is what the check asks of
  it.
* `Step` is what one piece of the markup does to the stack if it causes no remark, and
  `Checker.step_of_take` says that it does nothing else.
* `Closes` says that the pieces that are left close what is open.  Going back over a step keeps it
  (`Step.closes`), so it holds of the whole markup (`exists_describes`).
-/

namespace Receipt

theorem Report.diagnostics_addAll (report : Report) (diagnostics : List Diagnostic) :
    (report.addAll diagnostics).diagnostics = report.diagnostics ++ diagnostics := by
  induction diagnostics generalizing report with
  | nil => exact (List.append_nil _).symm
  | cons diagnostic diagnostics ih =>
    have hadd : (report.add diagnostic).diagnostics = report.diagnostics ++ [diagnostic] := by
      rw [Report.add]
      cases diagnostic.level <;> rfl
    rw [Report.addAll, List.foldl_cons, ← Report.addAll, ih, hadd, List.append_assoc,
      List.singleton_append]

namespace Lint

open Markup (OpenTag Token)

/-! ## Readings -/

/-- An element as the check pairs its tags, with the text before it.  A closing tag may have an
ending after its name. -/
inductive Reading where
  /-- An element without tags inside. -/
  | leaf (gap : List Char) (tag : OpenTag) (text ending : List Char)
  /-- An element with tags inside, and with a text after the last of them. -/
  | branch (gap : List Char) (tag : OpenTag) (children : List Reading) (last ending : List Char)

namespace Reading

/-- The token that opens an element. -/
def opening (tag : OpenTag) : Token := ⟨false, tag⟩

/-- The token that closes an element of a name, with something after the name. -/
def closing (name ending : List Char) : Token := ⟨true, ⟨name, ending⟩⟩

mutual

/-- The tokens of an element, each with the text before it. -/
def pieces : Reading → List (List Char × Token)
  | leaf gap tag text ending => [(gap, opening tag), (text, closing tag.name ending)]
  | branch gap tag children last ending =>
    (gap, opening tag) :: (piecesOfAll children ++ [(last, closing tag.name ending)])

/-- The tokens of several elements. -/
def piecesOfAll : List Reading → List (List Char × Token)
  | [] => []
  | reading :: readings => pieces reading ++ piecesOfAll readings

end

/-- What the check asks of an element. -/
inductive Fits (vocabulary : Vocabulary) : Reading → Prop
  | leaf {gap text ending : List Char} {tag : OpenTag} (hgap : Text.allBlank gap = true)
      (htag : tag.WellFormed) (hname : vocabulary.recognizes (String.ofList tag.name) = true)
      (htext : Token.Precedes text (closing tag.name ending)) (hending : '>' ∉ ending) :
      Fits vocabulary (.leaf gap tag text ending)
  | branch {gap last ending : List Char} {tag : OpenTag} {children : List Reading}
      (hgap : Text.allBlank gap = true) (htag : tag.WellFormed)
      (hname : vocabulary.recognizes (String.ofList tag.name) = true) (hne : children ≠ [])
      (hchildren : ∀ child ∈ children, Fits vocabulary child)
      (hlast : Text.allBlank last = true) (hending : '>' ∉ ending) :
      Fits vocabulary (.branch gap tag children last ending)

/-- The elements are all that a markup has, apart from blanks. -/
structure Describes (vocabulary : Vocabulary) (markup : String) (readings : List Reading) :
    Prop where
  fits : ∀ reading ∈ readings, Fits vocabulary reading
  pieces : (Token.split markup.toList).1 = piecesOfAll readings
  rest : Text.allBlank (Token.split markup.toList).2 = true

/-- What is between the tags of an element makes it one with tags inside, or one without. -/
theorem exists_fits {vocabulary : Vocabulary} {gap last ending : List Char} {tag : OpenTag}
    {children : List Reading} (hgap : Text.allBlank gap = true) (htag : tag.WellFormed)
    (hname : vocabulary.recognizes (String.ofList tag.name) = true)
    (hchildren : ∀ child ∈ children, Fits vocabulary child)
    (htext : Token.Precedes last (closing tag.name ending))
    (hlast : children ≠ [] → Text.allBlank last = true) (hending : '>' ∉ ending) :
    ∃ reading, Fits vocabulary reading ∧ reading.pieces =
      (gap, opening tag) :: (piecesOfAll children ++ [(last, closing tag.name ending)]) := by
  by_cases hne : children = []
  · subst hne
    exact ⟨.leaf gap tag last ending, .leaf hgap htag hname htext hending, rfl⟩
  · exact ⟨.branch gap tag children last ending,
      .branch hgap htag hname hne hchildren (hlast hne) hending, rfl⟩

end Reading

open Reading (closing opening piecesOfAll Fits)

/-! ## Steps -/

/-- The element with the text that stands directly inside it next. -/
def OpenElement.noteText (element : OpenElement) (text : List Char) : OpenElement :=
  { element with hasText := element.hasText || !Text.allBlank text }

/-- What a piece of the markup does to the open elements if it causes no remark. -/
inductive Step (vocabulary : Vocabulary) :
    List Char × Token → List OpenElement → List OpenElement → Prop
  | openOutside {gap : List Char} {tag : OpenTag} (location : Location)
      (hname : vocabulary.recognizes (String.ofList tag.name) = true)
      (hgap : Text.allBlank gap = true) :
      Step vocabulary (gap, opening tag) [] [{ name := String.ofList tag.name, location }]
  | openInside {gap : List Char} {tag : OpenTag} (location : Location) (parent : OpenElement)
      (outer : List OpenElement)
      (hname : vocabulary.recognizes (String.ofList tag.name) = true) :
      Step vocabulary (gap, opening tag) (parent :: outer)
        ({ name := String.ofList tag.name, location } ::
          { parent.noteText gap with hasTags := true } :: outer)
  | close {text ending : List Char} (element : OpenElement) (outer : List OpenElement)
      (hcontent : element.hasTags = true → (element.noteText text).hasText = false) :
      Step vocabulary (text, closing element.name.toList ending) (element :: outer) outer

namespace Checker

variable {vocabulary : Vocabulary} {checker : Checker} {text : List Char} {token : Token}
  {diagnostics : List Diagnostic}

/-- No remark has been made so far, and no text was met outside of all elements. -/
structure Silent (checker : Checker) : Prop where
  diagnostics : checker.report.diagnostics = []
  looseText : checker.looseText = false

theorem silent_remark :
    (checker.remark diagnostics).Silent ↔ checker.Silent ∧ diagnostics = [] := by
  have hreport : (checker.remark diagnostics).report.diagnostics =
      checker.report.diagnostics ++ diagnostics := Report.diagnostics_addAll _ _
  constructor
  · rintro ⟨hdiagnostics, hloose⟩
    obtain ⟨hbefore, hnew⟩ := List.append_eq_nil_iff.mp (hreport.symm.trans hdiagnostics)
    exact ⟨⟨hbefore, hloose⟩, hnew⟩
  · rintro ⟨⟨hdiagnostics, hloose⟩, rfl⟩
    exact ⟨by rw [hreport, hdiagnostics]; rfl, hloose⟩

/-- Text outside of all elements causes a remark at the end. -/
theorem silent_takeText :
    (checker.takeText text).Silent ↔
      checker.Silent ∧ (checker.stack = [] → Text.allBlank text = true) := by
  rw [takeText]
  cases hblank : Text.allBlank text with
  | true =>
    constructor
    · intro h
      exact ⟨⟨h.diagnostics, h.looseText⟩, fun _ => rfl⟩
    · rintro ⟨h, -⟩
      exact ⟨h.diagnostics, h.looseText⟩
  | false =>
    cases hstack : checker.stack with
    | nil =>
      constructor
      · intro h
        exact absurd h.looseText (by simp)
      · rintro ⟨-, h⟩
        exact absurd (h rfl) (by simp)
    | cons element outer =>
      constructor
      · intro h
        exact ⟨⟨h.diagnostics, h.looseText⟩, by simp⟩
      · rintro ⟨h, -⟩
        exact ⟨h.diagnostics, h.looseText⟩

theorem stack_takeText_nil (h : checker.stack = []) : (checker.takeText text).stack = [] := by
  rw [takeText]
  cases Text.allBlank text with
  | true => exact h
  | false =>
    simp only [h]
    rfl

theorem stack_takeText_cons {element : OpenElement} {outer : List OpenElement}
    (h : checker.stack = element :: outer) :
    (checker.takeText text).stack = element.noteText text :: outer := by
  rw [takeText, OpenElement.noteText]
  cases Text.allBlank text with
  | true =>
    simp only [Bool.not_true, Bool.or_false]
    exact h
  | false =>
    simp only [h, Bool.not_false, Bool.or_true]
    rfl

/-- A tag of a known name opens an element. -/
theorem silent_openElement (h : (checker.openElement vocabulary token).Silent) :
    checker.Silent ∧ vocabulary.recognizes (String.ofList token.tag.name) = true := by
  rw [openElement] at h
  obtain ⟨hsilent, hremarks⟩ := silent_remark.mp ⟨h.diagnostics, h.looseText⟩
  refine ⟨hsilent, ?_⟩
  have hunknown := (List.append_eq_nil_iff.mp hremarks).1
  cases hname : vocabulary.recognizes (String.ofList token.tag.name) with
  | true => rfl
  | false =>
    rw [hname] at hunknown
    simp at hunknown

/-- A closing tag closes the innermost element, and that one is not of mixed content. -/
theorem silent_closeElement (h : (checker.closeElement token).Silent) :
    checker.Silent ∧ ∃ element outer, checker.stack = element :: outer ∧
      element.name = String.ofList token.tag.name ∧
      (element.hasTags = true → element.hasText = false) ∧
      (checker.closeElement token).stack = outer := by
  rw [closeElement] at h ⊢
  cases hstack : checker.stack with
  | nil =>
    rw [hstack] at h
    exact absurd (silent_remark.mp h).2 (by simp)
  | cons element outer =>
    rw [hstack] at h
    by_cases hname : element.name = String.ofList token.tag.name
    · have hdrop : (element :: outer).dropWhile (·.name != String.ofList token.tag.name) =
          element :: outer := by
        rw [List.dropWhile_cons_of_neg (by simp [hname])]
      simp only [hdrop] at h ⊢
      obtain ⟨hsilent, hremarks⟩ := silent_remark.mp h
      have hcontent := (List.append_eq_nil_iff.mp hremarks).2
      refine ⟨⟨hsilent.diagnostics, hsilent.looseText⟩, element, outer, rfl, hname, ?_, rfl⟩
      intro htags
      cases htext : element.hasText with
      | false => rfl
      | true => simp [checkContent, htags, htext] at hcontent
    · -- either there is no element of the name, or the innermost one is not closed
      have htake : (element :: outer).takeWhile (·.name != String.ofList token.tag.name) =
          element :: outer.takeWhile (·.name != String.ofList token.tag.name) := by
        rw [List.takeWhile_cons_of_pos (by simp [hname])]
      simp only [htake] at h
      split at h
      · exact absurd (silent_remark.mp h).2 (by simp)
      · exact absurd (silent_remark.mp h).2 (by simp)

/-- A step of the check that leaves it silent. -/
theorem step_of_take {piece : List Char × Token} (h : (checker.take vocabulary piece).Silent) :
    checker.Silent ∧
      Step vocabulary piece checker.stack (checker.take vocabulary piece).stack := by
  obtain ⟨text, closes, tag⟩ := piece
  cases closes with
  | false =>
    have hopen : ((checker.takeText text).openElement vocabulary (opening tag)).Silent :=
      ⟨h.diagnostics, h.looseText⟩
    obtain ⟨htext, hname⟩ := silent_openElement hopen
    obtain ⟨hsilent, hblank⟩ := silent_takeText.mp htext
    refine ⟨hsilent, ?_⟩
    cases hstack : checker.stack with
    | nil =>
      have hafter : (checker.take vocabulary (text, opening tag)).stack =
          [{ name := String.ofList tag.name, location := (checker.takeText text).location }] := by
        show ({ name := String.ofList tag.name, .. } : OpenElement) :: _ = _
        rw [stack_takeText_nil hstack]
        rfl
      show Step vocabulary (text, opening tag) []
        (checker.take vocabulary (text, opening tag)).stack
      rw [hafter]
      exact .openOutside _ hname (hblank hstack)
    | cons parent outer =>
      have hafter : (checker.take vocabulary (text, opening tag)).stack =
          { name := String.ofList tag.name, location := (checker.takeText text).location } ::
            { parent.noteText text with hasTags := true } :: outer := by
        show ({ name := String.ofList tag.name, .. } : OpenElement) :: _ = _
        rw [stack_takeText_cons hstack]
        rfl
      show Step vocabulary (text, opening tag) _
        (checker.take vocabulary (text, opening tag)).stack
      rw [hafter]
      exact .openInside _ parent outer hname
  | true =>
    have hclose : ((checker.takeText text).closeElement (closing tag.name tag.attrs)).Silent :=
      ⟨h.diagnostics, h.looseText⟩
    obtain ⟨htext, element, outer, hstack, hname, hcontent, hafter⟩ := silent_closeElement hclose
    obtain ⟨hsilent, -⟩ := silent_takeText.mp htext
    refine ⟨hsilent, ?_⟩
    cases hbefore : checker.stack with
    | nil =>
      rw [stack_takeText_nil hbefore] at hstack
      simp at hstack
    | cons element' outer' =>
      rw [stack_takeText_cons hbefore] at hstack
      obtain ⟨rfl, rfl⟩ := List.cons.inj hstack
      have hlist : tag.name = element'.name.toList := by
        have : element'.name = String.ofList tag.name := hname
        rw [this, String.toList_ofList]
      show Step vocabulary (text, closing tag.name tag.attrs) _
        ((checker.takeText text).closeElement (closing tag.name tag.attrs)).stack
      rw [hafter, hlist]
      exact .close element' outer' hcontent

end Checker

/-! ## The whole markup -/

/-- The pieces that are left close the open elements, the innermost first, and what is outside of
them is elements again. -/
inductive Closes (vocabulary : Vocabulary) :
    List OpenElement → List (List Char × Token) → Prop
  | outside {readings : List Reading} (hfits : ∀ reading ∈ readings, Fits vocabulary reading) :
      Closes vocabulary [] (piecesOfAll readings)
  | close {element : OpenElement} {outer : List OpenElement} {children : List Reading}
      {last ending : List Char} {pieces : List (List Char × Token)}
      (hfits : ∀ child ∈ children, Fits vocabulary child)
      (htext : Token.Precedes last (closing element.name.toList ending)) (hending : '>' ∉ ending)
      (hcontent : element.hasTags = true ∨ children ≠ [] →
        (element.noteText last).hasText = false)
      (houter : Closes vocabulary outer pieces) :
      Closes vocabulary (element :: outer)
        (piecesOfAll children ++ (last, closing element.name.toList ending) :: pieces)

theorem OpenElement.noteText_eq_false {element : OpenElement} {text : List Char}
    (h : (element.noteText text).hasText = false) :
    element.hasText = false ∧ Text.allBlank text = true := by
  simpa [noteText] using h

/-- A new element together with its closing tag, in front of what follows in the element around
it. -/
theorem Closes.exists_reading {vocabulary : Vocabulary} {gap : List Char} {tag : OpenTag}
    {location : Location} {outer : List OpenElement} {pieces : List (List Char × Token)}
    (h : Closes vocabulary ({ name := String.ofList tag.name, location } :: outer) pieces)
    (hgap : Text.allBlank gap = true) (htag : tag.WellFormed)
    (hname : vocabulary.recognizes (String.ofList tag.name) = true) :
    ∃ reading pieces', Fits vocabulary reading ∧
      (gap, opening tag) :: pieces = reading.pieces ++ pieces' ∧
      Closes vocabulary outer pieces' := by
  cases h with
  | @close _ _ children last ending pieces' hfits htext hending hcontent houter =>
    rw [String.toList_ofList] at htext
    have hlast : children ≠ [] → Text.allBlank last = true := fun hne =>
      (OpenElement.noteText_eq_false (hcontent (.inr hne))).2
    obtain ⟨reading, hreading, hpieces⟩ :=
      Reading.exists_fits hgap htag hname hfits htext hlast hending
    refine ⟨reading, pieces', hreading, ?_, houter⟩
    rw [hpieces, String.toList_ofList, List.cons_append, List.append_assoc, List.singleton_append]

/-- Going back over a silent step. -/
theorem Step.closes {vocabulary : Vocabulary} {piece : List Char × Token}
    {stack stack' : List OpenElement} {pieces : List (List Char × Token)}
    (hstep : Step vocabulary piece stack stack') (htag : piece.2.tag.WellFormed)
    (htext : Token.Precedes piece.1 piece.2) (h : Closes vocabulary stack' pieces) :
    Closes vocabulary stack (piece :: pieces) := by
  cases hstep with
  | openOutside location hname hgap =>
    obtain ⟨reading, pieces', hreading, hpieces, houter⟩ := h.exists_reading hgap htag hname
    cases houter with
    | outside hfits =>
      rw [hpieces]
      exact .outside (List.forall_mem_cons.mpr ⟨hreading, hfits⟩)
  | @openInside gap tag location parent outer hname =>
    -- the parent has a tag inside now, so the text before that tag is blank
    have hparent : (parent.noteText gap).hasText = false := by
      cases h with
      | close _ _ _ _ houter =>
        cases houter with
        | close _ _ _ hcontent _ => exact (OpenElement.noteText_eq_false (hcontent (.inl rfl))).1
    obtain ⟨htext, hgap⟩ := OpenElement.noteText_eq_false hparent
    obtain ⟨reading, pieces', hreading, hpieces, houter⟩ := h.exists_reading hgap htag hname
    cases houter with
    | @close _ _ children last ending pieces'' hfits hlast hending hcontent houter =>
      have hblank := (OpenElement.noteText_eq_false (hcontent (.inl rfl))).2
      rw [hpieces, ← List.append_assoc]
      show Closes vocabulary _ (piecesOfAll (reading :: children) ++ _)
      refine .close (List.forall_mem_cons.mpr ⟨hreading, hfits⟩) hlast hending ?_ houter
      intro _
      rw [OpenElement.noteText, htext, hblank]
      rfl
  | close element outer hcontent =>
    show Closes vocabulary _ (piecesOfAll [] ++ _)
    refine .close (by simp) htext htag.gt_not_mem ?_ h
    rintro (htags | hne)
    · exact hcontent htags
    · exact absurd rfl hne

namespace Checker

/-- The check of what is left of a markup. -/
theorem closes_of_silent {vocabulary : Vocabulary} {checker : Checker}
    {pieces : List (List Char × Token)} {rest : List Char}
    (htag : ∀ piece ∈ pieces, piece.2.tag.WellFormed)
    (htext : ∀ piece ∈ pieces, Token.Precedes piece.1 piece.2)
    (h : ((pieces.foldl (take vocabulary) checker).takeText rest).finish.diagnostics = []) :
    checker.Silent ∧ Closes vocabulary checker.stack pieces ∧ Text.allBlank rest = true := by
  induction pieces generalizing checker with
  | nil =>
    rw [List.foldl_nil, finish, remark, Report.diagnostics_addAll] at h
    obtain ⟨hreport, hremarks⟩ := List.append_eq_nil_iff.mp h
    obtain ⟨hopen, hloose⟩ := List.append_eq_nil_iff.mp hremarks
    have hstack : (checker.takeText rest).stack = [] := List.map_eq_nil_iff.mp hopen
    have hsilent : (checker.takeText rest).Silent := by
      refine ⟨hreport, ?_⟩
      cases hlooseText : (checker.takeText rest).looseText with
      | false => rfl
      | true => simp [hlooseText] at hloose
    obtain ⟨hbefore, hrest⟩ := silent_takeText.mp hsilent
    have hempty : checker.stack = [] := by
      cases hchecker : checker.stack with
      | nil => rfl
      | cons element outer =>
        rw [stack_takeText_cons hchecker] at hstack
        simp at hstack
    refine ⟨hbefore, ?_, hrest hempty⟩
    rw [hempty]
    show Closes vocabulary [] (piecesOfAll [])
    exact .outside (by simp)
  | cons piece pieces ih =>
    obtain ⟨htag₁, htag⟩ := List.forall_mem_cons.mp htag
    obtain ⟨htext₁, htext⟩ := List.forall_mem_cons.mp htext
    obtain ⟨hsilent, hcloses, hrest⟩ := ih htag htext h
    obtain ⟨hbefore, hstep⟩ := step_of_take hsilent
    exact ⟨hbefore, hstep.closes htag₁ htext₁ hcloses, hrest⟩

end Checker

/-- A markup about which the check has nothing to remark is made of elements. -/
theorem exists_describes {vocabulary : Vocabulary} {markup : String}
    (h : (checkWith vocabulary markup).diagnostics = []) :
    ∃ readings, Reading.Describes vocabulary markup readings := by
  obtain ⟨-, htag, htext⟩ := Markup.Token.splits_split markup.toList
  obtain ⟨-, hcloses, hrest⟩ := Checker.closes_of_silent htag htext h
  generalize hpieces : (Token.split markup.toList).1 = pieces at hcloses
  cases hcloses with
  | @outside readings hfits => exact ⟨readings, hfits, hpieces, hrest⟩

end Lint

end Receipt
