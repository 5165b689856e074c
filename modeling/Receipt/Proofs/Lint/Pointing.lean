import Receipt.Proofs.Lint.Remarks

/-!
# What remarks point at

Every remark of the check but the one on text outside of all elements names a place.  It is the
place of the tag that the remark is about, however late the remark is made: an element that is open
keeps the place of its opening tag until it is closed or given up.

* `Concerns` says which tag a remark is about, from the pairing of the tags alone.
* `PointsAt` says which place a remark names, from the bytes of the markup alone.
* `exists_concerns` and `Concerns.mem_diagnostics`: every remark that names a place concerns a tag,
  and whatever concerns a tag is remarked on.
* `located_remarks_point_at_tags` puts the two together.
-/

namespace Receipt

/-- Whether a remark names a place. -/
def Diagnostic.isLocated (diagnostic : Diagnostic) : Bool :=
  diagnostic.line.isSome || diagnostic.column.isSome

namespace Lint

open Markup (OpenTag Token)
open Reading (opening)

variable {pieces : List (List Char × Token)} {tag : PlacedTag} {vocabulary : Vocabulary}
  {markup : String} {diagnostic : Diagnostic}

/-! ## Which tag a remark is about -/

/-- A remark is about a tag of a markup: about an opening tag with an unknown name or with a value
that cannot be used, about an opening tag that nothing closes or a closing tag that closes nothing,
or about the opening tag of an element in which text stands beside tags. -/
inductive Concerns (vocabulary : Vocabulary) (markup : String) (tag : PlacedTag) :
    Diagnostic → Prop
  | name (hopens : tag.token.closes = false) (hname : vocabulary.recognizes tag.name = false) :
      Concerns vocabulary markup tag (unknownTag tag.token tag.location)
  | width {value : String} (hopens : tag.token.closes = false)
      (hvalue : (Markup.readProps tag.token.tag.attrs).get? ColumnWidth.key = some value)
      (hwidth : ColumnWidth.read? value = none) :
      Concerns vocabulary markup tag (unusableWidth value tag.location)
  | number {key value : String} (hopens : tag.token.closes = false)
      (hkey : key = fontSizeKey ∨ key = lineHeightKey)
      (hvalue : (Markup.readProps tag.token.tag.attrs).get? key = some value)
      (hnumber : Text.Decimal.readUInt32? value.toList = none) :
      Concerns vocabulary markup tag (notNumeric key value tag.location)
  | unclosed (h : tag ∈ (Pairing.ofTags (placedTags markup)).unclosed) :
      Concerns vocabulary markup tag (Lint.unclosed tag.element)
  | unmatched (h : tag ∈ (Pairing.ofTags (placedTags markup)).unmatched) :
      Concerns vocabulary markup tag (Lint.unmatched tag.name tag.location)
  | mixed {closed : PlacedTag} (h : (tag, closed) ∈ (Pairing.ofTags (placedTags markup)).pairs)
      (hmixed : isMixedIn (Token.split markup.toList).1 tag = true) :
      Concerns vocabulary markup tag (mixedContent tag.element)

/-- How many bytes stand before the tag. -/
def PlacedTag.start (tag : PlacedTag) : Nat := Text.Utf8.length tag.before

/-- The bytes of a markup that stand before an offset. -/
def bytesBefore (markup : String) (start : Nat) : List UInt8 :=
  markup.toUTF8.data.toList.take start

/-- A remark names the place at which a tag of a markup starts.  Lines and columns are counted from
1, and the line and the column together say how many bytes stand before the tag. -/
structure PointsAt (diagnostic : Diagnostic) (markup : String) (tag : PlacedTag) : Prop where
  stands : Text.StandsAt markup.toList tag.token.write tag.start
    (tag.start + Text.Utf8.length tag.token.write)
  line : diagnostic.line = some (1 + (bytesBefore markup tag.start).count Text.Utf8.lineFeed)
  column : diagnostic.column =
    some (1 + ((bytesBefore markup tag.start).rtakeWhile (· != Text.Utf8.lineFeed)).length)
  lookup : ∃ location,
    diagnostic.line = some location.line ∧ diagnostic.column = some location.column ∧
    Location.locate? (Text.lineStarts markup.toList) tag.start = some location ∧
    Location.offset? (Text.lineStarts markup.toList) location = some tag.start

theorem exists_eq_append_of_mem_placedFrom {before : List Char}
    (h : tag ∈ placedFrom before pieces) :
    ∃ after, before ++ Token.writePieces pieces = tag.before ++ tag.token.write ++ after := by
  induction pieces generalizing before with
  | nil => exact absurd h List.not_mem_nil
  | cons piece pieces ih =>
    rw [Token.writePieces_cons, ← List.append_assoc, ← List.append_assoc]
    rcases List.mem_cons.mp h with rfl | hrest
    · exact ⟨_, rfl⟩
    · exact ih hrest

theorem exists_toList_eq_append (h : tag ∈ placedTags markup) :
    ∃ after, markup.toList = tag.before ++ tag.token.write ++ after := by
  obtain ⟨after, hafter⟩ := exists_eq_append_of_mem_placedFrom h
  refine ⟨after ++ (Token.split markup.toList).2, ?_⟩
  rw [← List.append_assoc, ← hafter]
  exact (Token.splits_split markup.toList).eq

/-- Looking up where a tag starts gives its place. -/
theorem locate?_start (h : tag ∈ placedTags markup) :
    Location.locate? (Text.lineStarts markup.toList) tag.start = some tag.location := by
  obtain ⟨after, hmarkup⟩ := exists_toList_eq_append h
  rw [hmarkup, List.append_assoc]
  exact Location.locate?_lineStarts tag.before _

/-- A remark with the place of a tag names the place at which the tag starts. -/
theorem pointsAt_of_mem_placedTags
    (h : tag ∈ placedTags markup) (hline : diagnostic.line = some tag.location.line)
    (hcolumn : diagnostic.column = some tag.location.column) :
    PointsAt diagnostic markup tag := by
  obtain ⟨after, hmarkup⟩ := exists_toList_eq_append h
  have hbytes : bytesBefore markup tag.start = tag.before.flatMap String.utf8EncodeChar := by
    rw [bytesBefore, Text.Utf8.toList_toUTF8, hmarkup, List.append_assoc, List.flatMap_append]
    exact List.take_left' (Text.Utf8.length_flatMap_utf8EncodeChar tag.before)
  refine ⟨?_, ?_, ?_, tag.location, hline, hcolumn, locate?_start h, ?_⟩
  · rw [hmarkup]
    exact Text.standsAt_append tag.before tag.token.write after
  · rw [hline, hbytes, ← Location.line_after]
    rfl
  · rw [hcolumn, hbytes, ← Location.column_after]
    rfl
  · rw [hmarkup, List.append_assoc]
    exact Location.offset?_lineStarts tag.before _

namespace Concerns

theorem line_column (h : Concerns vocabulary markup tag diagnostic) :
    diagnostic.line = some tag.location.line ∧ diagnostic.column = some tag.location.column := by
  cases h with
  | name => exact ⟨rfl, rfl⟩
  | width => exact ⟨rfl, rfl⟩
  | number => exact ⟨rfl, rfl⟩
  | unclosed => exact ⟨rfl, rfl⟩
  | unmatched => exact ⟨rfl, rfl⟩
  | mixed => exact ⟨rfl, rfl⟩

theorem isLocated (h : Concerns vocabulary markup tag diagnostic) :
    diagnostic.isLocated = true := by
  rw [Diagnostic.isLocated, h.line_column.1]
  rfl

end Concerns

/-! ## Every remark and its tag -/

theorem opening_of_closes_eq_false (h : tag.token.closes = false) :
    opening tag.token.tag = tag.token := by
  rw [opening, ← h]

/-- The remarks on an opening tag concern that tag. -/
theorem concerns_of_mem_openingRemarks (hopens : tag.token.closes = false)
    (h : diagnostic ∈ openingRemarks vocabulary tag.token.tag tag.location) :
    Concerns vocabulary markup tag diagnostic := by
  rcases List.mem_append.mp h with hname | hprops
  · split at hname
    · exact absurd hname List.not_mem_nil
    · rename_i hunknown
      rw [List.mem_singleton.mp hname, opening_of_closes_eq_false hopens]
      exact .name hopens (Bool.eq_false_iff.mpr hunknown)
  · rcases mem_checkProps_iff.mp hprops with hwidth | ⟨key, hkey, hnumber⟩
    · obtain ⟨value, hvalue, hread, rfl⟩ := mem_checkWidth_iff.mp hwidth
      exact .width hopens hvalue hread
    · obtain ⟨value, hvalue, hread, rfl⟩ := mem_checkNumber_iff.mp hnumber
      exact .number hopens hkey hvalue hread

/-- What is wrong with a name or a value is remarked on. -/
theorem mem_warnings_of_mem_openingRemarks (htag : tag ∈ placedTags markup)
    (hopens : tag.token.closes = false)
    (h : diagnostic ∈ openingRemarks vocabulary tag.token.tag tag.location) :
    diagnostic ∈ (checkWith vocabulary markup).ofLevel .warning := by
  rw [ofLevel_warning_checkWith]
  have hopening : tag ∈ openingTags (placedTags markup) :=
    List.mem_filter.mpr ⟨htag, by rw [hopens]; rfl⟩
  exact List.mem_flatMap.mpr ⟨tag, hopening, h⟩

theorem covers_placedTags (markup : String) :
    (Pairing.ofTags (placedTags markup)).Covers (placedTags markup) :=
  Pairing.covers_ofTags (pairwise_offset [] _)

theorem Pairing.Covers.mem_of_mem_unclosed {pairing : Pairing} {tags : List PlacedTag}
    (h : pairing.Covers tags) (htag : tag ∈ pairing.unclosed) : tag ∈ tags :=
  (List.mem_filter.mp (h.openings.mem_iff.mpr (List.mem_append_right _ htag))).1

theorem Pairing.Covers.mem_of_mem_unmatched {pairing : Pairing} {tags : List PlacedTag}
    (h : pairing.Covers tags) (htag : tag ∈ pairing.unmatched) : tag ∈ tags :=
  (List.mem_filter.mp (h.closings.mem_iff.mpr (List.mem_append_right _ htag))).1

theorem Pairing.Covers.mem_of_mem_pairs {pairing : Pairing} {tags : List PlacedTag}
    (h : pairing.Covers tags) {pair : PlacedTag × PlacedTag} (hpair : pair ∈ pairing.pairs) :
    pair.1 ∈ tags :=
  (List.mem_filter.mp (h.openings.mem_iff.mpr
    (List.mem_append_left _ (List.mem_map_of_mem hpair)))).1

/-- A remark that names a place concerns a tag. -/
theorem exists_concerns (h : diagnostic ∈ (checkWith vocabulary markup).diagnostics)
    (hlocated : diagnostic.isLocated = true) :
    ∃ tag ∈ placedTags markup, Concerns vocabulary markup tag diagnostic := by
  have hcovers := covers_placedTags markup
  have hlevel : diagnostic ∈ (checkWith vocabulary markup).ofLevel diagnostic.level :=
    List.mem_filter.mpr ⟨h, decide_eq_true rfl⟩
  cases hcases : diagnostic.level with
  | warning =>
    rw [hcases, ofLevel_warning_checkWith] at hlevel
    obtain ⟨tag, hopening, hremark⟩ := List.mem_flatMap.mp hlevel
    obtain ⟨htag, hopens⟩ := List.mem_filter.mp hopening
    exact ⟨tag, htag, concerns_of_mem_openingRemarks ((Bool.not_eq_true' _).mp hopens) hremark⟩
  | error =>
    rw [hcases] at hlevel
    have herror := (ofLevel_error_checkWith vocabulary markup).mem_iff.mp hlevel
    rcases List.mem_append.mp herror with hunclosed | hunmatched
    · obtain ⟨tag, htag, rfl⟩ := List.mem_map.mp hunclosed
      exact ⟨tag, hcovers.mem_of_mem_unclosed htag, .unclosed htag⟩
    · obtain ⟨tag, htag, rfl⟩ := List.mem_map.mp hunmatched
      exact ⟨tag, hcovers.mem_of_mem_unmatched htag, .unmatched htag⟩
  | info =>
    obtain ⟨looseText, hinfo⟩ := ofLevel_info_checkWith_eq vocabulary markup
    rw [hcases, hinfo] at hlevel
    rcases List.mem_append.mp hlevel with hnote | hloose
    · obtain ⟨pair, hpair, rfl⟩ := List.mem_map.mp hnote
      obtain ⟨hpairs, hmixed⟩ := List.mem_filter.mp hpair
      exact ⟨pair.1, hcovers.mem_of_mem_pairs hpairs, .mixed hpairs hmixed⟩
    · -- the note on text outside of all elements names no place
      split at hloose
      · rw [List.mem_singleton.mp hloose] at hlocated
        exact absurd hlocated Bool.false_ne_true
      · exact absurd hloose List.not_mem_nil

/-- Whatever concerns a tag is remarked on. -/
theorem Concerns.mem_diagnostics (h : Concerns vocabulary markup tag diagnostic)
    (htag : tag ∈ placedTags markup) :
    diagnostic ∈ (checkWith vocabulary markup).diagnostics := by
  suffices hlevel : ∃ level, diagnostic ∈ (checkWith vocabulary markup).ofLevel level by
    obtain ⟨level, hmem⟩ := hlevel
    exact (List.mem_filter.mp hmem).1
  cases h with
  | name hopens hname =>
    refine ⟨_, mem_warnings_of_mem_openingRemarks htag hopens (List.mem_append_left _ ?_)⟩
    change vocabulary.recognizes (String.ofList tag.token.tag.name) = false at hname
    rw [hname, opening_of_closes_eq_false hopens]
    exact List.mem_singleton_self _
  | width hopens hvalue hwidth =>
    refine ⟨_, mem_warnings_of_mem_openingRemarks htag hopens (List.mem_append_right _ ?_)⟩
    exact mem_checkProps_iff.mpr (.inl (mem_checkWidth_iff.mpr ⟨_, hvalue, hwidth, rfl⟩))
  | number hopens hkey hvalue hnumber =>
    refine ⟨_, mem_warnings_of_mem_openingRemarks htag hopens (List.mem_append_right _ ?_)⟩
    exact mem_checkProps_iff.mpr
      (.inr ⟨_, hkey, mem_checkNumber_iff.mpr ⟨_, hvalue, hnumber, rfl⟩⟩)
  | unclosed h =>
    refine ⟨_, (ofLevel_error_checkWith vocabulary markup).mem_iff.mpr ?_⟩
    exact List.mem_append_left _ (List.mem_map.mpr ⟨tag, h, rfl⟩)
  | unmatched h =>
    refine ⟨_, (ofLevel_error_checkWith vocabulary markup).mem_iff.mpr ?_⟩
    exact List.mem_append_right _ (List.mem_map.mpr ⟨tag, h, rfl⟩)
  | @mixed closed h hmixed =>
    obtain ⟨looseText, hinfo⟩ := ofLevel_info_checkWith_eq vocabulary markup
    refine ⟨.info, ?_⟩
    rw [hinfo]
    exact List.mem_append_left _
      (List.mem_map.mpr ⟨(tag, closed), List.mem_filter.mpr ⟨h, hmixed⟩, rfl⟩)

/-- The remarks that name a place are those that concern a tag of the markup.  They name the place
at which that tag starts, in lines and bytes, and the number of bytes before the tag can be told
from it. For every tag the table of the lines gives its place, so that no difference is below zero.
-/
theorem located_remarks_point_at_tags (vocabulary : Vocabulary) (markup : String) :
    (∀ diagnostic, diagnostic ∈ (checkWith vocabulary markup).diagnostics ∧
        diagnostic.isLocated = true ↔
      ∃ tag ∈ placedTags markup,
        Concerns vocabulary markup tag diagnostic ∧ PointsAt diagnostic markup tag) ∧
    ∀ tag ∈ placedTags markup,
      Location.locate? (Text.lineStarts markup.toList) tag.start = some tag.location := by
  refine ⟨fun diagnostic => ⟨?_, ?_⟩, fun _ => locate?_start⟩
  · rintro ⟨hmem, hlocated⟩
    obtain ⟨tag, htag, hconcerns⟩ := exists_concerns hmem hlocated
    obtain ⟨hline, hcolumn⟩ := hconcerns.line_column
    exact ⟨tag, htag, hconcerns, pointsAt_of_mem_placedTags htag hline hcolumn⟩
  · rintro ⟨tag, htag, hconcerns, -⟩
    exact ⟨hconcerns.mem_diagnostics htag, hconcerns.isLocated⟩

/-- A markup of three lines, in which a letter of two bytes stands before a row and the row is
closed before what it contains. -/
def threeLines : String := "<td>\nä<tr width=\"0\">\n<i></tr></x>"

/-- The opening tag that is given up. -/
def threeLinesTag : PlacedTag :=
  ⟨"<td>\nä<tr width=\"0\">\n".toList, opening ⟨['i'], []⟩⟩

theorem located_remarks_point_at_tags_threeLines :
    threeLinesTag ∈ placedTags threeLines ∧
    Location.locate? (Text.lineStarts threeLines.toList) threeLinesTag.start = some ⟨3, 1⟩ ∧
    unclosed { name := "i", location := ⟨3, 1⟩ } ∈ (checkWith .standard threeLines).diagnostics ∧
    (checkWith .standard threeLines).diagnostics.map (fun diagnostic =>
        (diagnostic.message, diagnostic.line, diagnostic.column)) =
      [("width \"0\" is not usable, the default width applies", some 2, some 3),
        ("unknown tag <i> is dropped with its content", some 3, some 1),
        ("unclosed tag <i>", some 3, some 1),
        ("unmatched closing tag </x>", some 3, some 9),
        ("unclosed tag <td>", some 1, some 1)] := by
  obtain ⟨hremarks, hplaces⟩ := located_remarks_point_at_tags .standard threeLines
  have hmem : threeLinesTag ∈ placedTags threeLines := by decide +kernel
  have hlocation : threeLinesTag.location = ⟨3, 1⟩ := by decide +kernel
  have hunclosed : threeLinesTag ∈ (Pairing.ofTags (placedTags threeLines)).unclosed := by
    decide +kernel
  have hconcerns : Concerns .standard threeLines threeLinesTag
      (unclosed { name := "i", location := ⟨3, 1⟩ }) := by
    rw [← hlocation]
    exact .unclosed hunclosed
  obtain ⟨hline, hcolumn⟩ := hconcerns.line_column
  refine ⟨hmem, hlocation ▸ hplaces threeLinesTag hmem, ?_, by decide +kernel⟩
  exact ((hremarks _).mpr
    ⟨threeLinesTag, hmem, hconcerns, pointsAt_of_mem_placedTags hmem hline hcolumn⟩).1

end Lint

end Receipt
