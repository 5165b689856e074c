import Receipt.Device.RowStyle
import Receipt.Layout.Width
import Receipt.Lint.Diagnostic
import Receipt.Markup.Attributes
import Receipt.Markup.Token
import Receipt.Vocabulary

/-!
Checking a markup. Compiling drops without a word what it cannot use; the check says what is
dropped: tags of unknown names, tags that are not closed or not opened, values that cannot be used,
and text beside tags.

The check reads the tags one after the other and keeps the elements that are open.
-/

namespace Receipt.Lint

/-- An element whose close has not been met. -/
structure OpenElement where
  name : String
  /-- Where its opening tag stands. -/
  location : Location
  /-- Whether a tag stands directly inside it. -/
  hasTags : Bool := false
  /-- Whether a text that is not blank stands directly inside it. -/
  hasText : Bool := false
deriving DecidableEq

/-- How far a check has come. -/
structure Checker where
  /-- Where the rest of the text starts. -/
  location : Location := {}
  /-- The elements that are open, the innermost first. -/
  stack : List OpenElement := []
  /-- Whether a text that is not blank stands outside of all elements. -/
  looseText : Bool := false
  report : Report := {}

/-! ## Remarks -/

/-- A tag whose name is not in the vocabulary. -/
def unknownTag (token : Markup.Token) (location : Location) : Diagnostic :=
  { level := .warning
    message := s!"unknown tag <{String.ofList token.tag.name}> is dropped with its content"
    source := some (String.ofList token.write) : Diagnostic }.withLocation location

/-- An element that is never closed. -/
def unclosed (element : OpenElement) : Diagnostic :=
  { level := .error
    message := s!"unclosed tag <{element.name}>"
    suggestion := some s!"Add </{element.name}>" : Diagnostic }.withLocation element.location

/-- A closing tag without an element to close. -/
def unmatched (name : String) (location : Location) : Diagnostic :=
  { level := .error
    message := s!"unmatched closing tag </{name}>"
    suggestion := some s!"Check for a missing <{name}>" : Diagnostic }.withLocation location

/-- An element in which text stands beside tags. -/
def mixedContent (element : OpenElement) : Diagnostic :=
  { level := .info
    message := s!"text next to child tags in <{element.name}> is discarded"
    : Diagnostic }.withLocation element.location

/-- Text outside of all elements. -/
def looseTextNote : Diagnostic where
  level := .info
  message := "text outside of any tag is discarded"
  suggestion := some "Wrap the text in a <table>, <tr> or <td>"

/-- A width that cannot be used. -/
def unusableWidth (value : String) (location : Location) : Diagnostic :=
  { level := .warning
    message := "width \"" ++ value ++ "\" is not usable, the default width applies"
    suggestion := some "Use a positive integer or \"auto\"" : Diagnostic }.withLocation location

/-- A value that should be a number and is none. -/
def notNumeric (key value : String) (location : Location) : Diagnostic :=
  { level := .warning
    message := key ++ " \"" ++ value ++ "\" is not a number and is ignored"
    : Diagnostic }.withLocation location

/-- The remark on a prop that should hold a number. -/
def checkNumber (props : Props) (key : String) (location : Location) : List Diagnostic :=
  match props.get? key with
  | none => []
  | some value =>
    if (Text.Decimal.readUInt32? value.toList).isSome then []
    else [notNumeric key value location]

/-- The remark on a width. -/
def checkWidth (props : Props) (location : Location) : List Diagnostic :=
  match props.get? ColumnWidth.key with
  | none => []
  | some value =>
    if (ColumnWidth.read? value).isSome then [] else [unusableWidth value location]

/-- The remarks on the props of a tag. -/
def checkProps (props : Props) (location : Location) : List Diagnostic :=
  checkWidth props location ++ checkNumber props fontSizeKey location ++
    checkNumber props lineHeightKey location

/-- The remark on an element that is closed. -/
def checkContent (element : OpenElement) : List Diagnostic :=
  if element.hasTags && element.hasText then [mixedContent element] else []

namespace Checker

/-! ## Steps -/

/-- Adds remarks. -/
def remark (checker : Checker) (diagnostics : List Diagnostic) : Checker :=
  { checker with report := checker.report.addAll diagnostics }

/-- Goes past text between two tags. -/
def takeText (checker : Checker) (text : List Char) : Checker :=
  let checker := { checker with location := checker.location.after text }
  if Text.allBlank text then checker
  else
    match checker.stack with
    | [] => { checker with looseText := true }
    | element :: outer => { checker with stack := { element with hasText := true } :: outer }

/-- Opens an element. -/
def openElement (vocabulary : Vocabulary) (checker : Checker) (token : Markup.Token) : Checker :=
  let name := String.ofList token.tag.name
  let outer := match checker.stack with
    | [] => []
    | parent :: outer => { parent with hasTags := true } :: outer
  let unknown :=
    if vocabulary.recognizes name then [] else [unknownTag token checker.location]
  let checker := checker.remark
    (unknown ++ checkProps (Markup.readProps token.tag.attrs) checker.location)
  { checker with stack := { name, location := checker.location } :: outer }

/-- Closes the innermost element of a name, and with it every element inside. -/
def closeElement (checker : Checker) (token : Markup.Token) : Checker :=
  let name := String.ofList token.tag.name
  let inner := checker.stack.takeWhile (·.name != name)
  match checker.stack.dropWhile (·.name != name) with
  | [] => checker.remark [unmatched name checker.location]
  | element :: outer =>
    { checker with stack := outer }.remark (inner.map unclosed ++ checkContent element)

/-- Goes past a tag. -/
def takeToken (vocabulary : Vocabulary) (checker : Checker) (token : Markup.Token) : Checker :=
  let checker :=
    if token.closes then checker.closeElement token else checker.openElement vocabulary token
  { checker with location := checker.location.after token.write }

/-- Goes past a tag and the text before it. -/
def take (vocabulary : Vocabulary) (checker : Checker) (piece : List Char × Markup.Token) :
    Checker :=
  (checker.takeText piece.1).takeToken vocabulary piece.2

/-- Ends the check: what is still open is never closed. -/
def finish (checker : Checker) : Report :=
  (checker.remark
    (checker.stack.map unclosed ++ if checker.looseText then [looseTextNote] else [])).report

end Checker

end Lint

/-- The remarks on a markup, where the names of a vocabulary are known. -/
def checkWith (vocabulary : Vocabulary) (markup : String) : Report :=
  let (pieces, rest) := Markup.Token.split markup.toList
  ((pieces.foldl (Lint.Checker.take vocabulary) {}).takeText rest).finish

/-- The remarks on a markup of tables, rows and cells. -/
def check (markup : String) : Report :=
  checkWith .standard markup

end Receipt
