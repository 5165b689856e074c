/-!
Diagnostics: remarks on a markup, and reports that collect them.
-/

namespace Receipt

/-- How grave a remark is, from the least to the most. -/
inductive Level where
  | info
  | warning
  | error
deriving DecidableEq

namespace Level

/-- The name of a level. -/
def name : Level → String
  | info => "info"
  | warning => "warning"
  | error => "error"

/-- The place of a level among the levels. -/
def rank : Level → Nat
  | info => 0
  | warning => 1
  | error => 2

/-- The graver of two levels. -/
def max (a b : Level) : Level :=
  if a.rank < b.rank then b else a

end Level

/-- A place in a text. Lines are counted from 1, and columns in bytes from 1. -/
structure Location where
  line : Nat := 1
  column : Nat := 1
deriving DecidableEq

namespace Location

/-- The place after a character. -/
def advance (location : Location) (c : Char) : Location :=
  if c = '\n' then ⟨location.line + 1, 1⟩ else ⟨location.line, location.column + c.utf8Size⟩

/-- The place after a text. -/
def after (location : Location) (cs : List Char) : Location :=
  cs.foldl advance location

end Location

/-- A remark on a markup. -/
structure Diagnostic where
  level : Level
  message : String
  line : Option Nat := none
  column : Option Nat := none
  /-- The piece of markup that the remark is about. -/
  source : Option String := none
  /-- How to do better. -/
  suggestion : Option String := none
deriving DecidableEq

namespace Diagnostic

/-- The remark, made about a place. -/
def withLocation (diagnostic : Diagnostic) (location : Location) : Diagnostic :=
  { diagnostic with line := some location.line, column := some location.column }

/-- The remark in words. -/
def text (diagnostic : Diagnostic) : String :=
  let place := match diagnostic.line, diagnostic.column with
    | some line, some column => s!"\n  --> line {line}:{column}"
    | _, _ => ""
  let source := match diagnostic.source with
    | some source => "\n  |\n  | " ++ source
    | none => ""
  let help := match diagnostic.suggestion with
    | some suggestion => "\n  = help: " ++ suggestion
    | none => ""
  diagnostic.level.name ++ ": " ++ diagnostic.message ++ place ++ source ++ help

end Diagnostic

/-- Remarks in the order in which they were made, and how many there are of each level. -/
structure Report where
  diagnostics : List Diagnostic := []
  errors : Nat := 0
  warnings : Nat := 0
  infos : Nat := 0

namespace Report

/-- The report with another remark. -/
def add (report : Report) (diagnostic : Diagnostic) : Report :=
  let report := { report with diagnostics := report.diagnostics ++ [diagnostic] }
  match diagnostic.level with
  | .error => { report with errors := report.errors + 1 }
  | .warning => { report with warnings := report.warnings + 1 }
  | .info => { report with infos := report.infos + 1 }

/-- The report with more remarks. -/
def addAll (report : Report) (diagnostics : List Diagnostic) : Report :=
  diagnostics.foldl add report

/-- Whether a remark is an error. -/
def hasErrors (report : Report) : Bool :=
  0 < report.errors

/-- Whether there are no remarks. -/
def isEmpty (report : Report) : Bool :=
  report.diagnostics.isEmpty

/-- The gravest level of a remark, if there is a remark. -/
def worst? (report : Report) : Option Level :=
  match report.diagnostics.map (·.level) with
  | [] => none
  | level :: levels => some (levels.foldl Level.max level)

/-- So many things of a kind, or nothing if there are none. -/
def counted (n : Nat) (kind : String) : List String :=
  if n = 0 then [] else [s!"{n} {kind}" ++ if n = 1 then "" else "s"]

/-- The report in a few words. -/
def summary (report : Report) : String :=
  match counted report.errors "error" ++ counted report.warnings "warning" ++
      counted report.infos "note" with
  | [] => "no issues found"
  | parts => ", ".intercalate parts

/-! ## Terminal output -/

/-- The escape sequence that ends a color. -/
def plainColor : String := "\x1b[0m"

/-- The escape sequence for the color of a level. -/
def levelColor : Level → String
  | .error => "\x1b[31m"
  | .warning => "\x1b[33m"
  | .info => "\x1b[34m"

/-- The escape sequence for the color of the summary. -/
def summaryColor (report : Report) : String :=
  if report.hasErrors then "\x1b[31m"
  else if 0 < report.warnings then "\x1b[33m"
  else "\x1b[32m"

/-- The report for a terminal, with or without colors. -/
def format (report : Report) (colored : Bool) : String :=
  let paint (color text : String) := if colored then color ++ text ++ plainColor else text
  let remarks := report.diagnostics.map fun diagnostic =>
    paint (levelColor diagnostic.level) diagnostic.text ++ "\n\n"
  String.join remarks ++ paint report.summaryColor ("Summary: " ++ report.summary)

end Report

end Receipt
