import Receipt.Cli.Arguments
import Receipt.Cli.Help
import Receipt.Cli.Host
import Receipt.Device.Printer
import Receipt.Json.Document
import Receipt.Json.Write
import Receipt.Lint.Check
import Receipt.Render
import Receipt.Toml.Config

/-!
Carrying out a command line on a host. What is to be printed is part of the result.
-/

namespace Receipt.Cli

/-- How the program ends. -/
structure Ending where
  out : String := ""
  err : String := ""
  exitCode : UInt32 := 0
  /-- Why it ends early. -/
  failure : Option Failure := none
  /-- What was reported on the way. -/
  events : List Event := []

/-- The version of the program. -/
def versionNumber : String := "0.2.1"

/-- What the program says about itself. -/
def infoText : String :=
  "ticketml - table markup renderer for receipt printers\n" ++
  "Version: " ++ versionNumber ++ "\n" ++
  "\n" ++
  "Features:\n" ++
  "  ✓ <table>/<tr>/<td> markup with quoted attributes\n" ++
  "  ✓ Fixed and auto column widths, cell wrapping\n" ++
  "  ✓ Nested tables inside cells\n" ++
  "  ✓ Per-row fontSize, fontFamily and lineHeight\n" ++
  "  ✓ Markup diagnostics\n" ++
  "\n"

/-! ## Texts of the commands -/

/-- Lines of text, each with its end. -/
def linesText (lines : List String) : String :=
  String.join (lines.map (· ++ "\n"))

/-- What is said of a command line that is none. -/
def misuseText : String :=
  linesText
    ["error: the arguments do not make up a command line", "", "Usage: " ++ Place.top.usage, "",
      "For more information, try '--help'."]

/-- A row between bars, with its props. -/
def rowText (row : Row) : String :=
  "|" ++ row.text ++ "| " ++
    " ".intercalate (row.props.entries.map fun (key, value) => key ++ "=" ++ value)

/-- A command of a device, on one line. -/
def commandText (command : Receipt.Command) : String :=
  "y=" ++ Event.numberLeft 5 command.box.y.toNat ++
  " h=" ++ Event.numberLeft 4 command.box.height.toNat ++
  " size=" ++ Event.numberLeft 4 command.font.size.toNat ++
  " font=" ++ command.font.name ++ " |" ++ command.text ++ "|"

/-! ## Hosts -/

section

variable {m : Type → Type} [Monad m]

/-- A job on a host that may fail. -/
abbrev Job (m : Type → Type) := ExceptT Failure m

/-- The text of bytes, if they are UTF-8. -/
def textOf (bytes : List UInt8) : Except Failure String :=
  match Text.Utf8.decode bytes with
  | .ok text => .ok text
  | .error _ => .error .notText

/-- The text of an input: of a file, or of what the host is given. -/
def readText (host : Host m) : Option String → Job m String
  | some path => do
    match ← host.fileBytes path with
    | .ok bytes => MonadExcept.ofExcept (textOf bytes)
    | .error error => throw (.file error)
  | none => do MonadExcept.ofExcept (textOf (← host.inputBytes))

/-- The configuration in a file, and what is reported on reading it. -/
def loadConfig (host : Host m) (path : String) : Job m (Config × List Event) := do
  match ← host.fileBytes path with
  | .error error => throw (.render (.config (path ++ ": " ++ error.numbered)))
  | .ok bytes =>
    match Text.Utf8.decode bytes with
    | .error _ => throw (.render (.config (path ++ ": " ++ Failure.notTextMessage)))
    | .ok text =>
      match Config.ofToml? text with
      | some config => pure (config, [.configLoaded path])
      | none => throw .badConfig

/-- The configuration of a command line. Widths that are given count more than those of the file. -/
def configOf (host : Host m) (settings : Settings) : Job m (Config × List Event) := do
  let (config, events) ← match settings.config with
    | some path => loadConfig host path
    | none => pure ({}, [])
  let layout : LayoutOptions :=
    { colWidth := settings.colWidth.getD config.layout.colWidth
      borderWidth := settings.borderWidth.getD config.layout.borderWidth }
  pure ({ config with layout }, events)

/-- Prints a document on a device that keeps what it is given. -/
def printInMemory (config : Config) (markup : String) : Printer.Outcome MemoryTarget :=
  let device := Device.new ({} : MemoryTarget) config.device
  let printer : Printer MemoryTarget := { device, options := config.layout }
  printer.printMarkup markup

/-- Carries out a command. -/
def perform (host : Host m) (config : Config) : Command → Job m Ending
  | .render input output => do
    let markup ← readText host input
    let lines := renderLines config.layout markup
    let events := renderEvents config.layout markup
    match output with
    | none => pure { out := linesText lines, events }
    | some path =>
      match ← host.putFile path (linesText lines) with
      | .ok () =>
        pure { err := s!"✓ {lines.length} line(s) written to: {path}\n", events }
      | .error error => throw (.file error)
  | .tree input => do
    let markup ← readText host input
    pure
      { out := (Json.ofDocument (compile markup)).pretty ++ "\n"
        events := (Compiler.ofMarkup markup).compileEvents }
  | .rows input => do
    let markup ← readText host input
    pure
      { out := linesText ((renderRows config.layout markup).map rowText)
        events := renderEvents config.layout markup }
  | .commands input => do
    let markup ← readText host input
    let outcome := printInMemory config markup
    let events := outcome.events
    match outcome.status with
    | .empty => pure { err := "Nothing to print\n", events }
    | .failed => pure { err := "Error: print device failed\n", exitCode := 1, events }
    | .printed _ =>
      let batches := outcome.printer.device.target.batches
      pure { out := linesText (batches.flatten.map commandText), events }
  | .check input colored => do
    let markup ← readText host input
    let report := Receipt.check markup
    pure
      { out := report.format colored ++ "\n"
        exitCode := if report.hasErrors then 1 else 0 }
  | .info => pure { out := infoText }

/-- How the program ends after a failure. -/
def Ending.ofFailure (failure : Failure) : Ending where
  err := "Error: " ++ failure.describe ++ "\n"
  exitCode := 1
  failure := some failure

/-- Carries out a request. -/
def Request.carryOut (host : Host m) : Request → m Ending
  | .version => pure { out := "tml " ++ versionNumber ++ "\n" }
  | .help topic => pure { out := linesText topic.lines }
  | .misuse => pure { err := misuseText, exitCode := 2 }
  | .run settings command => do
    let job : Job m Ending := do
      let (config, events) ← configOf host settings
      let ending ← perform host config command
      pure { ending with events := events ++ ending.events }
    match ← job.run with
    | .ok ending => pure ending
    | .error failure => pure (Ending.ofFailure failure)

/-- Whether a request asks for the reports to be shown. -/
def Request.isVerbose : Request → Bool
  | .run settings _ => settings.verbose
  | _ => false

/-- Carries out a command line. -/
def run (host : Host m) (arguments : List String) : m Ending :=
  (Request.ofArguments arguments).carryOut host

end

end Receipt.Cli
