import Receipt.Cli.Arguments
import Receipt.Text.Columns

/-!
Help on command lines. The help on a place lists what may be given there: at the top the commands,
then the input if there may be one, then the options that the place accepts.
-/

namespace Receipt.Cli

/-- A name, and what it stands for. -/
structure HelpEntry where
  name : String
  about : String

/-- The entries under a title, in two columns. -/
def helpSection (title : String) (entries : List HelpEntry) : List String :=
  let width := (entries.map (·.name.length)).foldl max 0
  title :: entries.map fun entry =>
    "  " ++ String.ofList (Text.padRight width entry.name.toList) ++ "  " ++ entry.about

/-- What the asking for help gives. -/
def helpAbout : String :=
  "Print this message or the help of the given subcommand(s)"

namespace Place

/-- What is done with the command line at a place. -/
def about : Place → String
  | top => "ticketml - table markup renderer for receipt printers"
  | render => "Render markup to lines (default action)"
  | tree => "Print the compiled hash-tree as JSON"
  | rows => "Print each row with its effective props"
  | commands => "Print the device commands for the markup"
  | check => "Check markup for dropped or malformed content"
  | info => "Show version and feature info"

/-- The input that may be named at a place. -/
def inputEntries (place : Place) : List HelpEntry :=
  if place.takesInput then
    match place with
    | top => [⟨"[INPUT_FILE]", "Input file path (reads from stdin if not provided)"⟩]
    | check => [⟨"[INPUT]", "Input file to check"⟩]
    | _ => [⟨"[INPUT]", "Input file path"⟩]
  else []

/-- What an option means at a place. -/
def aboutSwitch (place : Place) : Switch → String
  | .valued .output =>
    if place = top then "Output file path (writes to stdout if not provided)"
    else "Output file path"
  | .valued .config => "TOML configuration file"
  | .valued .colWidth => "Default column width, overrides the configuration"
  | .valued .borderWidth => "Spacing between columns, overrides the configuration"
  | .flag .verbose => "Verbose logging"
  | .flag .noColor => "Disable colored output"
  | .flag .help => "Print help"
  | .flag .version => "Print version"

end Place

/-- The word that stands for the value of an option. -/
def Valued.placeholder : Valued → String
  | config => "<CONFIG>"
  | colWidth => "<COL_WIDTH>"
  | borderWidth => "<BORDER_WIDTH>"
  | output => "<OUTPUT>"

/-- An option with its names, the short one first, and its value. -/
def Switch.shown (switch : Switch) : String :=
  let short := match switch.shortName? with
    | some name => "-" ++ String.singleton name ++ ", "
    | none => "    "
  let value := match switch with
    | valued option => " " ++ option.placeholder
    | flag _ => ""
  short ++ "--" ++ switch.longName ++ value

namespace Place

/-- The options that a place accepts. -/
def switchEntries (place : Place) : List HelpEntry :=
  (Switch.all.filter place.accepts).map fun switch => ⟨switch.shown, place.aboutSwitch switch⟩

/-- The commands that may be given at a place. -/
def commandEntries : Place → List HelpEntry
  | top =>
    (afterCommand.filterMap fun place => place.name?.map fun name => ⟨name, place.about⟩) ++
      [⟨"help", helpAbout⟩]
  | _ => []

/-- How a command line is made up. -/
def usage (place : Place) : String :=
  " ".intercalate <|
    ["tml"] ++ place.name?.toList ++ ["[OPTIONS]"] ++ place.inputEntries.map (·.name) ++
      if place = top then ["[COMMAND]"] else []

end Place

/-- Help, as its lines: what a command line does, how it is made up, and the sections that are not
empty. -/
def helpLines (about usage : String) (sections : List (String × List HelpEntry)) : List String :=
  [about, "", "Usage: " ++ usage] ++
    (sections.filter fun part => !part.2.isEmpty).flatMap fun part =>
      "" :: helpSection part.1 part.2

/-- The help on a topic, as its lines. -/
def Topic.lines : Topic → List String
  | ofPlace place =>
    helpLines place.about place.usage
      [("Commands:", place.commandEntries), ("Arguments:", place.inputEntries),
        ("Options:", place.switchEntries)]
  | ofHelp =>
    helpLines helpAbout "tml help [COMMAND]..."
      [("Arguments:", [⟨"[COMMAND]...", "Print help for the subcommand(s)"⟩])]

end Receipt.Cli
