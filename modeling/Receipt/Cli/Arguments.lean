import Receipt.Text.Decimal

/-!
Command lines. Options that hold for every command may stand before or after the command; if they
stand in both places, the one after it counts. In one place, an option may be given once.
-/

namespace Receipt.Cli

/-- What the program is asked to do. -/
inductive Command where
  /-- Print the lines of a document, or write them to a file. -/
  | render (input output : Option String)
  /-- Print a document as JSON. -/
  | tree (input : Option String)
  /-- Print the rows of a document with their props. -/
  | rows (input : Option String)
  /-- Print the commands for a device. -/
  | commands (input : Option String)
  /-- Print the remarks on a markup. -/
  | check (input : Option String) (colored : Bool)
  /-- Print what the program is. -/
  | info
deriving DecidableEq

/-- The options that hold for every command. -/
structure Settings where
  /-- The path of a configuration. -/
  config : Option String := none
  colWidth : Option UInt64 := none
  borderWidth : Option UInt64 := none
  verbose : Bool := false
deriving DecidableEq

/-- Where in a command line an argument stands: before the command, or after it. -/
inductive Place where
  | top
  | render
  | tree
  | rows
  | commands
  | check
  | info
deriving DecidableEq

/-- What help can be asked for. -/
inductive Topic where
  /-- What may be given at a place. -/
  | ofPlace (place : Place)
  /-- The asking for help. -/
  | ofHelp
deriving DecidableEq

/-- What a command line means. -/
inductive Request where
  | run (settings : Settings) (command : Command)
  | version
  | help (topic : Topic)
  /-- The command line is none. -/
  | misuse
deriving DecidableEq

/-! ## Options -/

/-- An option that is followed by a value. -/
inductive Valued where
  | config
  | colWidth
  | borderWidth
  | output
deriving DecidableEq

/-- An option that stands for itself. -/
inductive Flag where
  | verbose
  | noColor
  | version
  | help
deriving DecidableEq

/-- Any option. -/
inductive Switch where
  | valued (option : Valued)
  | flag (flag : Flag)
deriving DecidableEq

/-- All options, in the order in which they are shown. -/
def Switch.all : List Switch :=
  [.valued .output, .flag .noColor, .valued .config, .valued .colWidth, .valued .borderWidth,
    .flag .verbose, .flag .help, .flag .version]

/-- The long name of an option, which follows two dashes. -/
def Switch.longName : Switch → String
  | .valued .config => "config"
  | .valued .colWidth => "col-width"
  | .valued .borderWidth => "border-width"
  | .valued .output => "output"
  | .flag .verbose => "verbose"
  | .flag .noColor => "no-color"
  | .flag .version => "version"
  | .flag .help => "help"

/-- The short name of an option, which follows one dash, if it has one. -/
def Switch.shortName? : Switch → Option Char
  | .valued .output => some 'o'
  | .flag .verbose => some 'v'
  | .flag .version => some 'V'
  | .flag .help => some 'h'
  | _ => none

/-- The option with a long name. -/
def Switch.ofLong? (name : String) : Option Switch :=
  all.find? (·.longName == name)

/-- The option with a short name. -/
def Switch.ofShort? (name : Char) : Option Switch :=
  all.find? (·.shortName? == some name)

/-! ## Places -/

/-- The name of the command that leads to a place. -/
def Place.name? : Place → Option String
  | .top => none
  | .render => some "render"
  | .tree => some "tree"
  | .rows => some "rows"
  | .commands => some "commands"
  | .check => some "check"
  | .info => some "info"

/-- The places after a command, in the order in which they are shown. -/
def Place.afterCommand : List Place :=
  [.render, .tree, .rows, .commands, .check, .info]

/-- The place after a command of the given name. -/
def Place.ofName? (name : String) : Option Place :=
  afterCommand.find? (·.name? == some name)

/-- Whether an option may stand at a place. -/
def Place.accepts (place : Place) : Switch → Bool
  | .valued .output => place = .top || place = .render
  | .valued _ => true
  | .flag .verbose => true
  | .flag .help => true
  | .flag .version => place = .top
  | .flag .noColor => place = .check

/-- Whether an input may be named at a place. -/
def Place.takesInput (place : Place) : Bool :=
  place ≠ .info

/-- What has been given at one place. -/
structure Given where
  settings : Settings := {}
  input : Option String := none
  output : Option String := none
  noColor : Bool := false

namespace Given

/-- Gives an option its value. It must not have one, and a width must be a number. -/
def setValue (given : Given) (value : String) : Valued → Option Given
  | .config =>
    if given.settings.config.isSome then none
    else some { given with settings := { given.settings with config := some value } }
  | .output =>
    if given.output.isSome then none else some { given with output := some value }
  | .colWidth =>
    if given.settings.colWidth.isSome then none
    else
      (Text.Decimal.readUInt64? value.toList).map fun width =>
        { given with settings := { given.settings with colWidth := some width } }
  | .borderWidth =>
    if given.settings.borderWidth.isSome then none
    else
      (Text.Decimal.readUInt64? value.toList).map fun width =>
        { given with settings := { given.settings with borderWidth := some width } }

/-- Names the input, of which there may be one. -/
def setInput (given : Given) (place : Place) (input : String) : Option Given :=
  if place.takesInput && given.input.isNone then some { given with input := some input } else none

/-- The request of a command line that ends here. `top` is what was given before the command. -/
def request (given top : Given) (place : Place) : Request :=
  let settings : Settings :=
    { config := given.settings.config <|> top.settings.config
      colWidth := given.settings.colWidth <|> top.settings.colWidth
      borderWidth := given.settings.borderWidth <|> top.settings.borderWidth
      verbose := given.settings.verbose || top.settings.verbose }
  .run settings <|
    match place with
    | .top | .render => .render given.input given.output
    | .tree => .tree given.input
    | .rows => .rows given.input
    | .commands => .commands given.input
    | .check => .check given.input (!given.noColor)
    | .info => .info

end Given

/-! ## Reading -/

/-- How the reading of options goes on. -/
inductive Step where
  | next (given : Given)
  /-- The next argument is the value of an option. -/
  | value (given : Given) (option : Valued)
  /-- The command line is settled. -/
  | done (request : Request)

/-- A step to what has been given, if it may be given. -/
def Step.orMisuse : Option Given → Step
  | some given => .next given
  | none => .done .misuse

/-- Takes a flag. -/
def Given.setFlag (given : Given) (place : Place) : Flag → Step
  | .version => .done .version
  | .help => .done (.help (.ofPlace place))
  | .verbose =>
    if given.settings.verbose then .done .misuse
    else .next { given with settings := { given.settings with verbose := true } }
  | .noColor =>
    if given.noColor then .done .misuse else .next { given with noColor := true }

/-- Takes an option with a long name, to which a value may be attached. -/
def readLong (place : Place) (given : Given) (argument : List Char) : Step :=
  let name := argument.takeWhile (· != '=')
  let attached := match argument.dropWhile (· != '=') with
    | [] => none
    | _ :: value => some (String.ofList value)
  match (Switch.ofLong? (String.ofList name)).filter place.accepts, attached with
  | some (.valued option), some value => .orMisuse (given.setValue value option)
  | some (.valued option), none => .value given option
  | some (.flag flag), none => given.setFlag place flag
  | some (.flag _), some _ => .done .misuse
  | none, _ => .done .misuse

/-- Takes options with short names, one after the other. What follows an option with a value is its
value. -/
def readShort (place : Place) (given : Given) : List Char → Step
  | [] => .next given
  | name :: more =>
    match (Switch.ofShort? name).filter place.accepts with
    | some (.valued option) =>
      match more with
      | [] => .value given option
      | '=' :: value => .orMisuse (given.setValue (String.ofList value) option)
      | value => .orMisuse (given.setValue (String.ofList value) option)
    | some (.flag flag) =>
      match given.setFlag place flag with
      | .next given => readShort place given more
      | step => step
    | none => .done .misuse

/-- What kind of argument it is. -/
inductive Argument where
  /-- Two dashes: no options follow. -/
  | separator
  | long (text : List Char)
  | short (names : List Char)
  | plain

/-- What kind of argument a text is. A single dash is a plain one. -/
def Argument.ofText (text : String) : Argument :=
  match text.toList with
  | ['-', '-'] => .separator
  | '-' :: '-' :: text => .long text
  | ['-'] => .plain
  | '-' :: names => .short names
  | _ => .plain

/-- Takes the inputs that follow when there are no more options. -/
def readPlain (place : Place) (top given : Given) : List String → Request
  | [] => given.request top place
  | argument :: rest =>
    match given.setInput place argument with
    | some given => readPlain place top given rest
    | none => .misuse

/-- Reads what help is asked for: by the name of a command, or by none for the help on all. -/
def readTopic : List String → Request
  | [] => .help (.ofPlace .top)
  | [name] =>
    match Place.ofName? name with
    | some place => .help (.ofPlace place)
    | none => if name = "help" then .help .ofHelp else .misuse
  | _ => .misuse

/-- Reads the arguments at a place. The option whose value is expected next is `pending`. -/
def readFrom (place : Place) (top given : Given) (pending : Option Valued) :
    List String → Request
  | [] =>
    match pending with
    | some _ => .misuse
    | none => given.request top place
  | argument :: rest =>
    match pending, Argument.ofText argument with
    | some option, .plain =>
      match given.setValue argument option with
      | some given => readFrom place top given none rest
      | none => .misuse
    | some _, _ => .misuse
    | none, .separator => readPlain place top given rest
    | none, .long text =>
      match readLong place given text with
      | .next given => readFrom place top given none rest
      | .value given option => readFrom place top given (some option) rest
      | .done request => request
    | none, .short names =>
      match readShort place given names with
      | .next given => readFrom place top given none rest
      | .value given option => readFrom place top given (some option) rest
      | .done request => request
    | none, .plain =>
      match place, Place.ofName? argument with
      | .top, some command => readFrom command given {} none rest
      | _, _ =>
        if place = .top ∧ argument = "help" then readTopic rest
        else
          match given.setInput place argument with
          | some given => readFrom place top given none rest
          | none => .misuse

/-- What a command line means. -/
def Request.ofArguments (arguments : List String) : Request :=
  readFrom .top {} {} none arguments

end Receipt.Cli
