import Receipt.Device.Command
import Receipt.Text.Columns
import Receipt.Text.Decimal
import Receipt.Text.Quoted

/-!
Events: what the stages report while they work. An event is data; `Event.severity` and
`Event.message` say how it appears in a log.
-/

namespace Receipt

/-- How grave an event is. -/
inductive Severity where
  | error
  | warn
  | info
  | debug
  | trace
deriving DecidableEq

/-- Something worth a line in a log. -/
inductive Event where
  /-- The tree that was compiled last is used again. -/
  | treeReused
  | compiling (bytes : Nat)
  | tagDropped (name : String)
  | nodeIgnored (name : String)
  | widthUnusable (value : String) (colWidth : UInt64)
  | valueNotNumeric (key value : String)
  | emitting (commands : Nat)
  | printFailed (error : DeviceError)
  /-- A line that a logging device was given, numbered from 1 in its batch. -/
  | lineQueued (number : Nat) (command : Command)
  /-- A logging device printed its lines. -/
  | linesPrinted (lines : Nat)
  | configLoaded (path : String)
deriving DecidableEq

namespace Event

/-- How grave an event is. -/
def severity : Event → Severity
  | treeReused => .debug
  | compiling _ => .debug
  | tagDropped _ => .trace
  | nodeIgnored _ => .trace
  | widthUnusable _ _ => .warn
  | valueNotNumeric _ _ => .warn
  | emitting _ => .debug
  | printFailed _ => .error
  | lineQueued _ _ => .info
  | linesPrinted _ => .info
  | configLoaded _ => .debug

/-- A number in at least `width` columns, to the right. -/
def numberRight (width n : Nat) : String :=
  String.ofList (Text.padLeft width (Text.Decimal.write n))

/-- A number in at least `width` columns, to the left. -/
def numberLeft (width n : Nat) : String :=
  String.ofList (Text.padRight width (Text.Decimal.write n))

/-- The event in words. -/
def message : Event → String
  | treeReused => "hash-tree cache hit"
  | compiling bytes => s!"compiling {bytes} bytes of markup"
  | tagDropped name => s!"dropping unrecognized tag <{name}>"
  | nodeIgnored name => s!"layout ignores <{name}> node"
  | widthUnusable value colWidth =>
    s!"unusable column width {Text.quote value}, using default {colWidth}"
  | valueNotNumeric key value => s!"ignoring non-numeric {key} {Text.quote value}"
  | emitting commands => s!"emitting {commands} print commands"
  | printFailed error => s!"print device: {error.message}"
  | lineQueued number command =>
    "line " ++ numberRight 3 number ++ " y=" ++ numberLeft 5 command.box.y.toNat ++
      s!" size={command.font.size} font={command.font.name} | {command.text}"
  | linesPrinted lines => s!"print ({lines} lines)"
  | configLoaded path => s!"loaded config from {path}"

end Event

end Receipt
