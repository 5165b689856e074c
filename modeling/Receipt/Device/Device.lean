import Receipt.Device.RowStyle
import Receipt.Device.Target

/-!
Print devices: rows become commands, which are queued and then handed to a target. Each row may
choose its own font and height; after it those of the settings apply again. The lines of one job
stand below each other without gaps.
-/

namespace Receipt

/-- The font and line height of a device. -/
structure DeviceSettings where
  fontSize : UInt32 := 30
  fontFamily : String := "宋体"
  /-- The height of a line; without one, lines are as high as the font. -/
  lineHeight : Option UInt32 := none
deriving DecidableEq

namespace DeviceSettings

/-- The font of a line that chooses none. -/
def font (settings : DeviceSettings) : Font :=
  ⟨settings.fontSize, settings.fontFamily⟩

/-- The height of a line that chooses neither a height nor a font size. -/
def height (settings : DeviceSettings) : UInt32 :=
  settings.lineHeight.getD settings.fontSize

end DeviceSettings

/-- A device that prints on a target of type `τ`. -/
structure Device (τ : Type) where
  target : τ
  settings : DeviceSettings
  /-- The commands that the target has not been given yet. -/
  queue : List Command
  /-- The font for the next line. -/
  font : Font
  /-- The height for the next line, and where the last line started. -/
  box : LineBox

/-- How a print ended. -/
inductive PrintStatus where
  /-- The lines were printed; this is their number. -/
  | printed (lines : Nat)
  /-- There was no line to print. -/
  | empty
  /-- The target failed. -/
  | failed
deriving DecidableEq

namespace Device

variable {τ : Type}

/-- Brings back the font and the line height of the settings. -/
def configure (device : Device τ) : Device τ :=
  { device with
    font := device.settings.font
    box := { device.box with height := device.settings.height } }

/-- Moves back to the place where a job starts. -/
def reset (device : Device τ) : Device τ :=
  { device with box := { device.box with x := 0, y := 0 } }

/-- A device that has printed nothing. -/
def new (target : τ) (settings : DeviceSettings) : Device τ :=
  reset (configure { target, settings, queue := [], font := settings.font, box := {} })

/-! ## Commands -/

/-- The font of a row. -/
def rowFont (device : Device τ) (row : Row) : Font where
  size := (row.props.number? fontSizeKey).getD device.font.size
  name := (row.props.get? fontFamilyKey).getD device.font.name

/-- The height of a row: what it asks for, else the font size that it asks for, else what the
settings say. -/
def rowHeight (device : Device τ) (row : Row) : UInt32 :=
  match row.props.number? lineHeightKey, row.props.number? fontSizeKey,
      device.settings.lineHeight with
  | some height, _, _ => height
  | none, some size, _ => size
  | none, none, some height => height
  | none, none, none => device.font.size

/-- The sum of two measures, or the largest measure if the sum is too large. -/
def addSaturating (a b : UInt32) : UInt32 :=
  if a.toNat + b.toNat < UInt32.size then a + b else UInt32.ofNat (UInt32.size - 1)

/-- Queues the command for a row that starts at `y`. -/
def addRow (device : Device τ) (y : UInt32) (row : Row) : Device τ :=
  let font := device.rowFont row
  let box := { device.box with height := device.rowHeight row, y }
  configure { device with font, box, queue := device.queue ++ [⟨row.text, font, box⟩] }

/-- Queues the commands for rows that stand below each other, the first of which starts at `y`. -/
def addRowsFrom (device : Device τ) (y : UInt32) : List Row → Device τ
  | [] => device
  | row :: rows =>
    addRowsFrom (device.addRow y row) (addSaturating y (device.rowHeight row)) rows

/-- Queues the commands for the rows of a job. -/
def addRows (device : Device τ) (rows : List Row) : Device τ :=
  device.addRowsFrom 0 rows

/-! ## Printing -/

/-- What comes of a print. -/
structure Outcome (τ : Type) where
  device : Device τ
  status : PrintStatus
  events : List Event

/-- Hands the queue to the target, clears it, and moves back to the start. -/
def printQueue [PrintTarget τ] (device : Device τ) : Outcome τ :=
  if device.queue.isEmpty then
    { device := reset { device with queue := [] }
      status := .empty
      events := [] }
  else
    let reply := PrintTarget.printAll device.target device.queue
    { device := reset { device with target := reply.target, queue := [] }
      status := if reply.error.isSome then .failed else .printed device.queue.length
      events :=
        .emitting device.queue.length :: reply.events ++
          reply.error.toList.map Event.printFailed }

/-- Prints rows, after whatever is queued. -/
def printRows [PrintTarget τ] (device : Device τ) (rows : List Row) : Outcome τ :=
  let outcome := (device.addRows rows).printQueue
  { outcome with events := rows.flatMap Row.events ++ outcome.events }

/-- Prints a laid-out document. -/
def print [PrintTarget τ] (device : Device τ) (root : Block) : Outcome τ :=
  device.printRows root.rows

end Device

end Receipt
