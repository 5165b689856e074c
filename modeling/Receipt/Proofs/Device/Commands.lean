import Receipt.Device.Device

/-!
# The commands of a job

While commands are queued, the font and the line height of the device change with every row.  They
always come back to those of the settings, so the settings alone say which commands a job has.

* `DeviceSettings.commands`: the commands of a job.
* `Device.AtRest`: the font and the height are those of the settings, and lines start at the left.
* `Device.Reachable`: the states that the operations of a device lead to; all of them are at rest.
* `Device.AtRest.addRows`: rows are queued as the commands that the settings give.
-/

namespace Receipt

namespace DeviceSettings

/-- The font of a row: what the row does not choose is as the settings say. -/
def rowFont (settings : DeviceSettings) (row : Row) : Font where
  size := (row.props.number? fontSizeKey).getD settings.fontSize
  name := (row.props.get? fontFamilyKey).getD settings.fontFamily

/-- The height of a row. -/
def rowHeight (settings : DeviceSettings) (row : Row) : UInt32 :=
  (row.props.number? lineHeightKey).getD
    ((row.props.number? fontSizeKey).getD settings.height)

/-- The commands for rows that stand below each other, the first of which starts at `y`. -/
def commandsFrom (settings : DeviceSettings) (y : UInt32) : List Row → List Command
  | [] => []
  | row :: rows =>
    ⟨row.text, settings.rowFont row, ⟨settings.rowHeight row, 0, y⟩⟩ ::
      commandsFrom settings (Device.addSaturating y (settings.rowHeight row)) rows

/-- The commands of a job. -/
def commands (settings : DeviceSettings) (rows : List Row) : List Command :=
  settings.commandsFrom 0 rows

end DeviceSettings

namespace Device

variable {τ : Type} {device : Device τ}

/-- The device is ready for a row: what the row does not choose is as the settings say. -/
structure AtRest (device : Device τ) : Prop where
  font : device.font = device.settings.font
  height : device.box.height = device.settings.height
  x : device.box.x = 0

/-! ## Queuing -/

theorem AtRest.rowFont_eq (h : device.AtRest) (row : Row) :
    device.rowFont row = device.settings.rowFont row := by
  rw [rowFont, h.font]
  rfl

theorem AtRest.rowHeight_eq (h : device.AtRest) (row : Row) :
    device.rowHeight row = device.settings.rowHeight row := by
  have hsize : device.font.size = device.settings.fontSize := by
    rw [h.font]
    rfl
  rw [rowHeight, DeviceSettings.rowHeight, DeviceSettings.height]
  cases row.props.number? lineHeightKey with
  | some height => rfl
  | none =>
    cases row.props.number? fontSizeKey with
    | some size => rfl
    | none =>
      cases device.settings.lineHeight with
      | some height => rfl
      | none => exact hsize

/-- A row is queued as one command, and the device is at rest again. -/
theorem AtRest.addRow (h : device.AtRest) (y : UInt32) (row : Row) :
    (device.addRow y row).AtRest where
  font := rfl
  height := rfl
  x := h.x

theorem AtRest.queue_addRow (h : device.AtRest) (y : UInt32) (row : Row) :
    (device.addRow y row).queue = device.queue ++
      [⟨row.text, device.settings.rowFont row, ⟨device.settings.rowHeight row, 0, y⟩⟩] := by
  rw [← h.rowFont_eq, ← h.rowHeight_eq, ← h.x]
  rfl

/-- What queuing rows does to a device at rest. -/
structure Queues (device : Device τ) (commands : List Command) (device' : Device τ) : Prop where
  atRest : device'.AtRest
  target : device'.target = device.target
  settings : device'.settings = device.settings
  queue : device'.queue = device.queue ++ commands

theorem AtRest.addRowsFrom (h : device.AtRest) (y : UInt32) (rows : List Row) :
    Queues device (device.settings.commandsFrom y rows) (device.addRowsFrom y rows) := by
  induction rows generalizing device y with
  | nil => exact ⟨h, rfl, rfl, (List.append_nil _).symm⟩
  | cons row rows ih =>
    have hrest := ih (h.addRow y row) (addSaturating y (device.rowHeight row))
    refine ⟨hrest.atRest, hrest.target, hrest.settings, ?_⟩
    rw [Device.addRowsFrom, hrest.queue, h.queue_addRow, List.append_assoc,
      DeviceSettings.commandsFrom, ← h.rowHeight_eq]
    rfl

/-- The rows of a job are queued as the commands that the settings give. -/
theorem AtRest.addRows (h : device.AtRest) (rows : List Row) :
    Queues device (device.settings.commands rows) (device.addRows rows) :=
  h.addRowsFrom 0 rows

/-! ## Printing -/

theorem AtRest.reset (h : device.AtRest) : device.reset.AtRest where
  font := h.font
  height := h.height
  x := rfl

/-- What every print leaves behind: nothing is queued, and the next job starts at the origin with
the font and the height of the settings. -/
structure Clean (device : Device τ) : Prop where
  queue : device.queue = []
  x : device.box.x = 0
  y : device.box.y = 0
  font : device.font = device.settings.font
  height : device.box.height = device.settings.height

theorem Clean.atRest (h : device.Clean) : device.AtRest where
  font := h.font
  height := h.height
  x := h.x

theorem clean_new (target : τ) (settings : DeviceSettings) : (new target settings).Clean :=
  ⟨rfl, rfl, rfl, rfl, rfl⟩

variable [PrintTarget τ]

theorem AtRest.clean_printQueue (h : device.AtRest) : device.printQueue.device.Clean := by
  rw [printQueue]
  split
  · exact ⟨rfl, rfl, rfl, h.font, h.height⟩
  · exact ⟨rfl, rfl, rfl, h.font, h.height⟩

theorem settings_printQueue (device : Device τ) :
    device.printQueue.device.settings = device.settings := by
  rw [printQueue]
  split
  · rfl
  · rfl

/-- A print cleans up, however it ends. -/
theorem AtRest.clean_print (h : device.AtRest) (root : Block) :
    (device.print root).device.Clean :=
  (h.addRows root.rows).atRest.clean_printQueue

theorem AtRest.settings_print (h : device.AtRest) (root : Block) :
    (device.print root).device.settings = device.settings :=
  (settings_printQueue _).trans (h.addRows root.rows).settings

/-! ## The states of a device -/

/-- The states that the operations of a device lead to.  Whoever owns the device may also change
its target at any time. -/
inductive Reachable : Device τ → Prop
  | new (target : τ) (settings : DeviceSettings) : Reachable (new target settings)
  | addRows {device : Device τ} (h : Reachable device) (rows : List Row) :
      Reachable (device.addRows rows)
  | print {device : Device τ} (h : Reachable device) (root : Block) :
      Reachable (device.print root).device
  | reset {device : Device τ} (h : Reachable device) : Reachable device.reset
  | change {device : Device τ} (h : Reachable device) (target : τ) :
      Reachable { device with target }

theorem Reachable.atRest (h : device.Reachable) : device.AtRest := by
  induction h with
  | new target settings => exact (clean_new target settings).atRest
  | addRows h rows ih => exact (ih.addRows rows).atRest
  | print h root ih => exact (ih.clean_print root).atRest
  | reset h ih => exact ih.reset
  | change h target ih => exact ⟨ih.font, ih.height, ih.x⟩

end Device

end Receipt
