import Mathlib.Data.List.Forall2
import Receipt.Proofs.Device.Stacking

/-!
# What a call queues

Every row becomes one line.  The text, the font and the height of the line depend on that row and on
the settings, and on nothing that other rows or earlier calls have done.  Only where the line starts
depends on the rows before it in the same call.

* `DeviceSettings.LineOf`: what the line of a row is.
* `DeviceSettings.forall₂_lineOf_commandsFrom`: the lines of the rows of one call.
* `DeviceSettings.LineFor`: the lines that devices queue for a row, in whatever state and with
  whatever rows around it.
* `Device.AtRest.y_addRowsFrom`: a device stays where the last line starts.
* `Device.Reachable.queues_addRows`: a call in any state of a device.
-/

namespace Receipt

namespace DeviceSettings

/-- The line of a row.  A row may choose its font and its height.  If it does not choose a height,
the font size that it chooses is one; and a number that cannot be read is as good as none. -/
structure LineOf (settings : DeviceSettings) (row : Row) (line : Command) : Prop where
  text : line.text = row.text
  size : line.font.size = (row.props.number? fontSizeKey).getD settings.fontSize
  name : line.font.name = (row.props.get? fontFamilyKey).getD settings.fontFamily
  height : line.box.height = (row.props.number? lineHeightKey).getD
    ((row.props.number? fontSizeKey).getD (settings.lineHeight.getD settings.fontSize))

/-- Rows become lines one by one, wherever the first of them starts. -/
theorem forall₂_lineOf_commandsFrom (settings : DeviceSettings) (y : UInt32) (rows : List Row) :
    List.Forall₂ settings.LineOf rows (settings.commandsFrom y rows) := by
  induction rows generalizing y with
  | nil => exact .nil
  | cons row rows ih => exact .cons ⟨rfl, rfl, rfl, rfl⟩ (ih _)

end DeviceSettings

namespace DeviceSettings

/-- A line that a device with these settings queues for a row, in any state that its operations lead
to and with any rows before and after it in the same call. -/
inductive LineFor (settings : DeviceSettings) (row : Row) (line : Command) : Prop
  | queued {τ : Type} [PrintTarget τ] {device : Device τ} (hreachable : device.Reachable)
      (hsettings : device.settings = settings) (before after : List Row)
      (hline : (device.addRows (before ++ row :: after)).queue[device.queue.length +
        before.length]? = some line)

variable {settings : DeviceSettings} {row : Row} {line : Command}

/-- What the line of a row is does not depend on the device that queues it. -/
theorem LineFor.lineOf (h : settings.LineFor row line) : settings.LineOf row line := by
  obtain @⟨τ, _, device, hreachable, rfl, before, after, hline⟩ := h
  rw [(hreachable.atRest.addRows _).queue, List.getElem?_append_right (Nat.le_add_right _ _),
    Nat.add_sub_cancel_left] at hline
  obtain ⟨hlt, rfl⟩ := List.getElem?_eq_some_iff.mp hline
  have hlines : List.Forall₂ device.settings.LineOf (before ++ row :: after)
      (device.settings.commands (before ++ row :: after)) :=
    device.settings.forall₂_lineOf_commandsFrom 0 _
  have hrow := hlines.get (by simp) hlt
  rwa [List.get_eq_getElem, List.getElem_of_append rfl rfl] at hrow

/-- Every row gets a line. -/
theorem exists_lineFor (settings : DeviceSettings) (row : Row) :
    ∃ line, settings.LineFor row line :=
  ⟨_, .queued (Device.Reachable.new ({} : MemoryTarget) settings) rfl [] [] rfl⟩

end DeviceSettings

namespace Device

variable {τ : Type} {device : Device τ}

/-- After rows are queued, the device is where the last line starts, or where it was if there is
none. -/
theorem AtRest.y_addRowsFrom (h : device.AtRest) (y : UInt32) (rows : List Row) :
    (device.addRowsFrom y rows).box.y =
      ((device.settings.commandsFrom y rows).getLast?.map (·.box.y)).getD device.box.y := by
  induction rows generalizing device y with
  | nil => rfl
  | cons row rows ih =>
    have hrest := ih (h.addRow y row) (addSaturating y (device.settings.rowHeight row))
    rw [Device.addRowsFrom, h.rowHeight_eq, hrest, DeviceSettings.commandsFrom, List.getLast?_cons]
    -- the row itself leaves the device where its own line starts
    exact Option.getD_map (fun line : Command => line.box.y)
      ⟨row.text, device.settings.rowFont row, ⟨device.settings.rowHeight row, 0, y⟩⟩ _

/-- A call in any state that the operations of a device lead to.  Behind what is in the queue it
queues one line for each row, in order.  They all start at the left, each where those before it in
this call end.  After the call the device has the font and the height of its settings again, and is
where the last line starts. -/
theorem Reachable.queues_addRows [PrintTarget τ] (h : device.Reachable) (rows : List Row) :
    ∃ lines,
      (device.addRows rows).queue = device.queue ++ lines ∧
      List.Forall₂ device.settings.LineOf rows lines ∧
      Stacked 0 lines ∧
      (device.addRows rows).font = ⟨device.settings.fontSize, device.settings.fontFamily⟩ ∧
      (device.addRows rows).box.height =
        device.settings.lineHeight.getD device.settings.fontSize ∧
      (device.addRows rows).box.x = device.box.x ∧
      (device.addRows rows).box.y = (lines.getLast?.map (·.box.y)).getD device.box.y ∧
      (device.addRows rows).settings = device.settings ∧
      (device.addRows rows).target = device.target := by
  have hrest := h.atRest
  have hadded := hrest.addRows rows
  refine ⟨device.settings.commands rows, hadded.queue,
    device.settings.forall₂_lineOf_commandsFrom 0 rows, device.settings.stacked_commands rows,
    ?_, ?_, ?_, hrest.y_addRowsFrom 0 rows, hadded.settings, hadded.target⟩
  · rw [hadded.atRest.font, hadded.settings]
    rfl
  · rw [hadded.atRest.height, hadded.settings]
    rfl
  · rw [hadded.atRest.x, hrest.x]

/-- Rows of which one chooses a font size, one a height and no number for the size, and one a
font. -/
def styledRows : List Row :=
  [{ text := "b", props := Props.ofPairs [("fontSize", " 40 ")] },
    { text := "c", props := Props.ofPairs [("lineHeight", "4294967295"), ("fontSize", "large")] },
    { text := "d", props := Props.ofPairs [("fontFamily", "mono")] }]

/-- The rows of a second call start at the top again, and a line that would start below the largest
measure starts there. -/
theorem Reachable.queues_addRows_styledRows :
    oneQueued.Reachable ∧
    ∃ lines,
      (oneQueued.addRows styledRows).queue = oneQueued.queue ++ lines ∧
      List.Forall₂ oneQueued.settings.LineOf styledRows lines ∧
      lines.map (fun line => (line.text, line.font, line.box.height, line.box.y)) =
        [("b", ⟨40, "宋体"⟩, 40, 0), ("c", ⟨30, "宋体"⟩, 4294967295, 40),
          ("d", ⟨30, "mono"⟩, 30, 4294967295)] := by
  have hreachable : oneQueued.Reachable := reachable_iff_filled.mpr ⟨_, filled_oneQueued⟩
  obtain ⟨lines, hqueue, hlines, -⟩ := hreachable.queues_addRows styledRows
  refine ⟨hreachable, lines, hqueue, hlines, ?_⟩
  have hdrop : lines = (oneQueued.addRows styledRows).queue.drop 1 := by
    rw [hqueue]
    rfl
  rw [hdrop]
  decide +kernel

end Device

end Receipt
