import Receipt.Device.Printer
import Receipt.Proofs.Device.Commands

/-!
# Printing in memory

A target that keeps what it is given accepts every line and prints what it has as one batch, so a
device on such a target always gets its job printed.

* `MemoryTarget.addAll_eq`, `MemoryTarget.printAll_eq`: lines that are queued, and printed.
* `DeviceSettings.map_text_commands`: the commands of a job have the texts of its rows.
* `Device.Clean.print_memory`: one job on a device that has nothing queued.
-/

namespace Receipt

/-! ## Lines -/

namespace MemoryTarget

theorem addAll_eq (target : MemoryTarget) (lines : List Command) :
    PrintTarget.addAll target lines =
      { target := { target with pending := target.pending ++ lines } } := by
  induction lines generalizing target with
  | nil =>
    rw [List.append_nil]
    rfl
  | cons line lines ih =>
    have hrest := ih (target.push line)
    rw [push, List.append_assoc] at hrest
    show { PrintTarget.addAll (target.push line) lines with
      events := [] ++ (PrintTarget.addAll (target.push line) lines).events } = _
    rw [List.nil_append]
    exact hrest

theorem printAll_eq (target : MemoryTarget) (lines : List Command) :
    PrintTarget.printAll target lines =
      { target := ⟨[], target.batches ++ [target.pending ++ lines]⟩ } := by
  rw [PrintTarget.printAll, addAll_eq]
  rfl

end MemoryTarget

/-! ## Jobs -/

namespace DeviceSettings

theorem map_text_commandsFrom (settings : DeviceSettings) (y : UInt32) (rows : List Row) :
    (settings.commandsFrom y rows).map (·.text) = rows.map (·.text) := by
  induction rows generalizing y with
  | nil => rfl
  | cons row rows ih => rw [commandsFrom, List.map_cons, List.map_cons, ih]

/-- The commands of a job have the texts of its rows. -/
theorem map_text_commands (settings : DeviceSettings) (rows : List Row) :
    (settings.commands rows).map (·.text) = rows.map (·.text) :=
  settings.map_text_commandsFrom 0 rows

theorem length_commands (settings : DeviceSettings) (rows : List Row) :
    (settings.commands rows).length = rows.length := by
  have htexts := congrArg List.length (settings.map_text_commands rows)
  rwa [List.length_map, List.length_map] at htexts

end DeviceSettings

/-- How a job on a target that accepts all ends, and what the target has then. -/
structure Device.PrintsInMemory (device : Device MemoryTarget) (rows : List Row)
    (outcome : Device.Outcome MemoryTarget) : Prop where
  status : outcome.status = if rows = [] then .empty else .printed rows.length
  batches : outcome.device.target.batches =
    device.target.batches ++
      if rows = [] then [] else [device.target.pending ++ device.settings.commands rows]
  pending : outcome.device.target.pending = if rows = [] then device.target.pending else []
  events : outcome.events =
    rows.flatMap Row.events ++ if rows = [] then [] else [.emitting rows.length]

/-- A job is printed as one batch, unless it has no line. -/
theorem Device.Clean.print_memory {device : Device MemoryTarget} (h : device.Clean)
    (root : Block) : device.PrintsInMemory root.rows (device.print root) := by
  obtain ⟨-, htarget, -, hqueue⟩ := h.atRest.addRows root.rows
  rw [h.queue, List.nil_append] at hqueue
  have hlength := device.settings.length_commands root.rows
  by_cases hrows : root.rows = []
  · have hempty : (device.addRows root.rows).queue.isEmpty = true := by
      rw [hqueue, hrows]
      rfl
    constructor
    · rw [if_pos hrows, print, printRows, printQueue, if_pos hempty]
    · rw [if_pos hrows, List.append_nil, print, printRows, printQueue, if_pos hempty, ← htarget]
      rfl
    · rw [if_pos hrows, print, printRows, printQueue, if_pos hempty, ← htarget]
      rfl
    · rw [if_pos hrows, print, printRows, printQueue, if_pos hempty]
  · have hne : ¬ (device.addRows root.rows).queue.isEmpty = true := by
      rw [hqueue, List.isEmpty_iff, ← List.length_eq_zero_iff, hlength, List.length_eq_zero_iff]
      exact hrows
    constructor
    · rw [if_neg hrows, print, printRows, printQueue, if_neg hne, MemoryTarget.printAll_eq, hqueue,
        hlength]
      rfl
    · rw [if_neg hrows, print, printRows, printQueue, if_neg hne, MemoryTarget.printAll_eq, hqueue,
        htarget]
      rfl
    · rw [if_neg hrows, print, printRows, printQueue, if_neg hne, MemoryTarget.printAll_eq]
      rfl
    · rw [if_neg hrows, print, printRows, printQueue, if_neg hne, MemoryTarget.printAll_eq, hqueue,
        hlength]
      rfl

end Receipt
