import Receipt.Proofs.Device.Commands

/-!
# The calls that a print makes

A target is free to answer its calls as it likes, and it sees nothing but its calls.  `Recorded`
puts a record around a target, which answers as before.  So what is in the record after a print is
what any target sees of the print.

* `Adds`: lines are queued in order, up to the first that is refused.
* `Emission`: the calls of a job, and the status that they lead to.
* `Device.AtRest.print_recorded`: a print with the record is the print without it, and the record is
  an emission of all that was queued.
* `Device.Reachable.print_cleans_up`: what any print of any reachable device does.
-/

namespace Receipt

/-- A call that a target gets, with the error that it answers. -/
inductive Call where
  | add (command : Command) (error : Option DeviceError)
  | print (error : Option DeviceError)

namespace Call

/-- The error that was the answer. -/
def error : Call → Option DeviceError
  | add _ error => error
  | print error => error

/-- Whether the call asks for a batch to be printed. -/
def isPrint : Call → Bool
  | add _ _ => false
  | print _ => true

end Call

/-! ## What a job may look like -/

/-- The calls by which lines are queued in order, up to the first that is refused; and the error
of that one. -/
inductive Adds : List Command → List Call → Option DeviceError → Prop
  | all (lines : List Command) : Adds lines (lines.map (.add · none)) none
  | refused (accepted : List Command) (line : Command) (rest : List Command)
      (error : DeviceError) :
      Adds (accepted ++ line :: rest) (accepted.map (.add · none) ++ [.add line (some error)])
        (some error)

/-- The calls of a job, and how it ends: without lines there is no call; if all lines are queued,
the batch is printed once. -/
inductive Emission : List Command → List Call → PrintStatus → Prop
  | empty : Emission [] [] .empty
  | refused {lines : List Command} {calls : List Call} {error : DeviceError}
      (h : Adds lines calls (some error)) : Emission lines calls .failed
  | unprinted {lines : List Command} {calls : List Call} (hlines : lines ≠ [])
      (h : Adds lines calls none) (error : DeviceError) :
      Emission lines (calls ++ [.print (some error)]) .failed
  | printed {lines : List Command} {calls : List Call} (hlines : lines ≠ [])
      (h : Adds lines calls none) :
      Emission lines (calls ++ [.print none]) (.printed lines.length)

namespace Adds

variable {lines : List Command} {calls : List Call} {error : Option DeviceError}

/-- A line that is accepted comes before the others. -/
theorem cons (line : Command) (h : Adds lines calls error) :
    Adds (line :: lines) (.add line none :: calls) error := by
  cases h with
  | all => exact all (line :: lines)
  | refused accepted refused rest error => exact Adds.refused (line :: accepted) refused rest error

theorem isPrint_eq_false (h : Adds lines calls error) : ∀ call ∈ calls, call.isPrint = false := by
  have hadd : ∀ (lines : List Command), ∀ call ∈ lines.map (Call.add · none),
      call.isPrint = false := by
    intro lines call hcall
    obtain ⟨line, -, rfl⟩ := List.mem_map.mp hcall
    rfl
  cases h with
  | all => exact hadd lines
  | refused accepted line rest error =>
    intro call hcall
    rcases List.mem_append.mp hcall with hcall | hcall
    · exact hadd accepted call hcall
    · rw [List.mem_singleton.mp hcall]
      rfl

theorem countP_isPrint (h : Adds lines calls error) : calls.countP Call.isPrint = 0 := by
  rw [List.countP_eq_zero]
  intro call hcall
  rw [h.isPrint_eq_false call hcall]
  exact Bool.false_ne_true

/-- No line is refused exactly if no call failed. -/
theorem forall_error_iff (h : Adds lines calls error) :
    (∀ call ∈ calls, call.error = none) ↔ error = none := by
  cases h with
  | all =>
    refine ⟨fun _ => rfl, fun _ call hcall => ?_⟩
    obtain ⟨line, -, rfl⟩ := List.mem_map.mp hcall
    rfl
  | refused accepted line rest error =>
    constructor
    · intro hall
      exact hall (.add line (some error)) (List.mem_append_right _ List.mem_cons_self)
    · intro hnone
      exact absurd hnone (Option.some_ne_none error)

/-- When all lines are queued, the batch is printed once. -/
theorem countP_append_print (h : Adds lines calls none) (error : Option DeviceError) :
    (calls ++ [Call.print error]).countP Call.isPrint = 1 := by
  rw [List.countP_append, h.countP_isPrint]
  rfl

/-- When all lines are queued, only the last call can fail. -/
theorem error_of_mem_append_print (h : Adds lines calls none) {error : Option DeviceError} :
    ∀ call ∈ calls ++ [Call.print error], call.isPrint = false → call.error = none := by
  intro call hcall hprint
  rcases List.mem_append.mp hcall with hcall | hcall
  · exact h.forall_error_iff.mpr rfl call hcall
  · rw [List.mem_singleton.mp hcall] at hprint
    exact Bool.noConfusion hprint

/-- If a line is refused, the call that queues it fails. -/
theorem exists_error {error : DeviceError} (h : Adds lines calls (some error)) :
    ∃ call ∈ calls, call.error ≠ none := by
  cases h with
  | refused accepted line rest error =>
    exact ⟨_, List.mem_append_right _ List.mem_cons_self, Option.some_ne_none error⟩

theorem lines_ne_nil {error : DeviceError} (h : Adds lines calls (some error)) : lines ≠ [] := by
  cases h with
  | refused accepted line rest error => simp

end Adds

namespace Emission

variable {lines : List Command} {calls : List Call} {status : PrintStatus}

/-- There is nothing to print exactly if there is no line. -/
theorem status_eq_empty_iff (h : Emission lines calls status) : status = .empty ↔ lines = [] := by
  cases h with
  | empty => simp
  | refused h => simp [h.lines_ne_nil]
  | unprinted hlines h error => simp [hlines]
  | printed hlines h => simp [hlines]

/-- Without lines there is no call. -/
theorem calls_eq_nil (h : Emission lines calls status) (hlines : lines = []) : calls = [] := by
  cases h with
  | empty => rfl
  | refused h => exact absurd hlines h.lines_ne_nil
  | unprinted hne h error => exact absurd hlines hne
  | printed hne h => exact absurd hlines hne

/-- A job is printed exactly if it has lines and every call succeeded. -/
theorem status_eq_printed_iff (h : Emission lines calls status) (n : Nat) :
    status = .printed n ↔
      n = lines.length ∧ lines ≠ [] ∧ ∀ call ∈ calls, call.error = none := by
  cases h with
  | empty => simp
  | refused h =>
    rw [h.forall_error_iff]
    simp
  | unprinted hlines h error => simp [Call.error]
  | printed hlines h =>
    constructor
    · intro hstatus
      refine ⟨(PrintStatus.printed.inj hstatus).symm, hlines, fun call hcall => ?_⟩
      rcases List.mem_append.mp hcall with hcall | hcall
      · exact h.forall_error_iff.mpr rfl call hcall
      · rw [List.mem_singleton.mp hcall]
        rfl
    · rintro ⟨rfl, -, -⟩
      rfl

/-- A job fails exactly if one of its calls does. -/
theorem status_eq_failed_iff (h : Emission lines calls status) :
    status = .failed ↔ ∃ call ∈ calls, call.error ≠ none := by
  cases h with
  | empty => simp
  | refused h =>
    obtain ⟨call, hcall, herror⟩ := h.exists_error
    exact ⟨fun _ => ⟨call, hcall, herror⟩, fun _ => rfl⟩
  | unprinted hlines h error =>
    exact ⟨fun _ => ⟨_, List.mem_append_right _ List.mem_cons_self, Option.some_ne_none error⟩,
      fun _ => rfl⟩
  | printed hlines h =>
    refine ⟨PrintStatus.noConfusion, fun ⟨call, hcall, herror⟩ => ?_⟩
    have hall := ((printed hlines h).status_eq_printed_iff lines.length).mp rfl
    exact absurd (hall.2.2 call hcall) herror

/-- The batch is printed once if there are lines and all of them were queued, and else not at
all. -/
theorem countP_isPrint (h : Emission lines calls status) :
    calls.countP Call.isPrint ≤ 1 ∧
    (calls.countP Call.isPrint = 1 ↔
      lines ≠ [] ∧ ∀ call ∈ calls, call.isPrint = false → call.error = none) := by
  cases h with
  | empty => simp
  | refused h =>
    rw [h.countP_isPrint]
    refine ⟨Nat.zero_le 1, fun hcount => absurd hcount (by decide), ?_⟩
    rintro ⟨-, hall⟩
    obtain ⟨call, hcall, herror⟩ := h.exists_error
    exact absurd (hall call hcall (h.isPrint_eq_false call hcall)) herror
  | unprinted hlines h error =>
    rw [h.countP_append_print (some error)]
    exact ⟨Nat.le_refl 1, fun _ => ⟨hlines, h.error_of_mem_append_print⟩, fun _ => rfl⟩
  | printed hlines h =>
    rw [h.countP_append_print none]
    exact ⟨Nat.le_refl 1, fun _ => ⟨hlines, h.error_of_mem_append_print⟩, fun _ => rfl⟩

end Emission

/-! ## Recording -/

/-- A target with a record of the calls that it got. -/
structure Recorded (τ : Type) where
  target : τ
  calls : List Call := []

/-- The reply of a target with a record. -/
def Reply.record {τ : Type} (reply : Reply τ) (calls : List Call) : Reply (Recorded τ) where
  target := ⟨reply.target, calls⟩
  error := reply.error
  events := reply.events

instance {τ : Type} [PrintTarget τ] : PrintTarget (Recorded τ) where
  add recorded command :=
    let reply := PrintTarget.add recorded.target command
    reply.record (recorded.calls ++ [.add command reply.error])
  print recorded :=
    let reply := PrintTarget.print recorded.target
    reply.record (recorded.calls ++ [.print reply.error])

namespace PrintTarget

variable {τ : Type} [PrintTarget τ]

theorem add_recorded (target : τ) (calls : List Call) (command : Command) :
    add (Recorded.mk target calls) command =
      (add target command).record (calls ++ [.add command (add target command).error]) := rfl

theorem print_recorded (target : τ) (calls : List Call) :
    print (Recorded.mk target calls) =
      (print target).record (calls ++ [.print (print target).error]) := rfl

/-- What is recorded when lines are queued, and that the record makes no difference. -/
theorem addAll_recorded (target : τ) (calls : List Call) (lines : List Command) :
    ∃ made, Adds lines made (addAll target lines).error ∧
      addAll (Recorded.mk target calls) lines = (addAll target lines).record (calls ++ made) := by
  induction lines generalizing target calls with
  | nil =>
    refine ⟨[], Adds.all [], ?_⟩
    rw [List.append_nil]
    rfl
  | cons line lines ih =>
    obtain ⟨made, hmade, hrest⟩ := ih (add target line).target
      (calls ++ [.add line (add target line).error])
    cases herror : (add target line).error with
    | some error =>
      refine ⟨[.add line (some error)], ?_, ?_⟩
      · simp only [addAll, herror]
        exact Adds.refused [] line lines error
      · simp only [addAll, add_recorded, Reply.record, herror]
    | none =>
      rw [herror, List.append_assoc] at hrest
      refine ⟨.add line none :: made, ?_, ?_⟩
      · simp only [addAll, herror]
        exact hmade.cons line
      · simp only [addAll, add_recorded, Reply.record, herror] at hrest ⊢
        rw [hrest]
        rfl

/-- A job with lines fails exactly if its last call does. -/
theorem printAll_recorded (target : τ) {lines : List Command} (hlines : lines ≠ []) :
    ∃ calls, Emission lines calls
        (if (printAll target lines).error.isSome then .failed else .printed lines.length) ∧
      printAll (Recorded.mk target []) lines = (printAll target lines).record calls := by
  obtain ⟨calls, hcalls, hrecord⟩ := addAll_recorded target [] lines
  rw [List.nil_append] at hrecord
  cases herror : (addAll target lines).error with
  | some error =>
    rw [herror] at hcalls
    refine ⟨calls, ?_, ?_⟩
    · simp only [printAll, herror]
      exact Emission.refused hcalls
    · simp only [printAll, hrecord, Reply.record, herror]
  | none =>
    rw [herror] at hcalls
    refine ⟨calls ++ [.print (print (addAll target lines).target).error], ?_, ?_⟩
    · simp only [printAll, herror]
      cases hprint : (print (addAll target lines).target).error with
      | some error => exact Emission.unprinted hlines hcalls error
      | none => exact Emission.printed hlines hcalls
    · simp only [printAll, hrecord, Reply.record, herror, print_recorded]

end PrintTarget

namespace Device

variable {τ : Type}

/-- The device with a record of what its target is asked from now on. -/
def recorded (device : Device τ) : Device (Recorded τ) :=
  { device with target := ⟨device.target, []⟩ }

/-- The device without the record. -/
def unrecorded (device : Device (Recorded τ)) : Device τ :=
  { device with target := device.target.target }

/-- The outcome without the record. -/
def Outcome.unrecorded (outcome : Outcome (Recorded τ)) : Outcome τ :=
  { outcome with device := outcome.device.unrecorded }

theorem addRowsFrom_recorded (device : Device τ) (y : UInt32) (rows : List Row) :
    device.recorded.addRowsFrom y rows = (device.addRowsFrom y rows).recorded := by
  induction rows generalizing device y with
  | nil => rfl
  | cons row rows ih => exact ih (device.addRow y row) (addSaturating y (device.rowHeight row))

variable [PrintTarget τ]

/-- The calls that the target gets when a document is printed. -/
def callsOfPrint (device : Device τ) (root : Block) : List Call :=
  (device.recorded.print root).device.target.calls

/-- Printing with the record is printing without it, and what is recorded is the emission of what
was queued. -/
theorem printQueue_recorded (device : Device τ) :
    device.recorded.printQueue.unrecorded = device.printQueue ∧
    Emission device.queue device.recorded.printQueue.device.target.calls
      device.printQueue.status := by
  by_cases hempty : device.queue = []
  · have hqueue : device.queue.isEmpty = true := List.isEmpty_iff.mpr hempty
    have hrecorded : device.recorded.queue.isEmpty = true := hqueue
    rw [printQueue, printQueue, if_pos hqueue, if_pos hrecorded, hempty]
    exact ⟨rfl, Emission.empty⟩
  · have hqueue : ¬ device.queue.isEmpty = true := fun h => hempty (List.isEmpty_iff.mp h)
    have hrecorded : ¬ device.recorded.queue.isEmpty = true := hqueue
    obtain ⟨calls, hcalls, hrecord⟩ := PrintTarget.printAll_recorded device.target hempty
    have hreply : PrintTarget.printAll device.recorded.target device.recorded.queue =
        (PrintTarget.printAll device.target device.queue).record calls := hrecord
    rw [printQueue, printQueue, if_neg hqueue, if_neg hrecorded, hreply]
    exact ⟨rfl, hcalls⟩

/-- A print with the record is the print without it, and what is recorded is the emission of what
was queued before and the lines of the document. -/
theorem AtRest.print_recorded {device : Device τ} (h : device.AtRest) (root : Block) :
    (device.recorded.print root).unrecorded = device.print root ∧
    Emission (device.queue ++ device.settings.commands root.rows) (device.callsOfPrint root)
      (device.print root).status := by
  have hadded : device.recorded.addRows root.rows = (device.addRows root.rows).recorded :=
    addRowsFrom_recorded device 0 root.rows
  obtain ⟨hsame, hcalls⟩ := printQueue_recorded (device.addRows root.rows)
  rw [(h.addRows root.rows).queue] at hcalls
  rw [callsOfPrint, print, print, printRows, printRows, hadded]
  refine ⟨?_, hcalls⟩
  rw [← hsame]
  rfl

/-- Without lines the target is left alone. -/
theorem AtRest.target_print {device : Device τ} (h : device.AtRest) (root : Block)
    (hlines : device.queue ++ device.settings.commands root.rows = []) :
    (device.print root).device.target = device.target := by
  have hadded := h.addRows root.rows
  have hqueue : (device.addRows root.rows).queue.isEmpty = true := by
    rw [hadded.queue, hlines]
    rfl
  show (device.addRows root.rows).printQueue.device.target = device.target
  rw [printQueue, if_pos hqueue, ← hadded.target]
  rfl

/-- A print of any device that its operations lead to, whatever its target answers.  The lines are
what was queued before and what the document has.  They are queued in order up to the first that is
refused, and if none is, the batch is printed once; the status says how that went.  Afterwards the
device is clean, and its settings are what they were. -/
theorem Reachable.print_cleans_up {device : Device τ} (h : device.Reachable) (root : Block) :
    let lines := device.queue ++ device.settings.commands root.rows
    let calls := device.callsOfPrint root
    let outcome := device.print root
    (device.recorded.print root).unrecorded = outcome ∧
    Emission lines calls outcome.status ∧
    (calls.countP Call.isPrint ≤ 1 ∧
      (calls.countP Call.isPrint = 1 ↔
        lines ≠ [] ∧ ∀ call ∈ calls, call.isPrint = false → call.error = none)) ∧
    (outcome.status = .empty ↔ lines = []) ∧
    (lines = [] → calls = [] ∧ outcome.device.target = device.target) ∧
    (∀ n, outcome.status = .printed n ↔
      n = lines.length ∧ lines ≠ [] ∧ ∀ call ∈ calls, call.error = none) ∧
    (outcome.status = .failed ↔ ∃ call ∈ calls, call.error ≠ none) ∧
    outcome.device.Clean ∧ outcome.device.settings = device.settings := by
  obtain ⟨hsame, hcalls⟩ := h.atRest.print_recorded root
  refine ⟨hsame, hcalls, hcalls.countP_isPrint, hcalls.status_eq_empty_iff, ?_,
    hcalls.status_eq_printed_iff, hcalls.status_eq_failed_iff, h.atRest.clean_print root,
    h.atRest.settings_print root⟩
  intro hlines
  exact ⟨hcalls.calls_eq_nil hlines, h.atRest.target_print root hlines⟩

/-- A device whose target takes one line and refuses the next; a line was queued before. -/
def takesOneLine : Device FaultyTarget :=
  (new { refuseAt := some 1 } {}).addRows [{ text := "before" }]

theorem takesOneLine_print_cleans_up :
    takesOneLine.Reachable ∧
    (takesOneLine.print { name := "tr" }).status = .failed ∧
    (takesOneLine.callsOfPrint { name := "tr" }).countP Call.isPrint ≤ 1 ∧
    (takesOneLine.print { name := "tr" }).device.Clean := by
  have hreachable : takesOneLine.Reachable := (Reachable.new _ _).addRows _
  obtain ⟨-, -, ⟨hcount, -⟩, -, -, -, -, hclean, -⟩ :=
    hreachable.print_cleans_up { name := "tr" }
  exact ⟨hreachable, by decide, hcount, hclean⟩

end Device

end Receipt
