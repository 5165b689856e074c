import Mathlib.Data.List.DropRight
import Receipt.Proofs.Device.Calls

/-!
# What a failed print leaves in its target

A device forgets a job that failed, but the target may have accepted lines of it before, and nothing
tells it to drop them.  They stand at the beginning of the next batch that is printed.

* `KeepsLines`: targets that keep the lines that they accept until they print them as one batch.
* `MemoryTarget.afterCalls`: what such a target keeps depends on its calls only.
* `Session`: any number of prints, in which the target may fail at any call and be mended.
* `Session.batch_of_printed`: a batch has the lines of its job and before them those that the failed
  jobs since the last batch had left.
* `Session.not_forall_batch_eq_lines`: a line of a failed job that is printed with the next one.
-/

namespace Receipt

/-! ## Targets that keep lines -/

namespace MemoryTarget

/-- What is kept after a call: one that fails changes nothing. -/
def afterCall (target : MemoryTarget) : Call → MemoryTarget
  | .add line none => target.push line
  | .print none => target.flush
  | .add _ (some _) | .print (some _) => target

/-- What is kept after several calls. -/
def afterCalls (target : MemoryTarget) (calls : List Call) : MemoryTarget :=
  calls.foldl afterCall target

theorem afterCalls_append (target : MemoryTarget) (first second : List Call) :
    target.afterCalls (first ++ second) = (target.afterCalls first).afterCalls second :=
  List.foldl_append

end MemoryTarget

/-- A target that keeps the lines that it accepts until it prints them as one batch.  It may fail
at any call, and still keeps what it had accepted. -/
class KeepsLines (τ : Type) [PrintTarget τ] where
  memory : τ → MemoryTarget
  memory_add (target : τ) (line : Command) :
    memory (PrintTarget.add target line).target =
      (memory target).afterCall (.add line (PrintTarget.add target line).error)
  memory_print (target : τ) :
    memory (PrintTarget.print target).target =
      (memory target).afterCall (.print (PrintTarget.print target).error)

instance : KeepsLines MemoryTarget where
  memory target := target
  memory_add _ _ := rfl
  memory_print _ := rfl

instance : KeepsLines FaultyTarget where
  memory target := target.memory
  memory_add target line := by
    simp only [PrintTarget.add]
    split
    · rfl
    · split
      · rfl
      · rfl
  memory_print target := by
    simp only [PrintTarget.print]
    split
    · rfl
    · rfl

open KeepsLines (memory)

/-! ## One print -/

namespace PrintTarget

variable {τ : Type} [PrintTarget τ] {P : τ → Prop}

/-- What every call keeps is kept when lines are queued. -/
theorem addAll_induction (hadd : ∀ target line, P target → P (add target line).target)
    {target : τ} (h : P target) (lines : List Command) : P (addAll target lines).target := by
  induction lines generalizing target with
  | nil => exact h
  | cons line lines ih =>
    rw [addAll]
    cases (add target line).error with
    | some error => exact hadd target line h
    | none => exact ih (hadd target line h)

/-- What every call keeps is kept when lines are printed. -/
theorem printAll_induction (hadd : ∀ target line, P target → P (add target line).target)
    (hprint : ∀ target, P target → P (print target).target) {target : τ} (h : P target)
    (lines : List Command) : P (printAll target lines).target := by
  have hadded := addAll_induction hadd h lines
  rw [printAll]
  cases (addAll target lines).error with
  | some error => exact hadded
  | none => exact hprint _ hadded

end PrintTarget

/-- What every call keeps is kept by a print. -/
theorem Device.AtRest.print_induction {τ : Type} [PrintTarget τ] {P : τ → Prop}
    (hadd : ∀ target line, P target → P (PrintTarget.add target line).target)
    (hprint : ∀ target, P target → P (PrintTarget.print target).target) {device : Device τ}
    (h : device.AtRest) (htarget : P device.target) (root : Block) :
    P (device.print root).device.target := by
  have hadded : P (device.addRows root.rows).target := by
    rw [(h.addRows root.rows).target]
    exact htarget
  rw [print, printRows, printQueue]
  split
  · exact hadded
  · exact PrintTarget.printAll_induction hadd hprint hadded _

variable {τ : Type} [PrintTarget τ] [KeepsLines τ]

/-- The calls of a print say what the target keeps after it. -/
theorem Device.AtRest.memory_print {device : Device τ} (h : device.AtRest) (root : Block) :
    memory (device.print root).device.target =
      (memory device.target).afterCalls (device.callsOfPrint root) := by
  have hrecorded : device.recorded.AtRest := ⟨h.font, h.height, h.x⟩
  rw [← (h.print_recorded root).1]
  apply hrecorded.print_induction (P := fun recorded =>
    memory recorded.target = (memory device.target).afterCalls recorded.calls)
  · intro recorded line hkept
    show memory (PrintTarget.add recorded.target line).target = _
    rw [KeepsLines.memory_add, hkept, PrintTarget.add_recorded, Reply.record,
      MemoryTarget.afterCalls_append]
    rfl
  · intro recorded hkept
    show memory (PrintTarget.print recorded.target).target = _
    rw [KeepsLines.memory_print, hkept, PrintTarget.print_recorded, Reply.record,
      MemoryTarget.afterCalls_append]
    rfl
  · rfl

/-! ## What is left -/

/-- The lines that were accepted in some calls. -/
def accepted (calls : List Call) : List Command :=
  calls.filterMap fun
    | .add line none => some line
    | _ => none

namespace MemoryTarget

theorem afterCalls_map_add (target : MemoryTarget) (lines : List Command) :
    target.afterCalls (lines.map (.add · none)) =
      { target with pending := target.pending ++ lines } := by
  induction lines generalizing target with
  | nil =>
    rw [List.append_nil]
    rfl
  | cons line lines ih =>
    rw [List.map_cons, afterCalls, List.foldl_cons]
    show (target.push line).afterCalls _ = _
    rw [ih, push, List.append_assoc]
    rfl

end MemoryTarget

theorem accepted_map_add (lines : List Command) :
    accepted (lines.map (.add · none)) = lines := by
  rw [accepted, List.filterMap_map]
  exact List.filterMap_some

theorem accepted_append (first second : List Call) :
    accepted (first ++ second) = accepted first ++ accepted second :=
  List.filterMap_append

/-- Lines that are queued stand after those that are kept already. -/
theorem Adds.afterCalls {lines : List Command} {calls : List Call} {error : Option DeviceError}
    (h : Adds lines calls error) (target : MemoryTarget) :
    target.afterCalls calls = { target with pending := target.pending ++ accepted calls } := by
  cases h with
  | all => rw [MemoryTarget.afterCalls_map_add, accepted_map_add]
  | refused first line rest error =>
    rw [MemoryTarget.afterCalls_append, MemoryTarget.afterCalls_map_add, accepted_append,
      accepted_map_add]
    show _ = { target with pending := target.pending ++ (first ++ []) }
    rw [List.append_nil]
    rfl

theorem Adds.accepted_eq {lines : List Command} {calls : List Call} (h : Adds lines calls none) :
    accepted calls = lines := by
  cases h with
  | all => exact accepted_map_add lines

/-- Whether a job was printed. -/
def PrintStatus.isPrinted : PrintStatus → Bool
  | .printed _ => true
  | .empty | .failed => false

/-- What a target keeps after a job: if the job is printed, all that was kept becomes a batch; if
not, the lines that were accepted are kept with the others. -/
theorem Emission.afterCalls {lines : List Command} {calls : List Call} {status : PrintStatus}
    (h : Emission lines calls status) (target : MemoryTarget) :
    target.afterCalls calls =
      if status.isPrinted then ⟨[], target.batches ++ [target.pending ++ lines]⟩
      else { target with pending := target.pending ++ accepted calls } := by
  cases h with
  | empty =>
    show target = { target with pending := target.pending ++ [] }
    rw [List.append_nil]
  | refused h => exact h.afterCalls target
  | unprinted hlines h error =>
    rw [MemoryTarget.afterCalls_append, h.afterCalls, accepted_append]
    show _ = { target with pending := target.pending ++ (accepted _ ++ []) }
    rw [List.append_nil]
    rfl
  | printed hlines h =>
    rw [MemoryTarget.afterCalls_append, h.afterCalls, h.accepted_eq]
    rfl

/-! ## Any number of prints -/

namespace Device

/-- A print in the past. -/
structure Job where
  calls : List Call
  status : PrintStatus

/-- The jobs since the last one that was printed. -/
def unprinted (jobs : List Job) : List Job :=
  jobs.rtakeWhile fun job => !job.status.isPrinted

/-- The lines that the jobs since the last one that was printed have left in the target. -/
def leftover (jobs : List Job) : List Command :=
  (unprinted jobs).flatMap fun job => accepted job.calls

/-- The prints of a device from its first state to its present one.  Between two prints the target
may be changed in any way that does not touch the lines that it keeps. -/
inductive Session (first : Device τ) : List Job → Device τ → Prop
  | start : Session first [] first
  | print {jobs : List Job} {device : Device τ} (h : Session first jobs device) (root : Block) :
      Session first (jobs ++ [⟨device.callsOfPrint root, (device.print root).status⟩])
        (device.print root).device
  | change {jobs : List Job} {device : Device τ} (h : Session first jobs device) (target : τ)
      (hmemory : memory target = memory device.target) :
      Session first jobs { device with target }

theorem leftover_append_singleton (jobs : List Job) (job : Job) :
    leftover (jobs ++ [job]) =
      if job.status.isPrinted then [] else leftover jobs ++ accepted job.calls := by
  cases hprinted : job.status.isPrinted with
  | true =>
    rw [leftover, unprinted, List.rtakeWhile_concat_neg _ _ _ (by simp [hprinted])]
    rfl
  | false =>
    rw [leftover, unprinted, List.rtakeWhile_concat_pos _ _ _ (by simp [hprinted]),
      List.flatMap_append]
    simp [leftover, unprinted]

namespace Session

variable {settings : DeviceSettings} {target : τ} {jobs : List Job} {device : Device τ}

/-- Between two prints a device is clean, has the settings that it had at first, and its target
keeps what the jobs since the last printed one have left. -/
theorem clean (h : Session (new target settings) jobs device) :
    device.Clean ∧ device.settings = settings := by
  induction h with
  | start => exact ⟨clean_new target settings, rfl⟩
  | print h root ih =>
    exact ⟨ih.1.atRest.clean_print root, (ih.1.atRest.settings_print root).trans ih.2⟩
  | change h target hmemory ih =>
    exact ⟨⟨ih.1.queue, ih.1.x, ih.1.y, ih.1.font, ih.1.height⟩, ih.2⟩

/-- The calls of the next print are an emission of the lines of its document, and say what the
target keeps. -/
theorem emission_print (h : Session (new target settings) jobs device) (root : Block) :
    Emission (settings.commands root.rows) (device.callsOfPrint root) (device.print root).status ∧
    memory (device.print root).device.target =
      (memory device.target).afterCalls (device.callsOfPrint root) := by
  obtain ⟨hclean, hsettings⟩ := h.clean
  have hemission := (hclean.atRest.print_recorded root).2
  rw [hclean.queue, List.nil_append, hsettings] at hemission
  exact ⟨hemission, hclean.atRest.memory_print root⟩

/-- What the target keeps between two prints are the lines that unprinted jobs have left. -/
theorem pending_eq_leftover (h : Session (new target settings) jobs device)
    (hpending : (memory target).pending = []) :
    (memory device.target).pending = leftover jobs := by
  induction h with
  | start => exact hpending
  | @print jobs device h root ih =>
    obtain ⟨hemission, hmemory⟩ := h.emission_print root
    rw [hmemory, hemission.afterCalls, leftover_append_singleton, ← ih]
    split
    · rfl
    · rfl
  | change h target hmemory ih => rw [← ih, ← hmemory]

/-- When a job is printed, its lines are the end of the batch, and the batch begins with what the
failed jobs since the last batch had left.  So the batch has just the lines of its job exactly if
none of those jobs had got a line accepted before it failed. -/
theorem batch_of_printed (h : Session (new target settings) jobs device)
    (hpending : (memory target).pending = []) (root : Block) {n : Nat}
    (hstatus : (device.print root).status = .printed n) :
    n = (settings.commands root.rows).length ∧
    (memory (device.print root).device.target).batches =
      (memory device.target).batches ++ [leftover jobs ++ settings.commands root.rows] ∧
    (leftover jobs ++ settings.commands root.rows = settings.commands root.rows ↔
      ∀ job ∈ unprinted jobs, accepted job.calls = []) := by
  obtain ⟨hemission, hmemory⟩ := h.emission_print root
  refine ⟨((hemission.status_eq_printed_iff n).mp hstatus).1, ?_, ?_⟩
  · rw [hmemory, hemission.afterCalls, hstatus, h.pending_eq_leftover hpending]
    rfl
  · rw [List.append_left_eq_self, leftover, List.flatMap_eq_nil_iff]

end Session

/-! ### A line that comes with the wrong job -/

/-- A document with one row for each text. -/
def rowsOfTexts (texts : List String) : Block where
  name := "root"
  children := texts.map fun text => { name := "tr", children := [{ name := "td", text }] }

/-- A device whose target refuses the second line. -/
def refusesSecond : Device FaultyTarget :=
  new { refuseAt := some 1 } {}

/-- A job of which the target accepts the first line and refuses the second. -/
def halfAccepted : Job where
  calls := refusesSecond.callsOfPrint (rowsOfTexts ["a", "b"])
  status := (refusesSecond.print (rowsOfTexts ["a", "b"])).status

/-- The device after that job, with its target mended. -/
def mended : Device FaultyTarget :=
  let device := (refusesSecond.print (rowsOfTexts ["a", "b"])).device
  { device with target := { device.target with refuseAt := none } }

theorem session_mended : Session refusesSecond [halfAccepted] mended :=
  (Session.start.print (rowsOfTexts ["a", "b"])).change _ rfl

theorem Session.batch_of_printed_mended :
    Session refusesSecond [halfAccepted] mended ∧
    (mended.print (rowsOfTexts ["c"])).status = .printed 1 ∧
    (memory (mended.print (rowsOfTexts ["c"])).device.target).batches =
      [leftover [halfAccepted] ++ DeviceSettings.commands {} (rowsOfTexts ["c"]).rows] := by
  have hstatus : (mended.print (rowsOfTexts ["c"])).status = .printed 1 := by decide
  exact ⟨session_mended, hstatus,
    (session_mended.batch_of_printed rfl (rowsOfTexts ["c"]) hstatus).2.1⟩

/-- The second job has one line and is printed, and the first line of the failed job comes with
it. -/
theorem Session.not_forall_batch_eq_lines :
    halfAccepted.status = .failed ∧
    (mended.print (rowsOfTexts ["c"])).status = .printed 1 ∧
    (memory (mended.print (rowsOfTexts ["c"])).device.target).printedLines = ["a", "c"] ∧
    ¬ ∀ (jobs : List Job) (device : Device FaultyTarget) (root : Block) (n : Nat),
      Session refusesSecond jobs device → (device.print root).status = .printed n →
        (memory (device.print root).device.target).batches =
          (memory device.target).batches ++ [DeviceSettings.commands {} root.rows] := by
  have hstatus : (mended.print (rowsOfTexts ["c"])).status = .printed 1 := by decide
  refine ⟨by decide, hstatus, by decide, ?_⟩
  intro hall
  have hbatch := hall [halfAccepted] mended (rowsOfTexts ["c"]) 1 session_mended hstatus
  have hcount := congrArg (fun batches => batches.flatten.length) hbatch
  exact absurd hcount (by decide)

end Device

end Receipt
