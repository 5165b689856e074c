import Receipt.Proofs.Device.Memory

/-!
# Jobs that know nothing of each other

A clean device is a new one, except for its target, and every print leaves a clean device behind.
So a job on a printer in memory ends as it would on a printer that has printed nothing, whatever was
printed before, and all that the earlier jobs leave are their batches.

* `Device.Clean.eq_new`: a clean device is a new one.
* `Printer.Job`, `Printer.perform`, `Printer.after`: what a printer is asked for, once and many
  times.
* `Printer.perform_new`: one job.
* `Printer.perform_after_new`: a job after any others.
-/

namespace Receipt

/-- Nothing of the past is left in a clean device but its target. -/
theorem Device.Clean.eq_new {τ : Type} {device : Device τ} (h : device.Clean) :
    device = new device.target device.settings := by
  obtain ⟨hqueue, hx, hy, hfont, hheight⟩ := h
  obtain ⟨target, settings, queue, font, ⟨height, x, y⟩⟩ := device
  simp only at hqueue hx hy hfont hheight
  rw [hqueue, hx, hy, hfont, hheight]
  rfl

/-- The batches of a job: one, unless it has no line. -/
def DeviceSettings.batches (settings : DeviceSettings) (rows : List Row) : List (List Command) :=
  if rows = [] then [] else [settings.commands rows]

namespace Printer

/-- What a printer is asked to print. -/
inductive Job where
  | document (nodes : List Node)
  | markup (text : String)

/-- The document of a job. -/
def Job.nodes : Job → List Node
  | document nodes => nodes
  | markup text => compile text

section

variable {τ : Type}

/-- A printer that has printed nothing. -/
def new (target : τ) (settings : DeviceSettings) (options : LayoutOptions) : Printer τ where
  device := Device.new target settings
  options := options

variable [PrintTarget τ]

/-- Prints what is asked for. -/
def perform (printer : Printer τ) : Job → Outcome τ
  | .document nodes => printer.print nodes
  | .markup text => printer.printMarkup text

/-- The printer after several jobs. -/
def after (printer : Printer τ) (jobs : List Job) : Printer τ :=
  jobs.foldl (fun printer job => (printer.perform job).printer) printer

/-- A job is what the device makes of the rows of its document. -/
theorem perform_eq (printer : Printer τ) (job : Job) :
    let outcome := printer.device.print (printer.layout job.nodes)
    (printer.perform job).printer = { printer with device := outcome.device } ∧
    (printer.perform job).status = outcome.status := by
  cases job with
  | document nodes => exact ⟨rfl, rfl⟩
  | markup text => exact ⟨rfl, rfl⟩

end

section

variable (settings : DeviceSettings) (options : LayoutOptions)

/-- One job on a printer in memory that has printed batches before.  Afterwards it is a new printer
again, except that the batch of the job is added. -/
theorem perform_new (batches : List (List Command)) (job : Job) :
    let printer : Printer MemoryTarget := new ⟨[], batches⟩ settings options
    let rows := rows options job.nodes
    (printer.perform job).printer =
        new ⟨[], batches ++ settings.batches rows⟩ settings options ∧
    (printer.perform job).status = if rows = [] then .empty else .printed rows.length := by
  intro printer rows
  have hclean : printer.device.Clean := Device.clean_new _ settings
  have hprint := hclean.print_memory (printer.layout job.nodes)
  obtain ⟨hprinter, hstatus⟩ := printer.perform_eq job
  refine ⟨?_, hstatus.trans hprint.status⟩
  have hpending : (printer.device.print (printer.layout job.nodes)).device.target.pending = [] :=
    hprint.pending.trans (ite_self _)
  have hbatches : (printer.device.print (printer.layout job.nodes)).device.target.batches =
      batches ++ settings.batches rows := hprint.batches
  have htarget : (printer.device.print (printer.layout job.nodes)).device.target =
      ⟨[], batches ++ settings.batches rows⟩ := by
    rw [← hpending, ← hbatches]
  have hdevice := (hclean.atRest.clean_print (printer.layout job.nodes)).eq_new
  rw [htarget, hclean.atRest.settings_print] at hdevice
  rw [hprinter, hdevice]
  rfl

/-- What a job reports does not depend on the batches that were printed before. -/
theorem events_perform_new (batches : List (List Command)) (job : Job) :
    ((new ⟨[], batches⟩ settings options : Printer MemoryTarget).perform job).events =
      ((new {} settings options : Printer MemoryTarget).perform job).events := by
  have hevents : ((Device.new ⟨[], batches⟩ settings : Device MemoryTarget).print
      (Receipt.layout options job.nodes)).events =
        ((Device.new {} settings : Device MemoryTarget).print
          (Receipt.layout options job.nodes)).events := by
    rw [((Device.clean_new _ settings).print_memory _).events,
      ((Device.clean_new _ settings).print_memory _).events]
  cases job with
  | document nodes => exact congrArg (Node.layoutEventsOfAll options nodes ++ ·) hevents
  | markup text =>
    exact congrArg (fun events => (Compiler.ofMarkup text).compileEvents ++
      (Node.layoutEventsOfAll options (compile text) ++ events)) hevents

/-- Any number of jobs on a printer in memory that has printed batches before.  Afterwards it is a
new printer again, except that the batches of the jobs are added. -/
theorem after_new (batches : List (List Command)) (jobs : List Job) :
    (new ⟨[], batches⟩ settings options : Printer MemoryTarget).after jobs =
      new ⟨[], batches ++ jobs.flatMap fun job => settings.batches (rows options job.nodes)⟩
        settings options := by
  induction jobs generalizing batches with
  | nil =>
    rw [List.flatMap_nil, List.append_nil]
    rfl
  | cons job jobs ih =>
    have hrest := ih (batches ++ settings.batches (rows options job.nodes))
    rw [← (perform_new settings options batches job).1] at hrest
    rw [List.flatMap_cons, ← List.append_assoc]
    exact hrest

/-- After any jobs a printer in memory is a new one, but for the batches that each of these jobs
gives on a printer that has printed nothing.  The next job ends, and reports, as it does on such a
printer, and there it gives one batch with the commands of its rows, or none if it has no rows. -/
theorem perform_after_new (jobs : List Job) (job : Job) :
    let fresh : Printer MemoryTarget := new {} settings options
    let printer := fresh.after jobs
    let rows := rows options job.nodes
    printer = new ⟨[], jobs.flatMap fun job =>
      (fresh.perform job).printer.device.target.batches⟩ settings options ∧
    (printer.perform job).status = (fresh.perform job).status ∧
    (printer.perform job).events = (fresh.perform job).events ∧
    (fresh.perform job).status = (if rows = [] then .empty else .printed rows.length) ∧
    (fresh.perform job).printer.device.target.batches =
      if rows = [] then [] else [settings.commands rows] := by
  intro fresh printer rows
  have hbatches : ∀ job : Job, (fresh.perform job).printer.device.target.batches =
      settings.batches (Receipt.rows options job.nodes) := by
    intro job
    rw [(perform_new settings options [] job).1]
    rfl
  have hprinter := after_new settings options [] jobs
  refine ⟨?_, ?_, ?_, (perform_new settings options [] job).2, hbatches job⟩
  · simp only [hbatches]
    exact hprinter
  · show ((fresh.after jobs).perform job).status = _
    rw [hprinter, (perform_new settings options _ job).2, (perform_new settings options [] job).2]
  · show ((fresh.after jobs).perform job).events = _
    rw [hprinter, events_perform_new]

end

end Printer

end Receipt
