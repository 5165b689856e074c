import Receipt.Cli.Run
import Receipt.Proofs.Device.Memory
import Receipt.Proofs.Layout.Lines
import Receipt.Proofs.Text.Utf8

/-!
# One document, several ways to print it

The lines of a markup can be asked for, printed on a device, or written by the command line.  Each
of these goes its own way from the markup to the lines, and all come to the same ones.

* `lineFeed_not_mem_renderLines`: no line has a line feed in it.
* `Printer.print_memory`: what a printer in memory gets.
* `Cli.splitLines_linesText`: lines can be told from each other in what the command line writes.
* `Host.Supplies` and `Cli.readText_supplies`: a markup that comes as bytes, from a file or from the
  input.
* `Cli.frontEnds_agree`: all ways together.
-/

namespace Receipt

/-! ## Printers -/

theorem lineFeed_not_mem_renderLines {options : LayoutOptions} {markup line : String}
    (h : line ∈ renderLines options markup) : '\n' ∉ line.toList := by
  obtain ⟨row, hrow, rfl⟩ := List.mem_map.mp h
  exact (separable_rows options (compile markup)).lineFeed _ (List.mem_map_of_mem hrow)

/-- What a printer gets whose device keeps what it is given: the lines as one batch, unless there
are none. -/
theorem Printer.print_memory (options : LayoutOptions) (settings : DeviceSettings)
    (markup : String) :
    let printer : Printer MemoryTarget := { device := Device.new {} settings, options }
    let outcome := printer.printMarkup markup
    let lines := renderLines options markup
    outcome.status = (if lines = [] then .empty else .printed lines.length) ∧
      outcome.printer.device.target.batches.map (·.map (·.text)) =
        if lines = [] then [] else [lines] := by
  intro printer outcome lines
  obtain ⟨hstatus, hbatches, -, -⟩ :=
    (Device.clean_new {} settings).print_memory (printer.layout (compile markup))
  have hlines : lines = (printer.layout (compile markup)).rows.map (·.text) := rfl
  have hnil : lines = [] ↔ (printer.layout (compile markup)).rows = [] := by
    rw [hlines, List.map_eq_nil_iff]
  constructor
  · show (printer.device.print (printer.layout (compile markup))).status = _
    rw [hstatus, hlines, List.length_map]
    simp only [List.map_eq_nil_iff]
  · show (printer.device.print (printer.layout (compile markup))).device.target.batches.map _ = _
    rw [hbatches]
    by_cases hempty : lines = []
    · rw [if_pos hempty, if_pos (hnil.mp hempty)]
      rfl
    · rw [if_neg hempty, if_neg (mt hnil.mpr hempty)]
      show [(DeviceSettings.commands _ _).map _] = _
      rw [DeviceSettings.map_text_commands, hlines]

/-! ## Hosts -/

/-- The bytes that a host gives for an input, after it has done what it does to get them, are those
of a markup. -/
def Host.Supplies {m : Type → Type} [Monad m] (host : Host m) (reading : m Unit)
    (markup : String) : Option String → Prop
  | some path => host.fileBytes path = reading >>= fun _ => pure (.ok markup.toUTF8.data.toList)
  | none => host.inputBytes = reading >>= fun _ => pure markup.toUTF8.data.toList

namespace Cli

/-! ## Lines in one text -/

section

variable {lines : List String}

theorem toList_linesText (lines : List String) :
    (linesText lines).toList = lines.flatMap fun line => line.toList ++ ['\n'] := by
  rw [linesText, String.toList_join, List.flatMap_map]
  simp only [String.toList_append]
  rfl

theorem toList_linesText_cons (line : String) (lines : List String) :
    (linesText (line :: lines)).toList = line.toList ++ '\n' :: (linesText lines).toList := by
  rw [toList_linesText, toList_linesText, List.flatMap_cons, List.append_assoc]
  rfl

theorem count_linesText (h : ∀ line ∈ lines, '\n' ∉ line.toList) :
    (linesText lines).toList.count '\n' = lines.length := by
  induction lines with
  | nil => rfl
  | cons line lines ih =>
    obtain ⟨hline, hlines⟩ := List.forall_mem_cons.mp h
    rw [toList_linesText_cons, List.count_append, List.count_cons_self, ih hlines,
      List.count_eq_zero_of_not_mem hline, List.length_cons, Nat.zero_add]

/-- After the last line feed nothing is left. -/
theorem splitLines_linesText (h : ∀ line ∈ lines, '\n' ∉ line.toList) :
    Text.splitLines (linesText lines).toList = lines.map String.toList ++ [[]] := by
  induction lines with
  | nil => rfl
  | cons line lines ih =>
    obtain ⟨hline, hlines⟩ := List.forall_mem_cons.mp h
    rw [toList_linesText_cons, Text.splitLines_append_lineFeed hline, ih hlines, List.map_cons,
      List.cons_append]

end

/-! ## The command line -/

section

variable {m : Type → Type} [Monad m] {host : Host m} {input : Option String} {reading : m Unit}
  {markup : String}

variable [LawfulMonad m]

/-- A markup is read after what the host does to get it. -/
theorem readText_supplies (h : host.Supplies reading markup input) :
    readText host input = (reading : Job m Unit) >>= fun _ => pure markup := by
  have htext : textOf markup.toUTF8.data.toList = .ok markup := by
    rw [textOf, Text.Utf8.decode_toUTF8]
  cases input with
  | none =>
    rw [Host.Supplies] at h
    rw [readText, h, liftM_bind, bind_assoc]
    simp only [liftM_pure, pure_bind]
    rw [htext]
    rfl
  | some path =>
    rw [Host.Supplies] at h
    rw [readText, h, liftM_bind, bind_assoc]
    simp only [liftM_pure, pure_bind]
    rw [htext]
    rfl

/-- How the command line ends that renders a markup to its own output. -/
def renderEnding (options : LayoutOptions) (markup : String) : Ending where
  out := linesText (renderLines options markup)
  events := renderEvents options markup

theorem perform_render (h : host.Supplies reading markup input) (config : Config) :
    perform host config (.render input none) =
      (reading : Job m Unit) >>= fun _ => pure (renderEnding config.layout markup) := by
  rw [perform, readText_supplies h, bind_assoc]
  simp only [pure_bind]
  rfl

/-- How the command line ends that renders a markup to a file, once it has tried to put it there. -/
def renderFileEnding (options : LayoutOptions) (markup path : String) :
    Except FileError Unit → Job m Ending
  | .ok () =>
    pure
      { err := s!"✓ {(renderLines options markup).length} line(s) written to: {path}\n"
        events := renderEvents options markup }
  | .error error => throw (.file error)

/-- The file gets the very text that would have been written to the output. -/
theorem perform_render_file (h : host.Supplies reading markup input) (config : Config)
    (path : String) :
    perform host config (.render input (some path)) =
      (reading : Job m Unit) >>= fun _ =>
        (host.putFile path (renderEnding config.layout markup).out : Job m (Except _ _)) >>=
          renderFileEnding config.layout markup path := by
  rw [perform, readText_supplies h, bind_assoc]
  simp only [pure_bind]
  refine congrArg _ (funext fun _ => congrArg _ (funext fun put => ?_))
  cases put with
  | ok _ => rfl
  | error error => rfl

/-- All ways of printing a markup come to the same lines.  They are the texts of its rows, none of
which has a line feed in it.  A printer in memory gets them as one batch, or says that there is
nothing to print.  The command line writes each of them with a line feed after it, so that they are
what is found between the line feeds. -/
theorem frontEnds_agree (h : host.Supplies reading markup input) (options : LayoutOptions)
    (settings : DeviceSettings) :
    let lines := renderLines options markup
    let printer : Printer MemoryTarget := { device := Device.new {} settings, options }
    let outcome := printer.printMarkup markup
    let out := (renderEnding options markup).out.toList
    lines = (renderRows options markup).map (·.text) ∧
    outcome.status = (if lines = [] then .empty else .printed lines.length) ∧
    outcome.printer.device.target.batches.map (·.map (·.text)) =
      (if lines = [] then [] else [lines]) ∧
    (∀ line ∈ lines, '\n' ∉ line.toList) ∧
    perform host { layout := options, device := settings } (.render input none) =
      ((reading : Job m Unit) >>= fun _ => pure (renderEnding options markup)) ∧
    (∀ path, perform host { layout := options, device := settings } (.render input (some path)) =
      (reading : Job m Unit) >>= fun _ =>
        (host.putFile path (renderEnding options markup).out : Job m (Except _ _)) >>=
          renderFileEnding options markup path) ∧
    out = lines.flatMap (fun line => line.toList ++ ['\n']) ∧
    out.count '\n' = lines.length ∧
    Text.splitLines out = lines.map String.toList ++ [[]] := by
  intro lines printer outcome out
  have hfeeds : ∀ line ∈ lines, '\n' ∉ line.toList := fun _ => lineFeed_not_mem_renderLines
  obtain ⟨hstatus, hbatches⟩ := Printer.print_memory options settings markup
  exact ⟨rfl, hstatus, hbatches, hfeeds, perform_render h _,
    fun path => perform_render_file h _ path, toList_linesText lines, count_linesText hfeeds,
    splitLines_linesText hfeeds⟩

end

/-- A host without files that is given a text. -/
def hostOfText (text : String) : Host Id where
  fileBytes _ := .error .notFound
  putFile _ _ := .error .permissionDenied
  inputBytes := text.toUTF8.data.toList

/-- Two rows, the first of which has two lines. -/
def twoRows : String :=
  "<tr><td>a\nb</td></tr><tr>c</tr>"

theorem frontEnds_agree_twoRows :
    (hostOfText twoRows).Supplies (pure ()) twoRows none ∧
    renderLines { colWidth := 1 } twoRows = ["a", "b", "c"] ∧
    (Printer.printMarkup
      { device := Device.new ({} : MemoryTarget) {}, options := { colWidth := 1 } }
      twoRows).status = .printed 3 ∧
    perform (hostOfText twoRows) { layout := { colWidth := 1 } } (.render none none) =
      pure (renderEnding { colWidth := 1 } twoRows) := by
  have hsupplies : (hostOfText twoRows).Supplies (pure ()) twoRows none := rfl
  have hlines : renderLines { colWidth := 1 } twoRows = ["a", "b", "c"] := by decide +kernel
  obtain ⟨-, hstatus, -, -, hperform, -⟩ := frontEnds_agree hsupplies { colWidth := 1 } {}
  rw [hlines] at hstatus
  exact ⟨hsupplies, hlines, hstatus, hperform⟩

end Cli

end Receipt
