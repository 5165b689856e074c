import Receipt.Compile.Compiler
import Receipt.Device.Device
import Receipt.Layout.Arrange

/-!
Printers: a device with the measures of a layout. A printer takes a document, or its markup, all
the way to the device.
-/

namespace Receipt

/-- A device, and how documents are laid out for it. -/
structure Printer (τ : Type) where
  device : Device τ
  options : LayoutOptions

namespace Printer

variable {τ : Type}

/-- What comes of a print. -/
structure Outcome (τ : Type) where
  printer : Printer τ
  status : PrintStatus
  events : List Event

/-- Lays a document out. -/
def layout (printer : Printer τ) (nodes : List Node) : Block :=
  Receipt.layout printer.options nodes

/-- Prints a document. -/
def print [PrintTarget τ] (printer : Printer τ) (nodes : List Node) : Outcome τ :=
  let outcome := printer.device.print (printer.layout nodes)
  { printer := { printer with device := outcome.device }
    status := outcome.status
    events := Node.layoutEventsOfAll printer.options nodes ++ outcome.events }

/-- Prints the document of a markup. -/
def printMarkup [PrintTarget τ] (printer : Printer τ) (markup : String) : Outcome τ :=
  let outcome := printer.print (compile markup)
  { outcome with events := (Compiler.ofMarkup markup).compileEvents ++ outcome.events }

end Printer

end Receipt
