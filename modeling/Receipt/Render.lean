import Receipt.Compile.Compiler
import Receipt.Layout.Arrange

/-!
Rendering: from a markup to its rows and its lines.
-/

namespace Receipt

/-- The rows of a markup. -/
def renderRows (options : LayoutOptions) (markup : String) : List Row :=
  rows options (compile markup)

/-- The lines of a markup. -/
def renderLines (options : LayoutOptions) (markup : String) : List String :=
  (renderRows options markup).map (·.text)

/-- The reports of rendering a markup. -/
def renderEvents (options : LayoutOptions) (markup : String) : List Event :=
  (Compiler.ofMarkup markup).compileEvents ++ Node.layoutEventsOfAll options (compile markup)

end Receipt
