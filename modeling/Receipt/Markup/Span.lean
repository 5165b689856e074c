import Receipt.Markup.Element
import Receipt.Text.Utf8

/-!
Spans: where the elements of a text stand in it, counted in bytes.
-/

namespace Receipt.Markup

/-- An element, with the bytes it takes from the first up to, and without, the last. -/
structure Span where
  element : Element
  start : Nat
  stop : Nat

namespace Element

/-- Where elements stand that follow each other, the first after `offset` bytes. -/
def spansFrom (offset : Nat) : List Element → List Span
  | [] => []
  | element :: elements =>
    let start := offset + Text.Utf8.length element.before
    let stop := start + Text.Utf8.length element.write
    ⟨element, start, stop⟩ :: spansFrom stop elements

/-- Where the elements of a text stand. -/
def spans (text : List Char) : List Span :=
  spansFrom 0 (all text)

end Element

end Receipt.Markup
