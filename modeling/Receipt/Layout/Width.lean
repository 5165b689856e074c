import Receipt.Props
import Receipt.Text.Blank
import Receipt.Text.Columns
import Receipt.Text.Decimal

/-!
Column widths. A cell says how wide its column is; where it says nothing usable, the layout's
default applies.
-/

namespace Receipt

/-- The measures of a layout. -/
structure LayoutOptions where
  /-- The width of a column that does not say how wide it is. -/
  colWidth : UInt64 := 10
  /-- The number of spaces between two columns. -/
  borderWidth : UInt64 := 2
deriving DecidableEq

/-- How wide a column is. -/
inductive ColumnWidth where
  /-- As wide as its text: nothing is cut and nothing is padded. -/
  | auto
  /-- Cut at, and padded to, a number of characters. -/
  | fixed (width : Nat)
deriving DecidableEq

namespace ColumnWidth

/-- The name of the prop that sets the width of a column. -/
def key : String := "width"

/-- The widest column that can be asked for. -/
def widest : Nat := 65535

/-- The width that a value asks for: `auto`, or a number from 1 to the widest. -/
def read? (value : String) : Option ColumnWidth :=
  let word := Text.trim value.toList
  if word = ['a', 'u', 't', 'o'] then some auto
  else
    match Text.Decimal.readBelow? (widest + 1) word with
    | some (width + 1) => some (fixed (width + 1))
    | _ => none

/-- The width of a column where nothing usable is asked for. -/
def standard (colWidth : UInt64) : ColumnWidth :=
  fixed (min colWidth.toNat widest)

/-- The width of a column with the given props. -/
def ofProps (props : Props) (colWidth : UInt64) : ColumnWidth :=
  ((props.get? key).bind read?).getD (standard colWidth)

/-- Pads one line to the width. -/
def pad : ColumnWidth → List Char → List Char
  | auto, line => line
  | fixed width, line => Text.padRight width line

/-- Cuts one line at the width. -/
def cut : ColumnWidth → List Char → List (List Char)
  | auto, line => [line]
  | fixed width, line => Text.cut width line

/-- The lines of a text, each cut at the width. -/
def wrap (columnWidth : ColumnWidth) (text : List Char) : List (List Char) :=
  (Text.splitLines text).flatMap columnWidth.cut

end ColumnWidth

end Receipt
