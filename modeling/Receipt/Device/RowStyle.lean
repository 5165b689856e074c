import Receipt.Event
import Receipt.Layout.Row
import Receipt.Text.Blank

/-!
The style of a row: the props that choose the font and the height of a line. A prop that should
hold a number and does not is reported, and has no effect.
-/

namespace Receipt

/-- The prop that sets the font size of a row. -/
def fontSizeKey : String := "fontSize"

/-- The prop that sets the font of a row. -/
def fontFamilyKey : String := "fontFamily"

/-- The prop that sets the height of a row. -/
def lineHeightKey : String := "lineHeight"

/-- The number that a prop holds, if it holds one. -/
def Props.number? (props : Props) (key : String) : Option UInt32 :=
  (props.get? key).bind fun value => Text.Decimal.readUInt32? (Text.trim value.toList)

/-- The report on a prop that should hold a number and does not. -/
def Props.numberEvents (props : Props) (key : String) : List Event :=
  match props.get? key with
  | none => []
  | some value =>
    if (props.number? key).isSome then [] else [.valueNotNumeric key value]

/-- The reports on the props of a row. -/
def Row.events (row : Row) : List Event :=
  row.props.numberEvents fontSizeKey ++ row.props.numberEvents lineHeightKey

end Receipt
