import Receipt.Config
import Receipt.Json.Record

/-!
Rows, commands and configurations in JSON. All fields of rows and commands must be there; those of
configurations may be missing, and then the default holds.
-/

namespace Receipt.Json

/-! ## Writing -/

/-- A row as an object. -/
def ofRow (row : Row) : Json :=
  object [("text", string row.text), ("props", ofProps row.props)]

/-- A font as an object. -/
def ofFont (font : Font) : Json :=
  object [("iFontSize", integer font.size.toNat), ("strFontName", string font.name)]

/-- A line box as an object. -/
def ofBox (box : LineBox) : Json :=
  object [("iHeight", integer box.height.toNat), ("iX", integer box.x.toNat),
    ("iY", integer box.y.toNat)]

/-- A command as an object. -/
def ofCommand (command : Command) : Json :=
  object [("text", string command.text), ("font", ofFont command.font),
    ("line_box", ofBox command.box)]

/-- The measures of a layout as an object. -/
def ofOptions (options : LayoutOptions) : Json :=
  object [("col_width", integer options.colWidth.toNat),
    ("border_width", integer options.borderWidth.toNat)]

/-- The settings of a device as an object. -/
def ofSettings (settings : DeviceSettings) : Json :=
  object [("font_size", integer settings.fontSize.toNat),
    ("font_family", string settings.fontFamily),
    ("line_height", match settings.lineHeight with
      | some height => integer height.toNat
      | none => null)]

/-- A configuration as an object. -/
def ofConfig (config : Config) : Json :=
  object [("layout", ofOptions config.layout), ("device", ofSettings config.device)]

/-! ## Reading -/

/-- The row that a record is written for. -/
def row? (json : Json) : Option Row := do
  match ← fields? true ["text", "props"] json with
  | [some text, some props] => pure ⟨← text.string?, ← props? props⟩
  | _ => none

/-- The font that a record is written for. -/
def font? (json : Json) : Option Font := do
  match ← fields? true ["iFontSize", "strFontName"] json with
  | [some size, some name] => pure ⟨← size.uint32?, ← name.string?⟩
  | _ => none

/-- The line box that a record is written for. -/
def box? (json : Json) : Option LineBox := do
  match ← fields? true ["iHeight", "iX", "iY"] json with
  | [some height, some x, some y] => pure ⟨← height.uint32?, ← x.uint32?, ← y.uint32?⟩
  | _ => none

/-- The command that a record is written for. -/
def command? (json : Json) : Option Command := do
  match ← fields? true ["text", "font", "line_box"] json with
  | [some text, some font, some box] => pure ⟨← text.string?, ← font? font, ← box? box⟩
  | _ => none

/-- The measures that a record is written for. -/
def options? (strict : Bool) (json : Json) : Option LayoutOptions := do
  match ← fields? strict ["col_width", "border_width"] json with
  | [colWidth, borderWidth] =>
    let default : LayoutOptions := {}
    pure ⟨← orDefault default.colWidth uint64? colWidth,
      ← orDefault default.borderWidth uint64? borderWidth⟩
  | _ => none

/-- The settings that a record is written for. -/
def settings? (strict : Bool) (json : Json) : Option DeviceSettings := do
  match ← fields? strict ["font_size", "font_family", "line_height"] json with
  | [fontSize, fontFamily, lineHeight] =>
    let default : DeviceSettings := {}
    pure ⟨← orDefault default.fontSize uint32? fontSize,
      ← orDefault default.fontFamily string? fontFamily,
      ← orDefault default.lineHeight (nullable uint32?) lineHeight⟩
  | _ => none

/-- The configuration that a record is written for. If `strict`, an array must not be longer than
its record. -/
def config? (strict : Bool) (json : Json) : Option Config := do
  match ← fields? strict ["layout", "device"] json with
  | [layout, device] =>
    pure ⟨← orDefault {} (options? strict) layout, ← orDefault {} (settings? strict) device⟩
  | _ => none

end Receipt.Json
