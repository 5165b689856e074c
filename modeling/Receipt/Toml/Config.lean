import Receipt.Json.Print
import Receipt.Toml.Read

/-!
Configurations in TOML. The tables `layout` and `device` hold what the records of these names hold
in JSON; all else in the document means nothing.
-/

namespace Receipt

namespace Toml

mutual

/-- A value as JSON. A date becomes an object of its own, whose member has no meaning elsewhere. -/
def Value.toJson : Value → Json
  | .string value => .string value
  | .integer value => .integer value
  | .float => .decimal "0.0"
  | .boolean value => .bool value
  | .dateTime => .object [("date", .null)]
  | .array items => .array (itemsToJson items)
  | .table _ entries => .object (entriesToJson entries)
  | .tables items => .array (tablesToJson items)

/-- Values as items of an array. -/
def itemsToJson : List Value → List Json
  | [] => []
  | item :: items => item.toJson :: itemsToJson items

/-- Entries as members of an object. -/
def entriesToJson : List (String × Value) → List (String × Json)
  | [] => []
  | (name, value) :: entries => (name, value.toJson) :: entriesToJson entries

/-- Tables as items of an array. -/
def tablesToJson : List (List (String × Value)) → List Json
  | [] => []
  | entries :: tables => .object (entriesToJson entries) :: tablesToJson tables

end

end Toml

/-- The configuration that a TOML document describes, if it is one. Where a table is written as an
array, items beyond its fields mean nothing. -/
def Config.ofToml? (text : String) : Option Config :=
  (Toml.read? text).bind fun entries => Json.config? false (.object (Toml.entriesToJson entries))

end Receipt
