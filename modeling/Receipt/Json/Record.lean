import Receipt.Json.Basic
import Receipt.Props

/-!
Records in JSON. A record is written as an object, whose members are its fields, or as an array of
the values of its fields in order. Members of other names mean nothing, and a field must not be
written twice.
-/

namespace Receipt.Json

/-- The values of a record's fields, none where a field is missing. If `strict`, an array must not
be longer than the record. -/
def fields? (strict : Bool) (names : List String) : Json → Option (List (Option Json))
  | object members =>
    if names.all fun name => members.countP (·.1 == name) ≤ 1 then
      some (names.map fun name => member? name members)
    else none
  | array items =>
    if strict && names.length < items.length then none
    else some ((List.range names.length).map fun i => items[i]?)
  | _ => none

/-- The value of a field that may be missing. -/
def orDefault (default : α) (read? : Json → Option α) : Option Json → Option α
  | none => some default
  | some json => read? json

/-- The value of something that may be null. -/
def nullable (read? : Json → Option α) : Json → Option (Option α)
  | null => some none
  | json => (read? json).map some

/-- Pairs of names and texts. -/
def pairs? : List (String × Json) → Option (List (String × String))
  | [] => some []
  | (name, string value) :: members => (pairs? members).map ((name, value) :: ·)
  | _ => none

/-- Props, written as an object of texts. -/
def props? : Json → Option Props
  | object members => (pairs? members).map Props.ofPairs
  | _ => none

/-- Props as an object of texts. -/
def ofProps (props : Props) : Json :=
  object (props.entries.map fun (name, value) => (name, string value))

end Receipt.Json
