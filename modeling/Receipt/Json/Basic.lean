/-!
JSON values. The members of an object keep the order in which they are written, and a name that is
written twice is there twice.
-/

namespace Receipt

/-- A JSON value. -/
inductive Json where
  | null
  | bool (value : Bool)
  | integer (value : Int)
  /-- A number with a fraction or an exponent, or a negative zero, as it is written. -/
  | decimal (literal : String)
  | string (value : String)
  | array (items : List Json)
  | object (members : List (String × Json))
deriving Inhabited

namespace Json

/-- The value of the first member of a name. -/
def member? (name : String) : List (String × Json) → Option Json :=
  List.lookup name

/-- The text of a string. -/
def string? : Json → Option String
  | string value => some value
  | _ => none

/-- The value of a truth value. -/
def bool? : Json → Option Bool
  | bool value => some value
  | _ => none

/-- The items of an array. -/
def array? : Json → Option (List Json)
  | array items => some items
  | _ => none

/-- The value of a whole number from zero up to `bound`, exclusive. -/
def natBelow? (bound : Nat) (json : Json) : Option Nat :=
  match json with
  | integer (.ofNat n) => if n < bound then some n else none
  | _ => none

/-- The value of a whole number that fits into 32 bits. -/
def uint32? (json : Json) : Option UInt32 :=
  (json.natBelow? UInt32.size).map UInt32.ofNat

/-- The value of a whole number that fits into 64 bits. -/
def uint64? (json : Json) : Option UInt64 :=
  (json.natBelow? UInt64.size).map UInt64.ofNat

end Json

end Receipt
