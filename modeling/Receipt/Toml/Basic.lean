/-!
TOML values. A table remembers how it came about, since that decides who may add to it.
-/

namespace Receipt.Toml

/-- How a table came about. -/
inductive Origin where
  /-- It was written in braces. -/
  | inline
  /-- It has a header. -/
  | header
  /-- A header names something inside it. -/
  | implied
  /-- A key with dots names something inside it. -/
  | dotted
deriving DecidableEq

/-- A TOML value. -/
inductive Value where
  | string (value : String)
  | integer (value : Int)
  | float
  | boolean (value : Bool)
  | dateTime
  | array (items : List Value)
  | table (origin : Origin) (entries : List (String × Value))
  /-- The tables that have the same header in double brackets. -/
  | tables (items : List (List (String × Value)))
deriving Inhabited

/-- The entries of a table, in order. -/
abbrev Entries := List (String × Value)

/-- Why a table is entered. -/
inductive Entry where
  /-- A header names something inside. -/
  | byHeader
  /-- A key with dots names something inside. -/
  | byKey

/-- Whether a table may be entered. A key must not enter a table that has a header, and the table
in which the named value stands directly (`last`) must have come about by such keys. -/
def Origin.admits (origin : Origin) (entry : Entry) (last : Bool) : Bool :=
  match origin, entry with
  | .inline, _ => false
  | _, .byHeader => true
  | .dotted, .byKey => true
  | .implied, .byKey => !last
  | .header, .byKey => false

/-- Whether the last of several tables with one header may be entered. -/
def Entry.entersTables (entry : Entry) (last : Bool) : Bool :=
  match entry with
  | .byHeader => true
  | .byKey => !last

/-- Changes the value of a key, or gives it one; nothing changes if `change` fails. -/
def changeAt (key : String) (change : Option Value → Option Value) : Entries → Option Entries
  | [] => (change none).map fun value => [(key, value)]
  | (name, value) :: entries =>
    if name = key then (change (some value)).map fun value => (name, value) :: entries
    else (changeAt key change entries).map ((name, value) :: ·)

/-- Changes the last of several tables. -/
def changeLast (change : Entries → Option Entries) : List Entries → Option (List Entries)
  | [] => none
  | [entries] => (change entries).map fun entries => [entries]
  | entries :: others => (changeLast change others).map (entries :: ·)

/-- Changes the table that a path leads to, starting from the table with the given entries. Tables
that are missing on the way come about. -/
def changeInside (entry : Entry) (change : Entries → Option Entries) :
    List String → Entries → Option Entries
  | [], entries => change entries
  | key :: path, entries =>
    entries |> changeAt key fun found =>
      let inside := changeInside entry change path
      match found with
      | none =>
        let origin := match entry with
          | .byHeader => Origin.implied
          | .byKey => Origin.dotted
        (inside []).map (Value.table origin)
      | some (.table origin entries) =>
        if origin.admits entry path.isEmpty then (inside entries).map (Value.table origin)
        else none
      | some (.tables items) =>
        if entry.entersTables path.isEmpty then (changeLast inside items).map Value.tables
        else none
      | some _ => none

/-- Gives a key its value, which it must not have yet. -/
def define (key : String) (value : Value) : Entries → Option Entries :=
  changeAt key fun found =>
    match found with
    | none => some value
    | some _ => none

/-- Adds `path.key = value` to a table. -/
def defineInside (path : List String) (key : String) (value : Value) : Entries → Option Entries :=
  changeInside .byKey (define key value) path

/-- Opens the table of a header. -/
def openTable (path : List String) (key : String) : Entries → Option Entries :=
  changeInside .byHeader
    (changeAt key fun found =>
      match found with
      | none => some (.table .header [])
      | some (.table .implied entries) => some (.table .header entries)
      | some _ => none)
    path

/-- Opens another table of a header in double brackets. -/
def openNextTable (path : List String) (key : String) : Entries → Option Entries :=
  changeInside .byHeader
    (changeAt key fun found =>
      match found with
      | none => some (.tables [[]])
      | some (.tables items) => some (.tables (items ++ [[]]))
      | some _ => none)
    path

end Receipt.Toml
