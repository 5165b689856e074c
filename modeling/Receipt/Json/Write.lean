import Receipt.Json.Basic
import Receipt.Text.Decimal
import Receipt.Text.Hex

/-!
Writing JSON: on one line without spaces, or over several lines with two spaces for each level.
-/

namespace Receipt.Json

/-- How a character is written in a string. -/
def escapeChar (c : Char) : List Char :=
  match c with
  | '"' => ['\\', '"']
  | '\\' => ['\\', '\\']
  | '\x08' => ['\\', 'b']
  | '\x0c' => ['\\', 'f']
  | '\n' => ['\\', 'n']
  | '\r' => ['\\', 'r']
  | '\t' => ['\\', 't']
  | c =>
    if c.toNat < 0x20 then
      ['\\', 'u', '0', '0', Text.Hex.digit (c.toNat / 16), Text.Hex.digit (c.toNat % 16)]
    else [c]

/-- A string in quotes. -/
def writeString (value : String) : List Char :=
  '"' :: (value.toList.flatMap escapeChar ++ ['"'])

/-- A whole number. -/
def writeInteger : Int → List Char
  | .ofNat n => Text.Decimal.write n
  | .negSucc n => '-' :: Text.Decimal.write (n + 1)

mutual

/-- A value on one line. -/
def write : Json → List Char
  | null => ['n', 'u', 'l', 'l']
  | bool true => ['t', 'r', 'u', 'e']
  | bool false => ['f', 'a', 'l', 's', 'e']
  | integer value => writeInteger value
  | decimal literal => literal.toList
  | string value => writeString value
  | array [] => ['[', ']']
  | array (item :: items) => '[' :: (write item ++ writeItems items)
  | object [] => ['{', '}']
  | object ((name, value) :: members) =>
    '{' :: (writeString name ++ ':' :: (write value ++ writeMembers members))

/-- The items after the first one, and the end of the array. -/
def writeItems : List Json → List Char
  | [] => [']']
  | item :: items => ',' :: (write item ++ writeItems items)

/-- The members after the first one, and the end of the object. -/
def writeMembers : List (String × Json) → List Char
  | [] => ['}']
  | (name, value) :: members =>
    ',' :: (writeString name ++ ':' :: (write value ++ writeMembers members))

end

/-- The start of a line at the given level. -/
def newLine (level : Nat) : List Char :=
  '\n' :: List.replicate (2 * level) ' '

mutual

/-- A value over several lines, at the given level. -/
def writeIndented (level : Nat) : Json → List Char
  | array [] => ['[', ']']
  | array (item :: items) =>
    '[' :: (newLine (level + 1) ++ writeIndented (level + 1) item ++
      writeItemsIndented level items)
  | object [] => ['{', '}']
  | object ((name, value) :: members) =>
    '{' :: (newLine (level + 1) ++ writeString name ++ ':' :: ' ' ::
      (writeIndented (level + 1) value ++ writeMembersIndented level members))
  | json => write json

/-- The items after the first one, and the end of the array. -/
def writeItemsIndented (level : Nat) : List Json → List Char
  | [] => newLine level ++ [']']
  | item :: items =>
    ',' :: (newLine (level + 1) ++ writeIndented (level + 1) item ++
      writeItemsIndented level items)

/-- The members after the first one, and the end of the object. -/
def writeMembersIndented (level : Nat) : List (String × Json) → List Char
  | [] => newLine level ++ ['}']
  | (name, value) :: members =>
    ',' :: (newLine (level + 1) ++ writeString name ++ ':' :: ' ' ::
      (writeIndented (level + 1) value ++ writeMembersIndented level members))

end

/-- The text of a value on one line. -/
def compact (json : Json) : String :=
  String.ofList json.write

/-- The text of a value over several lines. -/
def pretty (json : Json) : String :=
  String.ofList (json.writeIndented 0)

end Receipt.Json
