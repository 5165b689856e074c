import Receipt.Toml.Basic
import Receipt.Toml.Lexical

/-!
Reading TOML. Arrays and braces may be nested, and keys may have parts, up to a fixed limit.
-/

namespace Receipt.Toml

open Text (Reader)
open Text.Reader

/-- The arrays, braces and parts of keys that may be nested are fewer than this. -/
def depthLimit : Nat := 80

/-! ## Keys -/

/-- The characters of a key without quotes. -/
def isKeyChar (c : Char) : Bool :=
  c.isAlphanum || c == '-' || c == '_'

/-- Takes a part of a key. -/
def keyPart : Reader String :=
  basicString <|> literalString <|> do
    let first ← satisfy isKeyChar
    let more ← takeWhile isKeyChar
    pure (String.ofList (first :: more))

/-- Takes a key: the path to a table, and the name in it. -/
def key : Reader (List String × String) := do
  spaces
  let first ← keyPart
  spaces
  let more ← many do
    char '.'
    spaces
    let part ← keyPart
    spaces
    pure part
  let parts := first :: more
  if parts.length < depthLimit then pure (parts.dropLast, parts.getLast?.getD first) else failure

/-! ## Values -/

/-- Takes the items of an array, up to the closing bracket. -/
def items (value : Reader Value) : Reader (List Value) := do
  let item : Reader Value := do
    blankLines
    let item ← value
    blankLines
    pure item
  let found ← optional do
    let first ← item
    let more ← many do
      char ','
      item
    let _ ← optional (char ',')
    pure (first :: more)
  blankLines
  char ']'
  pure (found.getD [])

/-- Takes the definitions in braces, up to the closing brace. -/
def definitions (value : Reader Value) : Reader Entries := do
  let definition : Reader ((List String × String) × Value) := do
    let key ← key
    char '='
    spaces
    let value ← value
    spaces
    pure (key, value)
  let found ← optional do
    let first ← definition
    let more ← many do
      char ','
      definition
    pure (first :: more)
  spaces
  char '}'
  let add (entries : Entries) (definition : (List String × String) × Value) : Option Entries :=
    defineInside definition.1.1 definition.1.2 definition.2 entries
  match (found.getD []).foldlM add [] with
  | some entries => pure entries
  | none => failure

/-- Takes a value in which fewer than `depth` arrays and braces are nested. -/
def value (depth : Nat) : Reader Value :=
  (do
    let text ← string
    pure (.string text)) <|>
  (do char 't'; chars ['r', 'u', 'e']; pure (.boolean true)) <|>
  (do char 'f'; chars ['a', 'l', 's', 'e']; pure (.boolean false)) <|>
  (do dateTime; pure .dateTime) <|>
  (do float; pure .float) <|>
  (do
    let n ← integer
    pure (.integer n)) <|>
  match depth with
  | 0 | 1 => failure
  | depth + 2 =>
    (do
      char '['
      let items ← items (value (depth + 1))
      pure (.array items)) <|>
    (do
      char '{'
      let entries ← definitions (value (depth + 1))
      pure (.table .inline entries))

/-! ## Documents -/

/-- A document that has been read up to some line. -/
structure Progress where
  /-- The entries of the document. -/
  entries : Entries := []
  /-- The path of the table whose header was read last. -/
  header : List String := []

/-- Takes a header: whether it is in double brackets, the path to it, and its name. -/
def header : Reader (Bool × List String × String) :=
  (do
    chars ['[', '[']
    let (path, name) ← key
    chars [']', ']']
    pure (true, path, name)) <|>
  (do
    char '['
    let (path, name) ← key
    char ']'
    pure (false, path, name))

/-- Takes one line, or what is left of it after a value over several lines. -/
def line (progress : Progress) : Reader Progress := do
  spaces
  match (← rest).head? with
  | none => failure
  | some '#' =>
    lineEnd
    pure progress
  | some '\n' | some '\r' =>
    newline
    pure progress
  | some '[' =>
    let (double, path, name) ← header
    lineEnd
    let opened :=
      if double then openNextTable path name progress.entries
      else openTable path name progress.entries
    match opened with
    | some entries => pure { entries, header := path ++ [name] }
    | none => failure
  | some _ =>
    let (path, name) ← key
    char '='
    spaces
    let value ← value depthLimit
    lineEnd
    match changeInside .byHeader (defineInside path name value) progress.header
        progress.entries with
    | some entries => pure { progress with entries }
    | none => failure

/-- Takes all lines. -/
def lines (progress : Progress) : Reader Progress := fun cs =>
  if (cs.dropWhile isSpace).isEmpty then some (progress, [])
  else
    match line progress cs with
    | none => none
    | some (progress, rest) => if rest.length < cs.length then lines progress rest else none
termination_by cs => cs.length

/-- The entries of a document, if it is TOML. A byte order mark at its start means nothing. -/
def read? (text : String) : Option Entries :=
  let cs := match text.toList with
    | '\uFEFF' :: cs => cs
    | cs => cs
  (lines {} cs).map fun (progress, _) => progress.entries

end Receipt.Toml
