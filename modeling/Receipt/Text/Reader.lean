/-!
Readers: programs that take something from the start of a text, or fail. After a failure the next
alternative starts where the failed one started.
-/

namespace Receipt.Text

/-- Takes a value from the start of a text. -/
abbrev Reader (α : Type) := StateT (List Char) Option α

namespace Reader

variable {α : Type}

/-- The rest of the text. -/
def rest : Reader (List Char) := get

/-- Takes a character that satisfies a test. -/
def satisfy (test : Char → Bool) : Reader Char := do
  match ← get with
  | c :: cs =>
    if test c then
      set cs
      pure c
    else failure
  | [] => failure

/-- Takes the given character. -/
def char (c : Char) : Reader Unit := do
  let _ ← satisfy (· == c)

/-- Takes the given characters. -/
def chars (word : List Char) : Reader Unit := do
  let cs ← get
  if word.isPrefixOf cs then set (cs.drop word.length) else failure

/-- Takes characters as long as they satisfy a test. -/
def takeWhile (test : Char → Bool) : Reader (List Char) := do
  let cs ← get
  set (cs.dropWhile test)
  pure (cs.takeWhile test)

/-- Takes exactly `n` values. -/
def exactly (n : Nat) (reader : Reader α) : Reader (List α) :=
  match n with
  | 0 => pure []
  | n + 1 => do
    let value ← reader
    let values ← exactly n reader
    pure (value :: values)

/-- Takes values as long as the reader succeeds and takes something. -/
def many (reader : Reader α) : Reader (List α) := fun cs =>
  match reader cs with
  | none => some ([], cs)
  | some (value, rest) =>
    if rest.length < cs.length then
      (many reader rest).map fun (values, rest) => (value :: values, rest)
    else some ([], cs)
termination_by cs => cs.length

/-- Succeeds at the end of the text. -/
def atEnd : Reader Unit := do
  match ← get with
  | [] => pure ()
  | _ => failure

end Reader

end Receipt.Text
