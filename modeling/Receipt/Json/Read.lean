import Receipt.Json.Basic
import Receipt.Text.Decimal
import Receipt.Text.Hex

/-!
Reading JSON. Arrays and objects may be nested up to a fixed depth. A reader takes a value from the
start of a text and returns the rest.
-/

namespace Receipt.Json

/-- Reads a value from the start of a text, and returns the rest of the text. -/
abbrev Reader (α : Type) := List Char → Option (α × List Char)

/-- The characters that may stand between two symbols. -/
def isSpace (c : Char) : Bool :=
  c == ' ' || c == '\n' || c == '\r' || c == '\t'

/-- The text without the spaces at its start. -/
def skipSpaces (cs : List Char) : List Char :=
  cs.dropWhile isSpace

/-! ## Strings -/

/-- Reads four hexadecimal digits. -/
def readHex? : Reader Nat
  | a :: b :: c :: d :: rest => do
    let a ← Text.Hex.value? a
    let b ← Text.Hex.value? b
    let c ← Text.Hex.value? c
    let d ← Text.Hex.value? d
    pure (((a * 16 + b) * 16 + c) * 16 + d, rest)
  | _ => none

/-- Reads what follows the `u` of an escape: a code unit, or a pair of surrogates. -/
def readUnicode? (cs : List Char) : Option (Char × List Char) :=
  match readHex? cs with
  | none => none
  | some (unit, rest) =>
    if 0xD800 ≤ unit ∧ unit < 0xDC00 then
      match rest with
      | '\\' :: 'u' :: rest =>
        match readHex? rest with
        | some (low, rest) =>
          if 0xDC00 ≤ low ∧ low < 0xE000 then
            some (Char.ofNat (0x10000 + (unit - 0xD800) * 0x400 + (low - 0xDC00)), rest)
          else none
        | none => none
      | _ => none
    else if 0xDC00 ≤ unit ∧ unit < 0xE000 then none
    else some (Char.ofNat unit, rest)

/-- Reads what follows the backslash of an escape. -/
def readEscape? : Reader Char
  | '"' :: rest => some ('"', rest)
  | '\\' :: rest => some ('\\', rest)
  | '/' :: rest => some ('/', rest)
  | 'b' :: rest => some ('\x08', rest)
  | 'f' :: rest => some ('\x0c', rest)
  | 'n' :: rest => some ('\n', rest)
  | 'r' :: rest => some ('\r', rest)
  | 't' :: rest => some ('\t', rest)
  | 'u' :: rest => readUnicode? rest
  | _ => none

theorem length_lt_of_readHex? {cs rest : List Char} {n : Nat}
    (h : readHex? cs = some (n, rest)) : rest.length < cs.length := by
  unfold readHex? at h
  split at h
  · simp only [Option.bind_eq_bind, Option.bind_eq_some_iff, Option.pure_def, Option.some.injEq,
      Prod.mk.injEq] at h
    obtain ⟨_, -, _, -, _, -, _, -, -, rfl⟩ := h
    simp only [List.length_cons]
    omega
  · simp at h

theorem length_lt_of_readUnicode? {cs rest : List Char} {c : Char}
    (h : readUnicode? cs = some (c, rest)) : rest.length < cs.length := by
  unfold readUnicode? at h
  split at h
  · simp at h
  · rename_i h₁
    have l₁ := length_lt_of_readHex? h₁
    split at h
    · split at h
      · split at h
        · rename_i h₂
          have l₂ := length_lt_of_readHex? h₂
          split at h
          · simp only [Option.some.injEq, Prod.mk.injEq] at h
            obtain ⟨-, rfl⟩ := h
            simp only [List.length_cons] at l₁
            omega
          · simp at h
        · simp at h
      · simp at h
    · split at h
      · simp at h
      · simp only [Option.some.injEq, Prod.mk.injEq] at h
        obtain ⟨-, rfl⟩ := h
        exact l₁

theorem length_lt_of_readEscape? {cs rest : List Char} {c : Char}
    (h : readEscape? cs = some (c, rest)) : rest.length < cs.length := by
  unfold readEscape? at h
  split at h
  case h_9 r =>
    have := length_lt_of_readUnicode? h
    simp only [List.length_cons]
    omega
  case h_10 => simp at h
  all_goals
    simp only [Option.some.injEq, Prod.mk.injEq] at h
    obtain ⟨-, rfl⟩ := h
    simp

/-- Reads the characters of a string and the quote that ends it. -/
def readChars? : Reader (List Char)
  | [] => none
  | c :: cs =>
    if c = '"' then some ([], cs)
    else if c = '\\' then
      match _escape : readEscape? cs with
      | none => none
      | some (char, rest) => (readChars? rest).map fun (chars, rest) => (char :: chars, rest)
    else if c.toNat < 0x20 then none
    else (readChars? cs).map fun (chars, rest) => (c :: chars, rest)
termination_by cs => cs.length
decreasing_by
  · have := length_lt_of_readEscape? _escape
    simp only [List.length_cons]
    omega
  · simp

/-- Reads a string in quotes. -/
def readString? : Reader String
  | '"' :: rest => (readChars? rest).map fun (chars, rest) => (String.ofList chars, rest)
  | _ => none

/-! ## Numbers -/

/-- Reads one or more digits. -/
def readDigits? (cs : List Char) : Option (List Char × List Char) :=
  let digits := cs.takeWhile Char.isDigit
  if digits.isEmpty then none else some (digits, cs.dropWhile Char.isDigit)

/-- Reads digits that do not begin with a zero, unless that is the only one. -/
def readWhole? (cs : List Char) : Option (List Char × List Char) :=
  match readDigits? cs with
  | some ('0' :: _ :: _, _) => none
  | result => result

/-- Reads a fraction, if there is one. -/
def readFraction? : Reader (List Char)
  | '.' :: rest => (readDigits? rest).map fun (digits, rest) => ('.' :: digits, rest)
  | cs => some ([], cs)

/-- Reads an exponent, if there is one. -/
def readExponent? : Reader (List Char)
  | [] => some ([], [])
  | e :: rest =>
    if e = 'e' ∨ e = 'E' then
      match rest with
      | '+' :: rest => (readDigits? rest).map fun (digits, rest) => (e :: '+' :: digits, rest)
      | '-' :: rest => (readDigits? rest).map fun (digits, rest) => (e :: '-' :: digits, rest)
      | rest => (readDigits? rest).map fun (digits, rest) => (e :: digits, rest)
    else some ([], e :: rest)

/-- Reads a number without its sign: the digits before the point, and what is after them. -/
def readUnsigned? (cs : List Char) : Option ((List Char × List Char) × List Char) := do
  let (whole, cs) ← readWhole? cs
  let (fraction, cs) ← readFraction? cs
  let (exponent, cs) ← readExponent? cs
  pure ((whole, fraction ++ exponent), cs)

/-- Reads a number. -/
def readNumber? : Reader Json
  | '-' :: cs => (readUnsigned? cs).map fun ((whole, tail), rest) =>
    let n := (Text.Decimal.digitsFrom 0 whole).getD 0
    if tail.isEmpty ∧ n ≠ 0 then (integer (-n), rest)
    else (decimal (String.ofList ('-' :: (whole ++ tail))), rest)
  | cs => (readUnsigned? cs).map fun ((whole, tail), rest) =>
    if tail.isEmpty then (integer ((Text.Decimal.digitsFrom 0 whole).getD 0), rest)
    else (decimal (String.ofList (whole ++ tail)), rest)

/-! ## Values -/

/-- Reads the items after the first one, each after a comma, and the symbol that ends them. -/
def readMore? (item : Reader α) (close : Char) (cs : List Char) : Option (List α × List Char) :=
  match skipSpaces cs with
  | ',' :: rest =>
    match item (skipSpaces rest) with
    | some (value, rest) =>
      if rest.length < cs.length then
        (readMore? item close rest).map fun (values, rest) => (value :: values, rest)
      else none
    | none => none
  | c :: rest => if c = close then some ([], rest) else none
  | [] => none
termination_by cs.length

/-- Reads items with commas between them, and the symbol that ends them. -/
def readItems? (item : Reader α) (close : Char) (cs : List Char) : Option (List α × List Char) :=
  match skipSpaces cs with
  | [] => none
  | c :: rest =>
    if c = close then some ([], rest)
    else
      match item (c :: rest) with
      | some (value, rest) =>
        (readMore? item close rest).map fun (values, rest) => (value :: values, rest)
      | none => none

/-- Reads a member of an object. -/
def readMember? (value : Reader Json) : Reader (String × Json) := fun cs =>
  match readString? cs with
  | some (name, rest) =>
    match skipSpaces rest with
    | ':' :: rest => (value (skipSpaces rest)).map fun (json, rest) => ((name, json), rest)
    | _ => none
  | none => none

/-- Reads a word that stands for a value. -/
def readWord? (word : List Char) (value : Json) : Reader Json := fun cs =>
  if word.isPrefixOf cs then some (value, cs.drop word.length) else none

/-- Reads a value in which at most `depth` arrays and objects are nested. -/
def readValue? : Nat → Reader Json
  | _, [] => none
  | depth, c :: cs =>
    if c = '"' then
      (readChars? cs).map fun (chars, rest) => (string (String.ofList chars), rest)
    else if c = '[' then
      match depth with
      | 0 => none
      | depth + 1 =>
        (readItems? (readValue? depth) ']' cs).map fun (items, rest) => (array items, rest)
    else if c = '{' then
      match depth with
      | 0 => none
      | depth + 1 =>
        (readItems? (readMember? (readValue? depth)) '}' cs).map fun (members, rest) =>
          (object members, rest)
    else if c = 'n' then readWord? ['u', 'l', 'l'] null cs
    else if c = 't' then readWord? ['r', 'u', 'e'] (bool true) cs
    else if c = 'f' then readWord? ['a', 'l', 's', 'e'] (bool false) cs
    else readNumber? (c :: cs)

/-- The deepest nesting of arrays and objects that is read. -/
def depthLimit : Nat := 127

/-- The value that a text is written for, if it is JSON. -/
def read? (text : String) : Option Json :=
  match readValue? depthLimit (skipSpaces text.toList) with
  | some (json, rest) => if (skipSpaces rest).isEmpty then some json else none
  | none => none

end Receipt.Json
