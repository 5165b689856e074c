import Receipt.Text.Hex
import Receipt.Text.Reader

/-!
The small parts of a TOML document: spaces, comments, strings, numbers and dates.
-/

namespace Receipt.Toml

open Text (Reader)
open Text.Reader

/-! ## Between values -/

/-- The blanks that may stand within a line. -/
def isSpace (c : Char) : Bool :=
  c == ' ' || c == '\t'

/-- Takes the blanks at the start. -/
def spaces : Reader Unit := do
  let _ ← takeWhile isSpace

/-- Takes the end of a line. -/
def newline : Reader Unit :=
  char '\n' <|> chars ['\r', '\n']

/-- The characters of a comment: all but controls, of which only the tab may stand there. -/
def isPlain (c : Char) : Bool :=
  c == '\t' || (0x20 ≤ c.toNat && c.toNat != 0x7F)

/-- Takes a comment. -/
def comment : Reader Unit := do
  char '#'
  let _ ← takeWhile isPlain

/-- Takes what may stand after an expression, and the end of its line. -/
def lineEnd : Reader Unit := do
  spaces
  let _ ← optional comment
  newline <|> atEnd

/-- Takes blanks, comments and ends of lines. -/
def blankLines : Reader Unit := do
  let _ ← many <|
    (do let _ ← satisfy isSpace) <|> newline <|> (do comment; newline)

/-! ## Strings -/

/-- The value of digits, the most significant first. -/
def ofDigits (base : Nat) (digits : List Nat) : Nat :=
  digits.foldl (fun value digit => value * base + digit) 0

/-- Takes a digit. -/
def digit (value? : Char → Option Nat) : Reader Nat := do
  match value? (← satisfy fun c => (value? c).isSome) with
  | some value => pure value
  | none => failure

/-- Takes a code point of so many hexadecimal digits. -/
def codePoint (length : Nat) : Reader Char := do
  let n := ofDigits 16 (← exactly length (digit Text.Hex.value?))
  if n.isValidChar then pure (Char.ofNat n) else failure

/-- Takes an escape. -/
def escape : Reader Char := do
  char '\\'
  match ← satisfy fun _ => true with
  | 'b' => pure '\x08'
  | 't' => pure '\t'
  | 'n' => pure '\n'
  | 'f' => pure '\x0c'
  | 'r' => pure '\r'
  | '"' => pure '"'
  | '\\' => pure '\\'
  | 'u' => codePoint 4
  | 'U' => codePoint 8
  | _ => failure

/-- Takes a string in double quotes. -/
def basicString : Reader String := do
  char '"'
  let cs ← many (satisfy (fun c => isPlain c && c != '"' && c != '\\') <|> escape)
  char '"'
  pure (String.ofList cs)

/-- Takes a string in single quotes, in which nothing is escaped. -/
def literalString : Reader String := do
  char '\''
  let cs ← takeWhile fun c => isPlain c && c != '\''
  char '\''
  pure (String.ofList cs)

/-- Takes a backslash at the end of a line, and everything up to the next text. -/
def lineContinuation : Reader Unit := do
  char '\\'
  spaces
  newline
  let _ ← many ((do let _ ← satisfy isSpace) <|> newline)

/-- Takes the end of a string over several lines, and the one or two quotes that may stand before
it. -/
def multilineEnd (quote : Char) : Reader (List Char) :=
  (do chars [quote, quote, quote, quote, quote]; pure [quote, quote]) <|>
    (do chars [quote, quote, quote, quote]; pure [quote]) <|>
    (do chars [quote, quote, quote]; pure [])

/-- Takes one or two quotes inside a string over several lines. -/
def innerQuotes (quote : Char) : Reader (List Char) := do
  let cs ← rest
  if [quote, quote, quote].isPrefixOf cs then failure
  char quote
  pure [quote]

/-- Takes a string over several lines in double quotes. -/
def multilineBasic : Reader String := do
  chars ['"', '"', '"']
  let _ ← optional newline
  let parts ← many <|
    (do pure [← satisfy fun c => isPlain c && c != '"' && c != '\\']) <|>
      (do newline; pure ['\n']) <|>
      (do lineContinuation; pure []) <|>
      (do pure [← escape]) <|>
      innerQuotes '"'
  let last ← multilineEnd '"'
  pure (String.ofList (parts.flatten ++ last))

/-- Takes a string over several lines in single quotes. -/
def multilineLiteral : Reader String := do
  chars ['\'', '\'', '\'']
  let _ ← optional newline
  let parts ← many <|
    (do pure [← satisfy fun c => isPlain c && c != '\'']) <|>
      (do newline; pure ['\n']) <|>
      innerQuotes '\''
  let last ← multilineEnd '\''
  pure (String.ofList (parts.flatten ++ last))

/-- Takes a string of any form. -/
def string : Reader String := do
  let cs ← rest
  if ['"', '"', '"'].isPrefixOf cs then multilineBasic
  else if ['\'', '\'', '\''].isPrefixOf cs then multilineLiteral
  else basicString <|> literalString

/-! ## Numbers -/

/-- Takes one or more digits, with an underscore between any two of them at most. -/
def digits (value? : Char → Option Nat) : Reader (List Nat) := do
  let first ← digit value?
  let more ← many (digit value? <|> (do char '_'; digit value?))
  pure (first :: more)

/-- The value of a decimal digit. -/
def decimalDigit? (c : Char) : Option Nat :=
  if c.isDigit then some (c.toNat - '0'.toNat) else none

/-- The value of a digit of a base of at most ten. -/
def digitBelow? (base : Nat) (c : Char) : Option Nat :=
  (decimalDigit? c).filter (· < base)

/-- Takes a sign: whether the number is negative. -/
def sign : Reader Bool :=
  (do char '-'; pure true) <|> (do char '+'; pure false) <|> pure false

/-- Takes the digits of a whole number in decimal, which do not begin with a zero unless that is
the only one. -/
def wholeDigits : Reader (List Nat) := do
  match ← digit decimalDigit? with
  | 0 => pure [0]
  | first =>
    let more ← many (digit decimalDigit? <|> (do char '_'; digit decimalDigit?))
    pure (first :: more)

/-- The whole numbers that a document can hold: those of 64 bits with a sign. -/
def fits (n : Int) : Bool :=
  -9223372036854775808 ≤ n && n ≤ 9223372036854775807

/-- Takes a whole number. -/
def integer : Reader Int := do
  let based (word : List Char) (base : Nat) (value? : Char → Option Nat) : Reader Int := do
    chars word
    pure (ofDigits base (← digits value?))
  let cs ← rest
  let n ←
    if ['0', 'x'].isPrefixOf cs then based ['0', 'x'] 16 Text.Hex.value?
    else if ['0', 'o'].isPrefixOf cs then based ['0', 'o'] 8 (digitBelow? 8)
    else if ['0', 'b'].isPrefixOf cs then based ['0', 'b'] 2 (digitBelow? 2)
    else do
      let negative ← sign
      let n : Nat := ofDigits 10 (← wholeDigits)
      pure (if negative then -(n : Int) else (n : Int))
  if fits n then pure n else failure

/-- Whether a decimal number with the given digits before a power of ten is too large for a float
of 64 bits: whether it is at least halfway from the largest float to the next power of two. -/
def overflows (digits : List Nat) (exponent : Int) : Bool :=
  let mantissa := ofDigits 10 digits
  let limit := (Nat.pow 2 54 - 1) * Nat.pow 2 970
  if mantissa = 0 then false
  else if exponent < 0 then
    limit * Nat.pow 10 (min (-exponent).toNat digits.length) ≤ mantissa
  else if 309 ≤ exponent then true
  else limit ≤ mantissa * Nat.pow 10 exponent.toNat

/-- Takes a number with a fraction or an exponent, or one of the special numbers. -/
def float : Reader Unit := do
  let negative ← sign
  (chars ['i', 'n', 'f'] <|> chars ['n', 'a', 'n']) <|> do
    let whole ← wholeDigits
    let fraction ← optional do
      char '.'
      digits decimalDigit?
    let exponent ← optional do
      char 'e' <|> char 'E'
      let below ← sign
      let n : Nat := ofDigits 10 (← digits decimalDigit?)
      pure (if below then -(n : Int) else (n : Int))
    if fraction.isNone && exponent.isNone then failure
    let fraction := fraction.getD []
    if !negative && overflows (whole ++ fraction) (exponent.getD 0 - fraction.length) then failure

/-! ## Dates and times -/

/-- Takes a number of so many digits that lies between two bounds. -/
def numberBetween (length low high : Nat) : Reader Nat := do
  let n := ofDigits 10 (← exactly length (digit decimalDigit?))
  if low ≤ n ∧ n ≤ high then pure n else failure

/-- The number of days of a month. -/
def daysOfMonth (year month : Nat) : Nat :=
  if month = 2 then
    if year % 4 = 0 ∧ (year % 100 ≠ 0 ∨ year % 400 = 0) then 29 else 28
  else if month = 4 ∨ month = 6 ∨ month = 9 ∨ month = 11 then 30
  else 31

/-- Takes a date. -/
def date : Reader Unit := do
  let year ← numberBetween 4 0 9999
  char '-'
  let month ← numberBetween 2 1 12
  char '-'
  let _ ← numberBetween 2 1 (daysOfMonth year month)

/-- Takes a time of day. -/
def time : Reader Unit := do
  let _ ← numberBetween 2 0 23
  char ':'
  let _ ← numberBetween 2 0 59
  char ':'
  let _ ← numberBetween 2 0 60
  let _ ← optional do
    char '.'
    let _ ← digit decimalDigit?
    takeWhile Char.isDigit

/-- Takes the distance of a time from the universal one. -/
def offset : Reader Unit :=
  char 'Z' <|> char 'z' <|> do
    char '+' <|> char '-'
    let _ ← numberBetween 2 0 23
    char ':'
    let _ ← numberBetween 2 0 59

/-- Takes a date, a time, or both. -/
def dateTime : Reader Unit :=
  (do
    date
    let _ ← optional do
      char 'T' <|> char 't' <|> char ' '
      time
      optional offset) <|>
    time

end Receipt.Toml
