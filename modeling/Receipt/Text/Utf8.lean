/-!
Decoding UTF-8, with the place and extent of the first fault.
-/

namespace Receipt.Text.Utf8

/-- Why bytes are not UTF-8 text. -/
inductive Fault where
  /-- At byte `index` stand `length` bytes that begin no character. -/
  | invalid (length index : Nat)
  /-- The bytes end inside the character that begins at byte `index`. -/
  | incomplete (index : Nat)
deriving DecidableEq

/-- The fault in words. -/
def Fault.message : Fault → String
  | .invalid length index => s!"invalid utf-8 sequence of {length} bytes from index {index}"
  | .incomplete index => s!"incomplete utf-8 byte sequence from index {index}"

/-- Whether a byte continues a character. -/
def isContinuation (byte : UInt8) : Bool :=
  0x80 ≤ byte && byte ≤ 0xBF

/-- Whether `second` can follow the lead byte of a character of three or four bytes. The bounds
exclude overlong forms, surrogates and code points beyond the last. -/
def canFollow (lead second : UInt8) : Bool :=
  if lead == 0xE0 then 0xA0 ≤ second && second ≤ 0xBF
  else if lead == 0xED then 0x80 ≤ second && second ≤ 0x9F
  else if lead == 0xF0 then 0x90 ≤ second && second ≤ 0xBF
  else if lead == 0xF4 then 0x80 ≤ second && second ≤ 0x8F
  else isContinuation second

/-- The payload bits of a continuation byte, below the bits read so far. -/
def extend (bits : Nat) (byte : UInt8) : Nat :=
  bits * 64 + (byte.toNat - 0x80)

/-- The text that the bytes encode, where the first of them has the given index. -/
def decodeFrom (index : Nat) : List UInt8 → Except Fault (List Char)
  | [] => .ok []
  | b₀ :: rest =>
    let single := b₀.toNat
    if b₀ < 0x80 then
      return Char.ofNat single :: (← decodeFrom (index + 1) rest)
    else if 0xC2 ≤ b₀ && b₀ ≤ 0xDF then
      match rest with
      | [] => .error (.incomplete index)
      | b₁ :: rest =>
        if isContinuation b₁ then
          return Char.ofNat (extend (single - 0xC0) b₁) :: (← decodeFrom (index + 2) rest)
        else .error (.invalid 1 index)
    else if 0xE0 ≤ b₀ && b₀ ≤ 0xEF then
      match rest with
      | [] => .error (.incomplete index)
      | b₁ :: rest =>
        if canFollow b₀ b₁ then
          match rest with
          | [] => .error (.incomplete index)
          | b₂ :: rest =>
            if isContinuation b₂ then
              return Char.ofNat (extend (extend (single - 0xE0) b₁) b₂) ::
                (← decodeFrom (index + 3) rest)
            else .error (.invalid 2 index)
        else .error (.invalid 1 index)
    else if 0xF0 ≤ b₀ && b₀ ≤ 0xF4 then
      match rest with
      | [] => .error (.incomplete index)
      | b₁ :: rest =>
        if canFollow b₀ b₁ then
          match rest with
          | [] => .error (.incomplete index)
          | b₂ :: rest =>
            if isContinuation b₂ then
              match rest with
              | [] => .error (.incomplete index)
              | b₃ :: rest =>
                if isContinuation b₃ then
                  return Char.ofNat (extend (extend (extend (single - 0xF0) b₁) b₂) b₃) ::
                    (← decodeFrom (index + 4) rest)
                else .error (.invalid 3 index)
            else .error (.invalid 2 index)
        else .error (.invalid 1 index)
    else .error (.invalid 1 index)

/-- The text that the bytes encode. -/
def decode (bytes : List UInt8) : Except Fault String :=
  (decodeFrom 0 bytes).map String.ofList

/-- The number of bytes that a text takes. -/
def length : List Char → Nat
  | [] => 0
  | c :: cs => c.utf8Size + length cs

end Receipt.Text.Utf8
