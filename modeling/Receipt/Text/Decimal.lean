/-!
Numbers written in decimal.
-/

namespace Receipt.Text.Decimal

/-- The value of a run of decimal digits, read after the digits of `acc`. -/
def digitsFrom (acc : Nat) : List Char → Option Nat
  | [] => some acc
  | c :: cs => if c.isDigit then digitsFrom (acc * 10 + (c.toNat - '0'.toNat)) cs else none

/-- The value of one or more ASCII digits, with or without a plus sign before them. -/
def read? (cs : List Char) : Option Nat :=
  let digits := match cs with
    | '+' :: rest => rest
    | _ => cs
  if digits.isEmpty then none else digitsFrom 0 digits

/-- The value of a written number that is less than `bound`. -/
def readBelow? (bound : Nat) (cs : List Char) : Option Nat :=
  (read? cs).filter (· < bound)

/-- The value of a written number that fits into 32 bits. -/
def readUInt32? (cs : List Char) : Option UInt32 :=
  (readBelow? UInt32.size cs).map UInt32.ofNat

/-- The value of a written number that fits into 64 bits. -/
def readUInt64? (cs : List Char) : Option UInt64 :=
  (readBelow? UInt64.size cs).map UInt64.ofNat

/-- The digits of a number. -/
def write (n : Nat) : List Char :=
  Nat.toDigits 10 n

end Receipt.Text.Decimal
