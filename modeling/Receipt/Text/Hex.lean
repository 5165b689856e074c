/-!
Hexadecimal digits.
-/

namespace Receipt.Text.Hex

/-- The value of a hexadecimal digit, in lower or upper case. -/
def value? (c : Char) : Option Nat :=
  if c.isDigit then some (c.toNat - '0'.toNat)
  else if 'a' ≤ c ∧ c ≤ 'f' then some (c.toNat - 'a'.toNat + 10)
  else if 'A' ≤ c ∧ c ≤ 'F' then some (c.toNat - 'A'.toNat + 10)
  else none

/-- The digit for a value below 16, in lower case. -/
def digit (n : Nat) : Char :=
  Nat.digitChar n

/-- The digits of a number, in lower case, without leading zeros. -/
def digits (n : Nat) : List Char :=
  Nat.toDigits 16 n

theorem value?_digit {n : Nat} (h : n < 16) : value? (digit n) = some n := by
  match n with
  | 0 | 1 | 2 | 3 | 4 | 5 | 6 | 7 | 8 | 9 | 10 | 11 | 12 | 13 | 14 | 15 => rfl
  | _ + 16 => omega

end Receipt.Text.Hex
