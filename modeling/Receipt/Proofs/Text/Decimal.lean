import Receipt.Text.Blank
import Receipt.Text.Decimal

/-!
# Numbers that are written and read back

A number is written with its decimal digits, of which the first is no zero unless it is the only
one.

* `IsNumeral`: digits with their value, where zeros may stand first.
* `read?_eq_some_iff`: exactly the numerals are read as numbers, signs aside.
* `read?_write`: what is written is read as the same number.
-/

namespace Receipt.Text.Decimal

theorem isDigit_of_mem_write {n : Nat} {c : Char} (h : c ∈ write n) : c.isDigit = true :=
  Nat.isDigit_of_mem_toDigits (by decide) (by decide) h

theorem isBlank_eq_false_of_isDigit {c : Char} (h : c.isDigit = true) : isBlank c = false := by
  simp only [Char.isDigit, Bool.and_eq_true, decide_eq_true_eq, ge_iff_le,
    UInt32.le_iff_toNat_le] at h
  have hcode : 48 ≤ c.toNat ∧ c.toNat ≤ 57 := h
  simp only [isBlank, Bool.or_eq_false_iff, Bool.and_eq_false_iff, decide_eq_false_iff_not,
    beq_eq_false_iff_ne]
  omega

theorem write_ne_nil (n : Nat) : write n ≠ [] :=
  Nat.toDigits_ne_nil

/-- A number that is not zero is not written with a zero at its start. -/
theorem head?_write_ne_zero {n : Nat} (h : 0 < n) : (write n).head? ≠ some '0' := by
  induction n using Nat.strongRecOn with
  | ind n ih =>
    rw [write, Nat.toDigits_eq_if (by decide)]
    by_cases hsmall : n < 10
    · rw [if_pos hsmall]
      match n with
      | 1 | 2 | 3 | 4 | 5 | 6 | 7 | 8 | 9 => decide
      | n + 10 => omega
    · obtain ⟨c, cs, hfront⟩ := List.exists_cons_of_ne_nil (write_ne_nil (n / 10))
      have hc := ih (n / 10) (by omega) (by omega)
      rw [hfront] at hc
      rw [if_neg hsmall, ← write, hfront]
      exact hc

theorem digitsFrom_of_all_isDigit {cs : List Char} (h : ∀ c ∈ cs, c.isDigit = true) (acc : Nat) :
    digitsFrom acc cs = some (Nat.ofDigitChars 10 cs acc) := by
  induction cs generalizing acc with
  | nil => rfl
  | cons c cs ih =>
    rw [digitsFrom, if_pos (h c (by simp)), ih (fun d hd => h d (by simp [hd])), Nat.mul_comm]
    rfl

theorem all_isDigit_of_digitsFrom {cs : List Char} {acc n : Nat} (h : digitsFrom acc cs = some n) :
    ∀ c ∈ cs, c.isDigit = true := by
  induction cs generalizing acc with
  | nil => exact List.forall_mem_nil _
  | cons c cs ih =>
    rw [digitsFrom] at h
    split at h
    · rename_i hc
      exact List.forall_mem_cons.mpr ⟨hc, ih h⟩
    · contradiction

/-! ## Numerals -/

/-- A text is made of decimal digits, and these have the value `n`. -/
structure IsNumeral (cs : List Char) (n : Nat) : Prop where
  ne_nil : cs ≠ []
  digits : ∀ c ∈ cs, c.isDigit = true
  value : Nat.ofDigitChars 10 cs 0 = n

variable {cs : List Char} {n : Nat}

/-- No sign is part of a numeral. -/
theorem IsNumeral.plus_not_mem (h : IsNumeral cs n) : '+' ∉ cs := fun hmem =>
  absurd (h.digits '+' hmem) (by decide)

/-- A text without a sign is read as a number exactly if it is a numeral. -/
theorem read?_eq_some_iff (hsign : '+' ∉ cs) : read? cs = some n ↔ IsNumeral cs n := by
  have hread : read? cs = if cs.isEmpty then none else digitsFrom 0 cs := by
    rw [read?]
    rintro rest rfl
    exact hsign List.mem_cons_self
  rw [hread]
  by_cases hempty : cs = []
  · subst hempty
    exact ⟨fun h => (nomatch h), fun h => absurd rfl h.ne_nil⟩
  · rw [if_neg (by simpa using hempty)]
    constructor
    · intro h
      have hdigits := all_isDigit_of_digitsFrom h
      rw [digitsFrom_of_all_isDigit hdigits] at h
      exact ⟨hempty, hdigits, Option.some.inj h⟩
    · rintro ⟨-, hdigits, hvalue⟩
      rw [digitsFrom_of_all_isDigit hdigits, hvalue]

theorem readBelow?_eq_some_iff {bound : Nat} (hsign : '+' ∉ cs) :
    readBelow? bound cs = some n ↔ IsNumeral cs n ∧ n < bound := by
  rw [readBelow?, Option.filter_eq_some_iff, read?_eq_some_iff hsign, decide_eq_true_eq]

theorem readUInt32?_eq_some_iff {n : UInt32} (hsign : '+' ∉ cs) :
    readUInt32? cs = some n ↔ IsNumeral cs n.toNat := by
  rw [readUInt32?, Option.map_eq_some_iff]
  constructor
  · rintro ⟨value, hread, rfl⟩
    obtain ⟨hvalue, hlt⟩ := (readBelow?_eq_some_iff hsign).mp hread
    rwa [UInt32.toNat_ofNat_of_lt' hlt]
  · intro h
    exact ⟨n.toNat, (readBelow?_eq_some_iff hsign).mpr ⟨h, n.toNat_lt⟩, UInt32.ofNat_toNat⟩

theorem isNumeral_write (n : Nat) : IsNumeral (write n) n where
  ne_nil := write_ne_nil n
  digits _ hc := isDigit_of_mem_write hc
  value := Nat.ofDigitChars_toDigits (by decide) (by decide)

/-- The value of the digits of a number. -/
theorem digitsFrom_write (n : Nat) : digitsFrom 0 (write n) = some n := by
  rw [digitsFrom_of_all_isDigit (isNumeral_write n).digits, (isNumeral_write n).value]

/-- A number that is written is read back. -/
theorem read?_write (n : Nat) : read? (write n) = some n :=
  (read?_eq_some_iff (isNumeral_write n).plus_not_mem).mpr (isNumeral_write n)

theorem readBelow?_write {n bound : Nat} (h : n < bound) :
    readBelow? bound (write n) = some n := by
  rw [readBelow?, read?_write, Option.filter_some, if_pos (decide_eq_true h)]

end Receipt.Text.Decimal
