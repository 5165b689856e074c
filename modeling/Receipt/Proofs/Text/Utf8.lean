import Mathlib.Tactic.Common
import Receipt.Text.Utf8

/-!
# Decoding what was encoded

The bytes of a text are decoded to that text.  The first byte of a character says how many belong to
it, and the bounds on the second one leave room for every character.

* `decodeFrom_one`, `decodeFrom_two`, `decodeFrom_three`, `decodeFrom_four`: the bytes of one
  character, with anything after them.
* `decodeFrom_utf8EncodeChar`: a character that was encoded.
* `decode_toUTF8`: a text that was encoded.
-/

namespace Receipt.Text.Utf8

variable {index : Nat} {b₀ b₁ b₂ b₃ : UInt8} {rest : List UInt8}

/-! ## The bytes of one character -/

theorem isContinuation_iff {byte : UInt8} :
    isContinuation byte = true ↔ 0x80 ≤ byte.toNat ∧ byte.toNat ≤ 0xBF := by
  rw [isContinuation, Bool.and_eq_true, decide_eq_true_eq, decide_eq_true_eq,
    UInt8.le_iff_toNat_le, UInt8.le_iff_toNat_le]
  rfl

/-- Which second bytes lead bytes exclude: those of overlong forms, surrogates, and code points
beyond the last. -/
theorem canFollow_of_bounds (h : 0x80 ≤ b₁.toNat ∧ b₁.toNat ≤ 0xBF)
    (hthree : b₀.toNat = 0xE0 → 0xA0 ≤ b₁.toNat) (hsurrogate : b₀.toNat = 0xED → b₁.toNat ≤ 0x9F)
    (hfour : b₀.toNat = 0xF0 → 0x90 ≤ b₁.toNat) (hlast : b₀.toNat = 0xF4 → b₁.toNat ≤ 0x8F) :
    canFollow b₀ b₁ = true := by
  simp only [canFollow, isContinuation, beq_iff_eq, ← UInt8.toNat_inj, UInt8.le_iff_toNat_le,
    UInt8.reduceToNat]
  split
  · simp; omega
  · split
    · simp; omega
    · split
      · simp; omega
      · split
        · simp; omega
        · simp; omega

theorem decodeFrom_one (h : b₀.toNat < 0x80) :
    decodeFrom index (b₀ :: rest) =
      (Char.ofNat b₀.toNat :: ·) <$> decodeFrom (index + 1) rest := by
  have hlt : b₀ < 0x80 := UInt8.lt_iff_toNat_lt.mpr h
  rw [decodeFrom.eq_def]
  simp only [if_pos hlt]
  rfl

theorem decodeFrom_two (h : 0xC2 ≤ b₀.toNat ∧ b₀.toNat ≤ 0xDF)
    (h₁ : isContinuation b₁ = true) :
    decodeFrom index (b₀ :: b₁ :: rest) =
      (Char.ofNat (extend (b₀.toNat - 0xC0) b₁) :: ·) <$> decodeFrom (index + 2) rest := by
  rw [decodeFrom.eq_def]
  simp only [UInt8.lt_iff_toNat_lt, UInt8.le_iff_toNat_le, UInt8.reduceToNat]
  rw [if_neg (by omega), if_pos (by simp; omega), if_pos h₁]
  rfl

theorem decodeFrom_three (h : 0xE0 ≤ b₀.toNat ∧ b₀.toNat ≤ 0xEF) (h₁ : canFollow b₀ b₁ = true)
    (h₂ : isContinuation b₂ = true) :
    decodeFrom index (b₀ :: b₁ :: b₂ :: rest) =
      (Char.ofNat (extend (extend (b₀.toNat - 0xE0) b₁) b₂) :: ·) <$>
        decodeFrom (index + 3) rest := by
  rw [decodeFrom.eq_def]
  simp only [UInt8.lt_iff_toNat_lt, UInt8.le_iff_toNat_le, UInt8.reduceToNat]
  rw [if_neg (by omega), if_neg (by simp; omega), if_pos (by simp; omega), if_pos h₁, if_pos h₂]
  rfl

theorem decodeFrom_four (h : 0xF0 ≤ b₀.toNat ∧ b₀.toNat ≤ 0xF4) (h₁ : canFollow b₀ b₁ = true)
    (h₂ : isContinuation b₂ = true) (h₃ : isContinuation b₃ = true) :
    decodeFrom index (b₀ :: b₁ :: b₂ :: b₃ :: rest) =
      (Char.ofNat (extend (extend (extend (b₀.toNat - 0xF0) b₁) b₂) b₃) :: ·) <$>
        decodeFrom (index + 4) rest := by
  rw [decodeFrom.eq_def]
  simp only [UInt8.lt_iff_toNat_lt, UInt8.le_iff_toNat_le, UInt8.reduceToNat]
  rw [if_neg (by omega), if_neg (by simp; omega), if_neg (by simp; omega),
    if_pos (by simp; omega), if_pos h₁, if_pos h₂, if_pos h₃]
  rfl

/-! ## Texts -/

theorem toNat_ofNat_of_lt_256 {n : Nat} (h : n < 256) : (UInt8.ofNat n).toNat = n :=
  UInt8.toNat_ofNat_of_lt' h

theorem isContinuation_ofNat (n : Nat) : isContinuation (UInt8.ofNat (n % 64 + 128)) = true := by
  rw [isContinuation_iff, toNat_ofNat_of_lt_256 (by omega)]
  omega

theorem extend_ofNat (bits n : Nat) :
    extend bits (UInt8.ofNat (n % 64 + 128)) = bits * 64 + n % 64 := by
  have hbyte : (UInt8.ofNat (n % 64 + 128)).toNat = n % 64 + 128 := toNat_ofNat_of_lt_256 (by omega)
  unfold extend
  omega

/-- A character that was encoded is decoded again. -/
theorem decodeFrom_utf8EncodeChar (c : Char) :
    decodeFrom index (String.utf8EncodeChar c ++ rest) =
      (c :: ·) <$> decodeFrom (index + c.utf8Size) rest := by
  -- a code point is no surrogate and not beyond the last, which the second byte has to respect
  have hbounds : c.val.toNat < 0xD800 ∨ 0xDFFF < c.val.toNat ∧ c.val.toNat < 0x110000 := c.valid
  have hchar : Char.ofNat c.val.toNat = c := Char.ofNat_toNat c
  rw [← String.length_utf8EncodeChar]
  fun_cases String.utf8EncodeChar c with
  | case1 v hone =>
    have hlead : (UInt8.ofNat v).toNat = v := toNat_ofNat_of_lt_256 (by omega)
    rw [List.singleton_append, decodeFrom_one (by omega), hlead, hchar]
    rfl
  | case2 v hone htwo =>
    have hlead : (UInt8.ofNat (v / 64 % 32 + 192)).toNat = v / 64 % 32 + 192 :=
      toNat_ofNat_of_lt_256 (by omega)
    have hpoint : v / 64 % 32 * 64 + v % 64 = v := by omega
    rw [List.cons_append, List.singleton_append,
      decodeFrom_two (by omega) (isContinuation_ofNat v), extend_ofNat, hlead,
      Nat.add_sub_cancel, hpoint, hchar]
    rfl
  | case3 v hone htwo hthree =>
    have hlead : (UInt8.ofNat (v / 4096 % 16 + 224)).toNat = v / 4096 % 16 + 224 :=
      toNat_ofNat_of_lt_256 (by omega)
    have hsecond : (UInt8.ofNat (v / 64 % 64 + 128)).toNat = v / 64 % 64 + 128 :=
      toNat_ofNat_of_lt_256 (by omega)
    have hfollows : canFollow (UInt8.ofNat (v / 4096 % 16 + 224))
        (UInt8.ofNat (v / 64 % 64 + 128)) = true := by
      apply canFollow_of_bounds
      all_goals rw [hsecond]
      all_goals omega
    have hpoint : (v / 4096 % 16 * 64 + v / 64 % 64) * 64 + v % 64 = v := by omega
    rw [List.cons_append, List.cons_append, List.singleton_append,
      decodeFrom_three (by omega) hfollows (isContinuation_ofNat v), extend_ofNat, extend_ofNat,
      hlead, Nat.add_sub_cancel, hpoint, hchar]
    rfl
  | case4 v hone htwo hthree =>
    have hlead : (UInt8.ofNat (v / 262144 % 8 + 240)).toNat = v / 262144 % 8 + 240 :=
      toNat_ofNat_of_lt_256 (by omega)
    have hsecond : (UInt8.ofNat (v / 4096 % 64 + 128)).toNat = v / 4096 % 64 + 128 :=
      toNat_ofNat_of_lt_256 (by omega)
    have hfollows : canFollow (UInt8.ofNat (v / 262144 % 8 + 240))
        (UInt8.ofNat (v / 4096 % 64 + 128)) = true := by
      apply canFollow_of_bounds
      all_goals rw [hsecond]
      all_goals omega
    have hpoint : ((v / 262144 % 8 * 64 + v / 4096 % 64) * 64 + v / 64 % 64) * 64 + v % 64 = v := by
      omega
    rw [List.cons_append, List.cons_append, List.cons_append, List.singleton_append,
      decodeFrom_four (by omega) hfollows (isContinuation_ofNat (v / 64)) (isContinuation_ofNat v),
      extend_ofNat, extend_ofNat, extend_ofNat, hlead, Nat.add_sub_cancel, hpoint, hchar]
    rfl

theorem decodeFrom_flatMap_utf8EncodeChar (text : List Char) :
    decodeFrom index (text.flatMap String.utf8EncodeChar) = .ok text := by
  induction text generalizing index with
  | nil => rfl
  | cons c cs ih =>
    rw [List.flatMap_cons, decodeFrom_utf8EncodeChar, ih]
    rfl

theorem toList_toUTF8 (text : String) :
    text.toUTF8.data.toList = text.toList.flatMap String.utf8EncodeChar := by
  rw [String.toUTF8_eq_toByteArray, ← String.utf8Encode_toList, List.utf8Encode,
    List.data_toByteArray]

/-- A text that was encoded is decoded again. -/
theorem decode_toUTF8 (text : String) : decode text.toUTF8.data.toList = .ok text := by
  rw [decode, toList_toUTF8, decodeFrom_flatMap_utf8EncodeChar]
  exact congrArg Except.ok String.ofList_toList

end Receipt.Text.Utf8
