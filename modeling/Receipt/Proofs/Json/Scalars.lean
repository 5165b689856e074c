import Receipt.Json.Read
import Receipt.Json.Write
import Receipt.Proofs.Text.Decimal
import Receipt.Proofs.Text.Search

/-!
# Strings and whole numbers read back

What is written for a string or a whole number is read as that string or number, whatever text
follows it.  A character is written as itself or as an escape that stands for it
(`escapeChar_cases`), so a string ends at its own closing quote (`readChars?_flatMap_escapeChar`).
A number has no end mark: it is read back where the text that follows does not go on with it
(`EndsNumber`, `readNumber?_writeInteger`).
-/

namespace Receipt.Json

/-! ## Strings -/

/-- A character is written as itself, or as a backslash and what it is read back from. -/
theorem escapeChar_cases (c : Char) :
    (escapeChar c = [c] ∧ c ≠ '"' ∧ c ≠ '\\' ∧ ¬ c.toNat < 0x20) ∨
      ∃ escape, escapeChar c = '\\' :: escape ∧
        ∀ rest, readEscape? (escape ++ rest) = some (c, rest) := by
  unfold escapeChar
  split
  case h_8 hquote hbackslash _ _ _ _ _ =>
    by_cases hcontrol : c.toNat < 0x20
    · refine .inr ⟨_, if_pos hcontrol, fun rest => ?_⟩
      have high := Text.Hex.value?_digit (show c.toNat / 16 < 16 by omega)
      have low := Text.Hex.value?_digit (show c.toNat % 16 < 16 by omega)
      have zero : Text.Hex.value? '0' = some 0 := rfl
      have unit : ((0 * 16 + 0) * 16 + c.toNat / 16) * 16 + c.toNat % 16 = c.toNat := by omega
      show readUnicode? ('0' :: '0' :: Text.Hex.digit _ :: Text.Hex.digit _ :: rest) = _
      simp only [readUnicode?, readHex?, zero, high, low, Option.bind_eq_bind, Option.bind_some,
        Option.pure_def, unit]
      rw [if_neg (by omega), if_neg (by omega), Char.ofNat_toNat]
    · exact .inl ⟨if_neg hcontrol, hquote, hbackslash, hcontrol⟩
  all_goals exact .inr ⟨_, rfl, fun _ => rfl⟩

theorem readChars?_cons {c : Char} (hquote : c ≠ '"') (hbackslash : c ≠ '\\')
    (hcontrol : ¬ c.toNat < 0x20) (cs : List Char) :
    readChars? (c :: cs) = (readChars? cs).map fun (chars, rest) => (c :: chars, rest) := by
  rw [readChars?, if_neg hquote, if_neg hbackslash, if_neg hcontrol]

theorem readChars?_escape {c : Char} {cs rest : List Char}
    (h : readEscape? cs = some (c, rest)) :
    readChars? ('\\' :: cs) = (readChars? rest).map fun (chars, rest) => (c :: chars, rest) := by
  rw [readChars?, if_neg (by decide), if_pos rfl]
  split
  · simp_all
  · simp_all

/-- The characters of a string are read up to its closing quote. -/
theorem readChars?_flatMap_escapeChar (chars rest : List Char) :
    readChars? (chars.flatMap escapeChar ++ '"' :: rest) = some (chars, rest) := by
  induction chars with
  | nil => rw [List.flatMap_nil, List.nil_append, readChars?, if_pos rfl]
  | cons c chars ih =>
    rw [List.flatMap_cons, List.append_assoc]
    rcases escapeChar_cases c with ⟨hself, hquote, hbackslash, hcontrol⟩ | ⟨escape, hc, hread⟩
    · rw [hself, List.singleton_append, readChars?_cons hquote hbackslash hcontrol, ih]
      rfl
    · rw [hc, List.cons_append, readChars?_escape (hread _), ih]
      rfl

theorem writeString_append (value : String) (rest : List Char) :
    writeString value ++ rest = '"' :: (value.toList.flatMap escapeChar ++ '"' :: rest) := by
  simp [writeString]

/-- A string in quotes is read back. -/
theorem readString?_writeString (value : String) (rest : List Char) :
    readString? (writeString value ++ rest) = some (value, rest) := by
  rw [writeString_append, readString?, readChars?_flatMap_escapeChar]
  simp

/-! ## Whole numbers -/

section Numbers

variable {rest : List Char}

/-- The text does not go on with a number that stands before it. -/
def EndsNumber (rest : List Char) : Prop :=
  ∀ c ∈ rest.head?, c.isDigit = false ∧ c ≠ '.' ∧ c ≠ 'e' ∧ c ≠ 'E'

theorem readWhole?_write (n : Nat) (hrest : EndsNumber rest) :
    readWhole? (Text.Decimal.write n ++ rest) = some (Text.Decimal.write n, rest) := by
  have hall : ∀ c ∈ Text.Decimal.write n, c.isDigit = true := fun _ hc =>
    Text.Decimal.isDigit_of_mem_write hc
  obtain ⟨hdigits, hafter⟩ :=
    Text.takeWhile_append_of_all hall rest fun c hc => (hrest c hc).1
  have hread : readDigits? (Text.Decimal.write n ++ rest) =
      some (Text.Decimal.write n, rest) := by
    simp [readDigits?, hdigits, hafter, Text.Decimal.write_ne_nil]
  rw [readWhole?, hread]
  split
  case h_1 second more rest' h =>
    -- two digits of which the first is a zero are not what is written for a number
    have hwrite : Text.Decimal.write n = '0' :: second :: more := by simp_all
    rcases Nat.eq_zero_or_pos n with rfl | hpos
    · exact absurd hwrite (by simp [Text.Decimal.write])
    · exact absurd (by rw [hwrite]; rfl) (Text.Decimal.head?_write_ne_zero hpos)
  case h_2 => rfl

theorem readUnsigned?_write (n : Nat) (hrest : EndsNumber rest) :
    readUnsigned? (Text.Decimal.write n ++ rest) = some ((Text.Decimal.write n, []), rest) := by
  have hfraction : readFraction? rest = some ([], rest) := by
    cases rest with
    | nil => rfl
    | cons c rest => simp [readFraction?, (hrest c rfl).2.1]
  have hexponent : readExponent? rest = some ([], rest) := by
    cases rest with
    | nil => rfl
    | cons c rest => simp [readExponent?, (hrest c rfl).2.2.1, (hrest c rfl).2.2.2]
  simp [readUnsigned?, readWhole?_write n hrest, hfraction, hexponent]

theorem exists_writeInteger (n : Int) :
    ∃ c cs, writeInteger n = c :: cs ∧ (c.isDigit = true ∨ c = '-') := by
  cases n with
  | ofNat n =>
    obtain ⟨c, cs, h⟩ := List.exists_cons_of_ne_nil (Text.Decimal.write_ne_nil n)
    exact ⟨c, cs, h, .inl (Text.Decimal.isDigit_of_mem_write (n := n) (by simp [h]))⟩
  | negSucc n => exact ⟨'-', _, rfl, .inr rfl⟩

/-- A whole number is read back where the text does not go on with it. -/
theorem readNumber?_writeInteger (n : Int) (hrest : EndsNumber rest) :
    readNumber? (writeInteger n ++ rest) = some (integer n, rest) := by
  cases n with
  | ofNat n =>
    have hsign : ∀ cs, Text.Decimal.write n ++ rest = '-' :: cs → False := by
      intro cs h
      obtain ⟨c, cs', hwrite⟩ := List.exists_cons_of_ne_nil (Text.Decimal.write_ne_nil n)
      have hdigit : c.isDigit = true :=
        Text.Decimal.isDigit_of_mem_write (n := n) (by simp [hwrite])
      have hc : c = '-' := by simp_all
      rw [hc] at hdigit
      exact absurd hdigit (by decide)
    rw [writeInteger, readNumber?.eq_2 _ hsign, readUnsigned?_write n hrest]
    simp [Text.Decimal.digitsFrom_write]
  | negSucc n =>
    rw [writeInteger, List.cons_append, readNumber?, readUnsigned?_write (n + 1) hrest]
    simp [Text.Decimal.digitsFrom_write, Int.negSucc_eq]

end Numbers

end Receipt.Json
