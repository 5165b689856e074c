import Receipt.Text.Utf8

/-!
# Places in a text

The place of a part of a text is given by two numbers of bytes: those before its beginning and those
before its end.  A part is a list of characters, so both ends lie between characters.

* `Utf8.length_append`: bytes are counted part by part.
* `StandsAt`: a part and its place.
* `exists_append_of_length_le`, `exists_cons_append_of_length_lt`, `append_inj_of_length_eq`: which
  of two places in a text comes first can be told from the bytes before them.
-/

namespace Receipt.Text

variable {text part first second first' second' : List Char} {start stop : Nat}

/-! ## Bytes -/

@[simp] theorem Utf8.length_nil : Utf8.length [] = 0 := rfl

@[simp] theorem Utf8.length_cons (c : Char) (cs : List Char) :
    Utf8.length (c :: cs) = c.utf8Size + Utf8.length cs := rfl

@[simp] theorem Utf8.length_append (first second : List Char) :
    Utf8.length (first ++ second) = Utf8.length first + Utf8.length second := by
  induction first with
  | nil => exact (Nat.zero_add _).symm
  | cons c first ih => rw [List.cons_append, length_cons, length_cons, ih, Nat.add_assoc]

theorem Utf8.length_pos (h : text ≠ []) : 0 < Utf8.length text := by
  obtain ⟨c, cs, rfl⟩ := List.exists_cons_of_ne_nil h
  rw [length_cons]
  exact Nat.lt_of_lt_of_le c.utf8Size_pos (Nat.le_add_right _ _)

/-- If no more bytes stand before one place of a text than before another, it comes first. -/
theorem exists_append_of_length_le (h : first ++ second = first' ++ second')
    (hle : Utf8.length first ≤ Utf8.length first') :
    ∃ more, first' = first ++ more ∧ second = more ++ second' := by
  rcases List.append_eq_append_iff.mp h with ⟨more, hfirst, hsecond⟩ | ⟨more, hfirst, hsecond⟩
  · exact ⟨more, hfirst, hsecond⟩
  · cases more with
    | nil => exact ⟨[], by simpa using hfirst.symm, by simpa using hsecond.symm⟩
    | cons c more =>
      -- the other place comes first, and there is a character between the two
      have hpos := Utf8.length_pos (List.cons_ne_nil c more)
      rw [hfirst, Utf8.length_append] at hle
      omega

/-- If fewer bytes stand before one place of a text than before another, there is a character
between the two. -/
theorem exists_cons_append_of_length_lt (h : first ++ second = first' ++ second')
    (hlt : Utf8.length first < Utf8.length first') :
    ∃ c more, first' = first ++ c :: more ∧ second = c :: more ++ second' := by
  obtain ⟨more, rfl, rfl⟩ := exists_append_of_length_le h (Nat.le_of_lt hlt)
  cases more with
  | nil => simp at hlt
  | cons c more => exact ⟨c, more, rfl, rfl⟩

/-- Two places with the same number of bytes before them are the same. -/
theorem append_inj_of_length_eq (h : first ++ second = first' ++ second')
    (heq : Utf8.length first = Utf8.length first') : first = first' ∧ second = second' := by
  obtain ⟨more, rfl, rfl⟩ := exists_append_of_length_le h (Nat.le_of_eq heq)
  cases more with
  | nil => simp
  | cons c more =>
    have hpos := Utf8.length_pos (List.cons_ne_nil c more)
    rw [Utf8.length_append] at heq
    omega

/-! ## Parts -/

/-- A part of a text takes the bytes from `start` up to, and without, `stop`. -/
def StandsAt (text part : List Char) (start stop : Nat) : Prop :=
  ∃ before after, text = before ++ part ++ after ∧
    Utf8.length before = start ∧ start + Utf8.length part = stop

theorem standsAt_append (before part after : List Char) :
    StandsAt (before ++ part ++ after) part (Utf8.length before)
      (Utf8.length before + Utf8.length part) :=
  ⟨before, after, rfl, rfl, rfl⟩

namespace StandsAt

theorem start_le (h : StandsAt text part start stop) : start ≤ stop := by
  obtain ⟨-, -, -, -, hstop⟩ := h
  omega

theorem start_lt (h : StandsAt text part start stop) (hne : part ≠ []) : start < stop := by
  obtain ⟨-, -, -, -, hstop⟩ := h
  have := Utf8.length_pos hne
  omega

end StandsAt

end Receipt.Text
