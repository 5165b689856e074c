/-!
Searching a text for the first place where a pattern stands.
-/

namespace Receipt.Text

/-- Splits a text around the first place where the pattern stands: what is before it, and what is
after it. -/
def splitAround? [BEq α] (pattern : List α) : List α → Option (List α × List α)
  | [] => none
  | x :: xs =>
    if pattern.isPrefixOf (x :: xs) then
      some ([], (x :: xs).drop pattern.length)
    else
      (splitAround? pattern xs).map fun (before, after) => (x :: before, after)

/-- The parts of a split, with the pattern between them, make up the text. -/
theorem eq_of_splitAround? [BEq α] [LawfulBEq α] {pattern text before after : List α}
    (h : splitAround? pattern text = some (before, after)) :
    text = before ++ pattern ++ after := by
  induction text generalizing before with
  | nil => simp [splitAround?] at h
  | cons x xs ih =>
    unfold splitAround? at h
    split at h
    · rename_i hp
      obtain ⟨rest, hrest⟩ := List.isPrefixOf_iff_prefix.mp hp
      simp only [Option.some.injEq, Prod.mk.injEq] at h
      obtain ⟨rfl, rfl⟩ := h
      simp [← hrest]
    · obtain ⟨⟨b, a⟩, hb, he⟩ := Option.map_eq_some_iff.mp h
      simp only [Prod.mk.injEq] at he
      obtain ⟨rfl, rfl⟩ := he
      simp [ih hb]

/-- What is after the first place of a pattern is shorter than the text. -/
theorem length_lt_of_splitAround? [BEq α] {pattern text before after : List α}
    (hne : pattern ≠ []) (h : splitAround? pattern text = some (before, after)) :
    after.length < text.length := by
  induction text generalizing before with
  | nil => simp [splitAround?] at h
  | cons x xs ih =>
    unfold splitAround? at h
    split at h
    · simp only [Option.some.injEq, Prod.mk.injEq] at h
      obtain ⟨rfl, rfl⟩ := h
      have := List.length_pos_iff.mpr hne
      simp only [List.length_drop, List.length_cons]
      omega
    · obtain ⟨⟨b, a⟩, hb, he⟩ := Option.map_eq_some_iff.mp h
      simp only [Prod.mk.injEq] at he
      obtain ⟨rfl, rfl⟩ := he
      have := ih hb
      simp only [List.length_cons]
      omega

end Receipt.Text
