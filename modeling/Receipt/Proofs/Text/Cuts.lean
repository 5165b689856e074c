import Receipt.Proofs.Text.Search

/-!
# Texts cut at a pattern

A text is cut at the places where a pattern stands into the pieces between them.  When the first
character of the pattern occurs nowhere else in it, no two places overlap, and a search that goes
from one place to the next comes along the pieces of the cut.

* `Cut`: a text and its pieces.
* `not_infix_of_splitAround?`, `splitAround?_of_not_infix`: the search finds the first place.
-/

namespace Receipt.Text

variable {pattern text piece rest before after : List Char} {pieces : List (List Char)}

/-- The pieces of a text between the places where a pattern stands. -/
inductive Cut (pattern : List Char) : List Char → List (List Char) → Prop
  | last {piece : List Char} (hpiece : ¬ pattern <:+: piece) : Cut pattern piece [piece]
  | more {piece rest : List Char} {pieces : List (List Char)} (hpiece : ¬ pattern <:+: piece)
      (hrest : Cut pattern rest pieces) : Cut pattern (piece ++ pattern ++ rest) (piece :: pieces)

/-- The pattern does not stand before the first place that the search finds. -/
theorem not_infix_of_splitAround? (hne : pattern ≠ [])
    (h : splitAround? pattern text = some (before, after)) : ¬ pattern <:+: before := by
  induction text generalizing before with
  | nil => simp [splitAround?] at h
  | cons c cs ih =>
    by_cases hp : pattern <+: c :: cs
    · rw [splitAround?, if_pos (by simpa using hp)] at h
      simp only [Option.some.injEq, Prod.mk.injEq] at h
      rw [← h.1, List.infix_nil]
      exact hne
    · rw [splitAround?_cons_of_not_begins hp] at h
      obtain ⟨⟨before', after'⟩, hfound, heq⟩ := Option.map_eq_some_iff.mp h
      simp only [Prod.map_apply, id_eq, Prod.mk.injEq] at heq
      obtain ⟨rfl, rfl⟩ := heq
      rw [List.infix_cons_iff, not_or]
      refine ⟨fun hbegins => hp ?_, ih hfound⟩
      rw [eq_of_splitAround? hfound, List.append_assoc, ← List.cons_append]
      exact hbegins.trans (List.prefix_append _ _)

/-- A pattern that begins with a character that it has nowhere else is found behind a piece in which
it does not stand. -/
theorem splitAround?_of_not_infix {c : Char} {body : List Char} (hbody : c ∉ body)
    (h : ¬ c :: body <:+: piece) (rest : List Char) :
    splitAround? (c :: body) (piece ++ c :: body ++ rest) = some (piece, rest) := by
  induction piece with
  | nil => exact splitAround?_append_self (List.cons_ne_nil c body) rest
  | cons d ds ih =>
    rw [List.infix_cons_iff, not_or] at h
    have hp : ¬ c :: body <+: d :: (ds ++ c :: body ++ rest) := by
      rintro ⟨tail, htail⟩
      rw [List.append_assoc, ← List.cons_append] at htail
      rcases List.append_eq_append_iff.mp htail with ⟨excess, hpiece, -⟩ | ⟨excess, hpattern, hrest⟩
      · exact h.1 ⟨excess, hpiece.symm⟩
      · cases excess with
        | nil => exact h.1 ⟨[], by simpa using hpattern⟩
        | cons e excess =>
          -- the pattern would have its first character again where it stands behind the piece
          rw [List.cons_append, List.cons_append, List.cons.injEq] at hrest
          rw [List.cons_append, List.cons.injEq] at hpattern
          apply hbody
          rw [hpattern.2, hrest.1]
          simp
    rw [List.cons_append, List.cons_append, splitAround?_cons_of_not_begins hp, ih h.2]
    rfl

end Receipt.Text
